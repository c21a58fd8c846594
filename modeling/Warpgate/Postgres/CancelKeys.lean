/-
This file is about the cancel keys of a proxied PostgreSQL session. A key in a format that the
client does not know is replaced by one drawn at random, which is forgotten at its first use.
-/

import Mathlib.Logic.Function.Basic

namespace Warpgate.Postgres

open Function

/-! ### Keys -/

inductive SecretKey
  | i32 (value : Int32)
  | bytes (value : List UInt8)
  deriving DecidableEq

inductive ProtocolVersion
  | protocol3_0
  | protocol3_2

/-- The versions of the client (`decode_context`) and of the target (`client`), and the maps from a
key the client was given to the one the target issued. -/
structure PostgresSession where
  decodeContext : ProtocolVersion
  client : ProtocolVersion
  cancelKeyDowngradeMap : SecretKey → Option SecretKey
  cancelKeyUpgradeMap : SecretKey → Option SecretKey

namespace PostgresSession

def new (version target : ProtocolVersion) : PostgresSession :=
  ⟨version, target, fun _ => none, fun _ => none⟩

variable (session : PostgresSession)

/-- The key given to the client: `random` and `value` are what is drawn where one is needed. -/
def maybeTransformServerMsg (key : SecretKey) (random : Int32)
    (value : List UInt8) : SecretKey × PostgresSession :=
  match session.decodeContext, key with
  | .protocol3_0, .bytes _ => (.i32 random, { session with
      cancelKeyDowngradeMap := update session.cancelKeyDowngradeMap (.i32 random) (some key) })
  | .protocol3_2, .i32 _ => (.bytes value, { session with
      cancelKeyUpgradeMap := update session.cancelKeyUpgradeMap (.bytes value) (some key) })
  | _, _ => (key, session)

def upgradeKey (key : SecretKey) : SecretKey × PostgresSession :=
  match key with
  | .i32 _ => ((session.cancelKeyDowngradeMap key).getD key, { session with
      cancelKeyDowngradeMap := update session.cancelKeyDowngradeMap key none })
  | .bytes _ => (key, session)

def downgradeKey (key : SecretKey) : SecretKey × PostgresSession :=
  match session.client, key with
  | .protocol3_0, .bytes _ => ((session.cancelKeyUpgradeMap key).getD key, { session with
      cancelKeyUpgradeMap := update session.cancelKeyUpgradeMap key none })
  | _, _ => (key, session)

/-- The key forwarded to the target. -/
def maybeTransformClientMsg (key : SecretKey) : SecretKey × PostgresSession :=
  (session.upgradeKey key).2.downgradeKey (session.upgradeKey key).1

end PostgresSession

open PostgresSession

inductive Message
  | backendKeyData (key : SecretKey) (random : Int32) (value : List UInt8)
  | cancelRequest (key : SecretKey)

def step (session : PostgresSession) : Message → PostgresSession
  | .backendKeyData key random value => (session.maybeTransformServerMsg key random value).2
  | .cancelRequest key => (session.maybeTransformClientMsg key).2

def run (session : PostgresSession) (messages : List Message) : PostgresSession :=
  messages.foldl step session

/-- The format of the keys of a target of this version. -/
def ProtocolVersion.Issues : ProtocolVersion → SecretKey → Prop
  | .protocol3_0, .i32 _ | .protocol3_2, .bytes _ => True
  | _, _ => False

/-! ### What becomes of a key -/

/-- A map is in use only between the two versions it is for. -/
structure Sound (version target : ProtocolVersion) (session : PostgresSession) : Prop where
  speaks : session.decodeContext = version
  reaches : session.client = target
  downgrades : ∀ key issued, session.cancelKeyDowngradeMap key = some issued →
    version = .protocol3_0 ∧ target = .protocol3_2
  upgrades : ∀ key issued, session.cancelKeyUpgradeMap key = some issued →
    version = .protocol3_2 ∧ target = .protocol3_0

section

variable {version target : ProtocolVersion} {s : PostgresSession} {key given : SecretKey}

theorem eq_of_removed {map : SecretKey → Option SecretKey} {other issued : SecretKey}
    (found : update map key none other = some issued) : map other = some issued := by
  rw [update_apply] at found
  split at found
  · cases found
  · exact found

variable (sound : Sound version target s)

include sound

theorem Sound.cancelRequest (key : SecretKey) :
    Sound version target (s.maybeTransformClientMsg key).2 := by
  have first : Sound version target (s.upgradeKey key).2 := by
    cases key with
    | i32 _ =>
      exact { sound with downgrades _ _ found := sound.downgrades _ _ (eq_of_removed found) }
    | bytes _ => exact sound
  unfold maybeTransformClientMsg downgradeKey
  split
  · exact { first with upgrades _ _ found := first.upgrades _ _ (eq_of_removed found) }
  · exact first

theorem Sound.backendKeyData (format : target.Issues key)
    (random : Int32) (value : List UInt8) :
    Sound version target (s.maybeTransformServerMsg key random value).2 := by
  unfold maybeTransformServerMsg
  rw [sound.speaks]
  cases version <;> cases target <;> cases key <;> first
    | exact format.elim
    | exact sound
    | exact { sound with downgrades _ _ _ := ⟨rfl, rfl⟩, speaks := rfl }
    | exact { sound with upgrades _ _ _ := ⟨rfl, rfl⟩, speaks := rfl }

theorem Sound.run {messages : List Message}
    (formats : ∀ key random value, .backendKeyData key random value ∈ messages →
      target.Issues key) : Sound version target (run s messages) := by
  induction messages generalizing s with
  | nil => exact sound
  | cons message messages ih =>
    refine ih ?_ fun key random value mem => formats key random value (.tail _ mem)
    cases message with
    | backendKeyData key random value => exact sound.backendKeyData (formats _ _ _ (.head _)) _ _
    | cancelRequest key => exact sound.cancelRequest key

omit sound in
theorem Sound.undowngraded (sound : Sound version .protocol3_0 s) (key : SecretKey) :
    s.cancelKeyDowngradeMap key = none :=
  Option.eq_none_iff_forall_ne_some.mpr fun _ found => by cases (sound.downgrades _ _ found).2

theorem Sound.forwards_given (format : target.Issues key)
    (random : Int32) (value : List UInt8) :
    ((s.maybeTransformServerMsg key random value).2.maybeTransformClientMsg
      (s.maybeTransformServerMsg key random value).1).1 = key := by
  have isVersion := sound.speaks
  have isTarget := sound.reaches
  unfold maybeTransformServerMsg maybeTransformClientMsg
  cases target with
  | protocol3_0 =>
    have unused := sound.undowngraded
    cases version <;> cases key <;>
      simp_all [upgradeKey, downgradeKey, ProtocolVersion.Issues]
  | protocol3_2 =>
    cases version <;> cases key <;>
      simp_all [upgradeKey, downgradeKey, ProtocolVersion.Issues]

/-- A request with another key leaves what becomes of this one. -/
theorem Sound.forwards_cancelRequest (other : key ≠ given) :
    ((s.maybeTransformClientMsg key).2.maybeTransformClientMsg given).1 =
      (s.maybeTransformClientMsg given).1 := by
  have isTarget := sound.reaches
  unfold maybeTransformClientMsg
  cases target with
  | protocol3_0 =>
    have unused := sound.undowngraded
    cases key <;> cases given <;> simp [upgradeKey, downgradeKey, isTarget, unused, other.symm]
  | protocol3_2 =>
    cases key <;> cases given <;> simp [upgradeKey, downgradeKey, isTarget, other.symm]

omit sound in
theorem Sound.forwards_same (sound : Sound version version s) (key : SecretKey) :
    (s.maybeTransformClientMsg key).1 = key := by
  have undowngraded : s.cancelKeyDowngradeMap key = none :=
    Option.eq_none_iff_forall_ne_some.mpr fun issued found => by
      obtain ⟨rfl, other⟩ := sound.downgrades _ _ found
      cases other
  have notUpgraded : s.cancelKeyUpgradeMap key = none :=
    Option.eq_none_iff_forall_ne_some.mpr fun issued found => by
      obtain ⟨rfl, other⟩ := sound.upgrades _ _ found
      cases other
  have isTarget := sound.reaches
  unfold maybeTransformClientMsg
  cases version <;> cases key <;> simp_all [upgradeKey, downgradeKey]

end

/-- A target that issues keys in its own format gets them back, whatever came before and with other
keys since: between a client and a target of one version at every use of the key that the client
was given last, otherwise at its first use. -/
theorem cancel_key_translates_back (version target : ProtocolVersion) (earlier : List Message)
    (issued : SecretKey) (random : Int32) (value : List UInt8) (rest : List SecretKey)
    (formats : ∀ key random value, .backendKeyData key random value ∈ earlier → target.Issues key)
    (format : target.Issues issued) :
    let answered := (run (.new version target) earlier).maybeTransformServerMsg issued random value
    version = target ∨ answered.1 ∉ rest →
      ((run answered.2 (rest.map .cancelRequest)).maybeTransformClientMsg answered.1).1 =
        issued := by
  intro answered condition
  have start : Sound version target (.new version target) := ⟨rfl, rfl, by nofun, by nofun⟩
  have before := start.run formats
  have sound := before.backendKeyData format random value
  rw [← before.forwards_given format random value]
  change Sound version target answered.2 at sound
  change _ = (answered.2.maybeTransformClientMsg answered.1).1
  rcases condition with rfl | unused
  · have later : Sound version version (run answered.2 (rest.map .cancelRequest)) :=
      sound.run fun _ _ _ mem => by simp at mem
    rw [later.forwards_same, sound.forwards_same]
  generalize answered.2 = s at sound ⊢
  -- the requests since then are with other keys, so each leaves what becomes of this one
  induction rest generalizing s with
  | nil => rfl
  | cons key rest ih =>
    rw [List.mem_cons, not_or] at unused
    rw [← sound.forwards_cancelRequest (Ne.symm unused.1)]
    exact ih unused.2 _ (sound.cancelRequest key)

theorem cancel_key_translates_back_once :
    ((run (.new .protocol3_0 .protocol3_2) [.backendKeyData (.bytes [1, 2, 3]) 7 [],
      .cancelRequest (.i32 8)]).maybeTransformClientMsg (.i32 7)).1 = .bytes [1, 2, 3] :=
  cancel_key_translates_back .protocol3_0 .protocol3_2 [] (.bytes [1, 2, 3]) 7 [] [.i32 8]
    (by simp) trivial (.inr (by decide))

/-- The same request again reaches the target with a key that it never issued. -/
theorem second_cancel_request_is_not_translated :
    ((run (.new .protocol3_0 .protocol3_2) [.backendKeyData (.bytes [1, 2, 3]) 7 [],
      .cancelRequest (.i32 7)]).maybeTransformClientMsg (.i32 7)).1 = .i32 7 := by
  decide

end Warpgate.Postgres
