/-
This file translates the step-up gate of the SSH server, and is about whole runs of it.
-/

import Warpgate.Auth.State

namespace Warpgate.Ssh

open Concurrent
open Auth (AuthState AuthResult CredentialKind StoredCredential StepUpWindow isFresh stepUpWindow)

structure PublicKeyCredential where
  id : Uuid
  opensshPublicKey : String
  lastSsoAt : Option OffsetDateTime
  deriving DecidableEq, Repr

/-! ### Keys and windows -/

structure Snapshot where
  verdict : AuthResult
  validKinds : Finset CredentialKind
  matchedPubkeyIds : List Uuid
  approvalWasBypassed : Bool
  deriving DecidableEq

def matchedPublicKeyIds (state : AuthState) : List Uuid :=
  ((state.validCredentials.filterMap Auth.ValidCredential.stored?).filter fun stored =>
    stored.kind = .publicKey).map StoredCredential.id

def Snapshot.of (state : AuthState) : Snapshot where
  verdict := state.verify
  validKinds := state.validCredentialKinds
  matchedPubkeyIds := ((matchedPublicKeyIds state).insertionSort (· ≤ ·)).dedup
  approvalWasBypassed := state.webApprovalFromGraceBypass

def Snapshot.provesStepUp (snapshot : Snapshot) : Bool :=
  .webUserApproval ∈ snapshot.validKinds && !snapshot.approvalWasBypassed

structure Login where
  snapshot : Snapshot
  interval : Option Duration
  deriving DecidableEq

structure StepUp where
  pubkeys : Option (List Uuid)
  knownDeadline : Option OffsetDateTime
  readFailures : Nat
  deriving DecidableEq, Repr

def StepUp.initial : StepUp where
  pubkeys := none
  knownDeadline := none
  readFailures := 0

def StepUp.accepted (stepUp : StepUp) (login : Login) : StepUp :=
  if .publicKey ∈ login.snapshot.validKinds then
    { stepUp with pubkeys := some login.snapshot.matchedPubkeyIds }
  else stepUp

inductive Verdict
  | close
  | stay (knownDeadline : Option OffsetDateTime) (readFailures : Nat)
  deriving DecidableEq, Repr

def StepUp.checked (stepUp : StepUp) : Verdict → StepUp
  | .close => stepUp
  | .stay knownDeadline readFailures =>
    { stepUp with knownDeadline := knownDeadline, readFailures := readFailures }

structure World where
  clock : OffsetDateTime
  interval : Option Duration
  keys : Sql.Table PublicKeyCredential PublicKeyCredential.id
  reachable : Bool
  attempts : Nat → AuthState
  admits : Nat → Option Bool

inductive KeyChange
  | create (id : Uuid) (opensshPublicKey : String)
  | replace (id : Uuid) (opensshPublicKey : String)
  | delete (id : Uuid)
  deriving DecidableEq

def KeyChange.apply (keys : Sql.Table PublicKeyCredential PublicKeyCredential.id) :
    KeyChange → Sql.Table PublicKeyCredential PublicKeyCredential.id
  | create id opensshPublicKey => (keys.insert ⟨id, opensshPublicKey, none⟩).2
  | replace id opensshPublicKey =>
    keys.update (fun row => row.id = id && row.opensshPublicKey ≠ opensshPublicKey)
      (fun row => { row with opensshPublicKey := opensshPublicKey, lastSsoAt := none })
      fun _ => rfl
  | delete id => keys.delete fun row => row.id = id

inductive Statement
  | verify (attempt : Nat)
  | readInterval
  | now
  | getPubkeyLastSsoAt (id : Uuid)
  | requireStepUp (attempt : Nat)
  | authorize (attempt : Nat)
  | accept (login : Login)
  | updatePubkeyLastSsoAt (id : Uuid) (time : OffsetDateTime)
  | settle (verdict : Verdict)
  | call (attempt : Nat) (made : Auth.Call)
  | setAdmits (attempt : Nat) (admits : Option Bool)
  | configure (interval : Option Duration)
  | changeKeys (change : KeyChange)
  | elapse (period : Duration)
  | setReachable (reachable : Bool)

@[reducible] def Statement.Outcome : Statement → Type
  | verify _ => Snapshot
  | readInterval => Option Duration
  | now => OffsetDateTime
  | getPubkeyLastSsoAt _ => Option (Option OffsetDateTime)
  | authorize _ => Option Bool
  | _ => Unit

variable (world : World)

def World.getPubkeyLastSsoAt (id : Uuid) : Option (Option OffsetDateTime) :=
  if world.reachable then some ((world.keys.find? id).bind PublicKeyCredential.lastSsoAt) else none

def World.updatePubkeyLastSsoAt (id : Uuid) (time : OffsetDateTime) : World :=
  if world.reachable then
    { world with
      keys := world.keys.update (fun row => row.id = id)
        (fun row => { row with lastSsoAt := some time }) fun _ => rfl }
  else world

def World.setAttempt (attempt : Nat) (state : AuthState) : World :=
  { world with attempts := Function.update world.attempts attempt state }

def World.authorizes (attempt : Nat) : Option Bool :=
  match (world.attempts attempt).verify with
  | .accepted _ => world.admits attempt
  | _ => some false

def execute : (statement : Statement) → World → statement.Outcome × World
  | .verify attempt, world => (Snapshot.of (world.attempts attempt), world)
  | .readInterval, world => (world.interval, world)
  | .now, world => (world.clock, world)
  | .getPubkeyLastSsoAt id, world => (world.getPubkeyLastSsoAt id, world)
  | .requireStepUp attempt, world =>
    ((), world.setAttempt attempt (world.attempts attempt).requireStepUp)
  | .authorize attempt, world => (world.authorizes attempt, world)
  | .accept _, world => ((), world)
  | .updatePubkeyLastSsoAt id time, world => ((), world.updatePubkeyLastSsoAt id time)
  | .settle _, world => ((), world)
  | .call attempt call, world =>
    ((), world.setAttempt attempt ((world.attempts attempt).handle call).2)
  | .setAdmits attempt admits, world =>
    ((), { world with admits := Function.update world.admits attempt admits })
  | .configure interval, world => ((), { world with interval := interval })
  | .changeKeys change, world => ((), { world with keys := change.apply world.keys })
  | .elapse period, world => ((), { world with clock := world.clock + period })
  | .setReachable reachable, world => ((), { world with reachable := reachable })

abbrev Action (Result : Type) := Program Statement Statement.Outcome Result

abbrev act (statement : Statement) : Action statement.Outcome :=
  Program.perform statement Program.done

def allFresh (interval : Duration) : List Uuid → Bool → Action (Option Bool)
  | [], fresh => pure (some fresh)
  | id :: rest, fresh => do
    match ← act (.getPubkeyLastSsoAt id) with
    | none => pure none
    | some last => do
      let now ← act .now
      allFresh interval rest (fresh && isFresh last interval now)

def passesStepUp (login : Login) : Action (Option Bool) :=
  match login.interval with
  | none => pure (some true)
  | some interval =>
    if .publicKey ∈ login.snapshot.validKinds && !login.snapshot.provesStepUp then
      -- no matched key at all is stale
      allFresh interval login.snapshot.matchedPubkeyIds
        (!login.snapshot.matchedPubkeyIds.isEmpty)
    else pure (some true)

def stampKeys : List Uuid → Action Unit
  | [] => pure ()
  | id :: rest => do
    let now ← act .now
    act (.updatePubkeyLastSsoAt id now)
    stampKeys rest

/-! ### Logins -/

def tryAuth (attempt : Nat) (stepUp : StepUp) : Action (Option AuthResult × StepUp) := do
  let snapshot ← act (.verify attempt)
  match snapshot.verdict with
  | .accepted userInfo => do
    let interval ← act .readInterval
    match ← passesStepUp ⟨snapshot, interval⟩ with
    | none => pure (none, stepUp)
    | some false => do
      act (.requireStepUp attempt)
      pure (some (.need {.webUserApproval}), stepUp)
    | some true => do
      match ← act (.authorize attempt) with
      | none => pure (none, stepUp)
      | some false => pure (some .rejected, stepUp)
      | some true => do
        act (.accept ⟨snapshot, interval⟩)
        if interval.isSome && snapshot.provesStepUp then stampKeys snapshot.matchedPubkeyIds
        else pure ()
        pure (some (.accepted userInfo), stepUp.accepted ⟨snapshot, interval⟩)
  | verdict => pure (some verdict, stepUp)

def maxReadFailures : Nat := 6

def StepUpWindow.merge : StepUpWindow → StepUpWindow → StepUpWindow
  | .expired, _ => .expired
  | _, .expired => .expired
  | .remaining first, .remaining second => .remaining (min first second)
  | _, other => other

def maxDuration : Duration := 2 ^ 64 * 1000000000 - 1

/-! ### Checks of a session -/

section

variable (latest : OffsetDateTime)

def readWindows (interval : Option Duration) (now : OffsetDateTime) :
    List Uuid → StepUpWindow → Action (Option StepUpWindow)
  | [], window => pure (some window)
  | id :: rest, window => do
    match ← act (.getPubkeyLastSsoAt id) with
    | none => pure none
    | some last =>
      readWindows interval now rest
        (StepUpWindow.merge window (stepUpWindow latest last interval now))

def initialWindow (interval : Option Duration) (pubkeys : List Uuid) : StepUpWindow :=
  match interval with
  | none => .notApplicable
  | some _ => if pubkeys.isEmpty then .expired else .remaining maxDuration

def readFailed (stepUp : StepUp) (now : OffsetDateTime) : Verdict :=
  if stepUp.knownDeadline.any (· < now) || maxReadFailures ≤ stepUp.readFailures + 1 then .close
  else .stay stepUp.knownDeadline (stepUp.readFailures + 1)

def knownDeadline (now : OffsetDateTime) (left : Duration) : Option OffsetDateTime :=
  if Auth.fitsTimeDuration left && now + left ≤ latest then some (now + left) else none

def decideWindow (now : OffsetDateTime) : StepUpWindow → Verdict
  | .expired => .close
  | .notApplicable => .stay none 0
  | .remaining left => .stay (knownDeadline latest now left) 0

def enforceStepUpWindow (stepUp : StepUp) : Action (Option Verdict) :=
  match stepUp.pubkeys with
  | none => pure none
  | some pubkeys => do
    let interval ← act .readInterval
    let now ← act .now
    let window ← readWindows latest interval now
      (if interval.isSome then pubkeys else []) (initialWindow interval pubkeys)
    let verdict :=
      match window with
      | none => readFailed stepUp now
      | some window => decideWindow latest now window
    act (.settle verdict)
    pure (some verdict)

inductive SessionStep
  | tryAuth (attempt : Nat)
  | enforceStepUpWindow
  deriving DecidableEq, Repr

def session : List SessionStep → StepUp → Action Unit
  | [], _ => pure ()
  | .tryAuth attempt :: rest, stepUp => do
    let (_, later) ← tryAuth attempt stepUp
    session rest later
  | .enforceStepUpWindow :: rest, stepUp => do
    match ← enforceStepUpWindow latest stepUp with
    | some .close => pure ()
    | some (.stay knownDeadline readFailures) =>
      session rest (stepUp.checked (.stay knownDeadline readFailures))
    | none => session rest stepUp

inductive Task
  | session (steps : List SessionStep)
  | call (attempt : Nat) (made : Auth.Call)
  | setAdmits (attempt : Nat) (admits : Option Bool)
  | configure (interval : Option Duration)
  | changeKeys (change : KeyChange)
  | elapse (period : Duration)
  | setReachable (reachable : Bool)

def Task.program : Task → Action Unit
  | session steps => Ssh.session latest steps .initial
  | call attempt made => act (.call attempt made)
  | setAdmits attempt admits => act (.setAdmits attempt admits)
  | configure interval => act (.configure interval)
  | changeKeys change => act (.changeKeys change)
  | elapse period => act (.elapse period)
  | setReachable reachable => act (.setReachable reachable)

def system : System Task Statement Statement.Outcome World Unit where
  program := Task.program latest
  execute := execute

end

open List Sql.Table Bool Config Sigma

variable {login : Login} {stepUp : StepUp}

section

/-! ### What a connection has seen -/

abbrev Seen := Event Statement Statement.Outcome

def pubkeysOf : List Seen → Option (List Uuid)
  | [] => none
  | ⟨.accept login, _⟩ :: earlier =>
    if .publicKey ∈ login.snapshot.validKinds then some login.snapshot.matchedPubkeyIds
    else pubkeysOf earlier
  | _ :: earlier => pubkeysOf earlier

def deadlineOf : List Seen → Option OffsetDateTime
  | [] => none
  | ⟨.settle (.stay knownDeadline _), _⟩ :: _ => knownDeadline
  | _ :: earlier => deadlineOf earlier

def readsOf : List Seen → List (Uuid × Option (Option OffsetDateTime))
  | ⟨.getPubkeyLastSsoAt id, last⟩ :: earlier => (id, last) :: readsOf earlier
  | _ => []

def checkOf : List Seen → Option (OffsetDateTime × Option Duration)
  | ⟨.getPubkeyLastSsoAt _, _⟩ :: earlier => checkOf earlier
  | ⟨.now, now⟩ :: ⟨.readInterval, interval⟩ :: _ => some (now, interval)
  | _ => none

def isStale (interval : Duration) (now : OffsetDateTime)
    (read : Uuid × Option (Option OffsetDateTime)) : Bool :=
  read.2.any fun last => !isFresh last interval now

def seenStale (history : List Seen) : Bool :=
  match checkOf history with
  | some (now, some interval) => (readsOf history).any (isStale interval now)
  | _ => false

def Open (history : List Seen) : Prop := ∀ event ∈ history, event.1 ≠ .settle .close

def Statement.isPlain : Statement → Bool
  | .verify _ | .accept _ | .settle _ => false
  | _ => true

def Plain (seen : List Seen) : Prop := ∀ event ∈ seen, event.1.isPlain = true

theorem Plain.append {first second : List Seen} (plain : Plain first) (plain' : Plain second) :
    Plain (first ++ second) := by
  intro ev mem
  rcases mem_append.mp mem with left | right
  · exact plain ev left
  · exact plain' ev right

variable {seen : List Seen} {hist : List Seen}

theorem Plain.cons {ev : Seen} (isPlain : ev.1.isPlain = true) (plain : Plain seen) :
    Plain (ev :: seen) := by
  rintro other (_ | ⟨_, mem⟩)
  · exact isPlain
  · exact plain other mem

theorem plain_nil : Plain [] := nofun

theorem Plain.eq_of_ignores {Read : Type} {read : List Seen → Read}
    (ignores : ∀ ev hist, ev.1.isPlain = true → read (ev :: hist) = read hist)
    (plain : Plain seen) (hist : List Seen) : read (seen ++ hist) = read hist := by
  induction seen with
  | nil => rfl
  | cons ev seen ih =>
    rw [← ih fun other mem => plain other (.tail _ mem)]
    exact ignores ev _ (plain ev (.head _))

theorem Plain.pubkeysOf (plain : Plain seen) :
    ∀ hist, pubkeysOf (seen ++ hist) = pubkeysOf hist := by
  refine plain.eq_of_ignores ?_
  rintro ⟨_ | _⟩ hist isPlain <;> first | rfl | cases isPlain

theorem Plain.deadlineOf (plain : Plain seen) :
    ∀ hist, deadlineOf (seen ++ hist) = deadlineOf hist := by
  refine plain.eq_of_ignores ?_
  rintro ⟨_ | _⟩ hist isPlain <;> first | rfl | cases isPlain

theorem Open.cons {ev : Seen} (isOpen : Open hist) (stays : ev.1 ≠ .settle .close) :
    Open (ev :: hist) := by
  rintro other (_ | ⟨_, mem⟩)
  · exact stays
  · exact isOpen other mem

theorem Open.plain (isOpen : Open hist) {stmt : Statement} (out : stmt.Outcome)
    (isPlain : stmt.isPlain = true) : Open (⟨stmt, out⟩ :: hist) := by
  refine isOpen.cons fun isClose => ?_
  rw [show stmt = .settle .close from isClose] at isPlain
  cases isPlain

theorem Plain.isOpen {seen hist : List Seen} (plain : Plain seen) (isOpen : Open hist) :
    Open (seen ++ hist) := by
  intro ev mem isClose
  rcases mem_append.mp mem with new | old
  · have isPlain := plain ev new
    rw [isClose] at isPlain
    cases isPlain
  · exact isOpen ev old isClose

def FreshIn (interval : Duration) (seen : List Seen) (id : Uuid) : Prop :=
  ∃ last time, [(⟨.now, time⟩ : Seen), ⟨.getPubkeyLastSsoAt id, some last⟩] <:+: seen ∧
    isFresh last interval time = true

def Passes (login : Login) (seen : List Seen) : Prop :=
  ∀ interval, login.interval = some interval → .publicKey ∈ login.snapshot.validKinds →
    login.snapshot.provesStepUp = true ∨
      (login.snapshot.matchedPubkeyIds ≠ [] ∧
        ∀ id ∈ login.snapshot.matchedPubkeyIds, FreshIn interval seen id)

theorem Passes.mono {seen more : List Seen} (passes : Passes login seen)
    (grown : seen <:+: more) : Passes login more := by
  intro iv isInterval isKey
  refine (passes iv isInterval isKey).imp_right fun ⟨matched, fresh⟩ => ⟨matched, ?_⟩
  intro id mem
  obtain ⟨last, time, read, isFresh⟩ := fresh id mem
  exact ⟨last, time, read.trans grown, isFresh⟩

def GatedBy (attempt : Nat) (login : Login) (history : List Seen) : Prop :=
  ∃ seen earlier, history = seen ++ ⟨.verify attempt, login.snapshot⟩ :: earlier ∧
    Plain seen ∧ (⟨.readInterval, login.interval⟩ : Seen) ∈ seen ∧ Passes login seen

def Gated (login : Login) (history : List Seen) : Prop := ∃ attempt, GatedBy attempt login history

def Stamps (id : Uuid) (time : OffsetDateTime) (history : List Seen) : Prop :=
  ∃ seen login earlier, history = ⟨.now, time⟩ :: (seen ++ ⟨.accept login, ()⟩ :: earlier) ∧
    Plain seen ∧ Gated login earlier ∧ login.interval.isSome = true ∧
    login.snapshot.provesStepUp = true ∧ id ∈ login.snapshot.matchedPubkeyIds

def Settles (verdict : Verdict) (history : List Seen) : Prop :=
  ∃ pubkeys now interval, pubkeysOf history = some pubkeys ∧
    checkOf history = some (now, interval) ∧
    ∀ period, interval = some period →
      ((readsOf history).map Prod.fst = pubkeys.reverse ∧
        (∀ read ∈ readsOf history, read.2 ≠ none) ∧
        (pubkeys = [] ∨ seenStale history = true → verdict = .close)) ∨
      (∃ id earlier, history = ⟨.getPubkeyLastSsoAt id, none⟩ :: earlier ∧ pubkeys ≠ [] ∧
        ∀ deadline, deadlineOf history = some deadline → deadline < now → verdict = .close)

def requires (history : List Seen) (statement : Statement) : Prop :=
  Open history ∧
    match statement with
    | .accept login => Gated login history
    | .updatePubkeyLastSsoAt id time => Stamps id time history
    | .settle verdict => Settles verdict history
    | _ => True

structure Tracks (stepUp : StepUp) (history : List Seen) : Prop where
  pubkeys : stepUp.pubkeys = pubkeysOf history
  knownDeadline : stepUp.knownDeadline = deadlineOf history
  isOpen : Open history

theorem Tracks.plain {hist seen : List Seen} (tracks : Tracks stepUp hist)
    (plain : Plain seen) : Tracks stepUp (seen ++ hist) where
  pubkeys := tracks.pubkeys.trans (plain.pubkeysOf hist).symm
  knownDeadline := tracks.knownDeadline.trans (plain.deadlineOf hist).symm
  isOpen := plain.isOpen tracks.isOpen

section Logins

variable {hist : List Seen}

theorem allFresh_follows (iv : Duration) (ids : List Uuid) (fresh : Bool) (isOpen : Open hist) :
    (allFresh iv ids fresh).Follows requires
      (fun seen res => ∃ new, seen = new ++ hist ∧ Plain new ∧
        (res = some true → fresh = true ∧ ∀ id ∈ ids, FreshIn iv new id)) hist := by
  induction ids generalizing hist fresh with
  | nil =>
    refine ⟨[], rfl, plain_nil, fun isTrue => ⟨?_, nofun⟩⟩
    exact Option.some.inj isTrue
  | cons id rest ih =>
    refine ⟨⟨isOpen, trivial⟩, fun last => ?_⟩
    cases last with
    | none => exact ⟨[_], rfl, Plain.cons rfl plain_nil, nofun⟩
    | some last =>
      have isOpen' : Open (⟨.getPubkeyLastSsoAt id, some last⟩ :: hist) := isOpen.plain _ rfl
      refine ⟨⟨isOpen', trivial⟩, fun now => ?_⟩
      refine (ih (fresh && isFresh last iv now) (isOpen'.plain now rfl)).imp (fun _ _ ok => ok) ?_
      rintro _ res ⟨new, rfl, plain, allFresh⟩
      refine ⟨new ++ [⟨.now, now⟩, ⟨.getPubkeyLastSsoAt id, some last⟩], ?_, ?_, fun isTrue => ?_⟩
      · rw [append_assoc]
        rfl
      · exact plain.append (Plain.cons rfl (Plain.cons rfl plain_nil))
      · obtain ⟨both, others⟩ := allFresh isTrue
        obtain ⟨isFresh, here⟩ := and_eq_true_iff.mp both
        refine ⟨isFresh, ?_⟩
        rintro other (_ | ⟨_, mem⟩)
        · exact ⟨last, now, (suffix_append _ _).isInfix, here⟩
        · obtain ⟨last', time, read, fresh⟩ := others other mem
          exact ⟨last', time, read.trans (prefix_append _ _).isInfix, fresh⟩

theorem passesStepUp_follows (login : Login) (isOpen : Open hist) :
    (passesStepUp login).Follows requires
      (fun seen res => ∃ new, seen = new ++ hist ∧ Plain new ∧
        (res = some true → Passes login new)) hist := by
  rw [passesStepUp]
  split
  case h_1 noInterval =>
    refine ⟨[], rfl, plain_nil, fun _ iv isInterval => ?_⟩
    rw [noInterval] at isInterval
    cases isInterval
  case h_2 iv isInterval =>
    split
    case isFalse passes =>
      refine ⟨[], rfl, plain_nil, fun _ _ _ isKey => .inl ?_⟩
      by_contra unproved
      refine passes (and_eq_true_iff.mpr ⟨decide_eq_true isKey, ?_⟩)
      rw [eq_false_iff.mpr unproved]
      rfl
    case isTrue =>
      refine (allFresh_follows iv _ _ isOpen).imp (fun _ _ ok => ok) ?_
      rintro _ res ⟨new, rfl, plain, allFresh⟩
      refine ⟨new, rfl, plain, fun isTrue period isPeriod _ => .inr ?_⟩
      obtain rfl := Option.some.inj (isInterval.symm.trans isPeriod)
      obtain ⟨some_matched, fresh⟩ := allFresh isTrue
      refine ⟨fun none_matched => ?_, fresh⟩
      rw [none_matched] at some_matched
      cases some_matched

theorem stampKeys_follows {prev : List Seen} (ids : List Uuid)
    (gated : Gated login prev) (isSet : login.interval.isSome = true)
    (proves : login.snapshot.provesStepUp = true)
    (matched : ∀ id ∈ ids, id ∈ login.snapshot.matchedPubkeyIds) {seen : List Seen}
    (plain : Plain seen) (isOpen : Open (seen ++ ⟨.accept login, ()⟩ :: prev)) :
    (stampKeys ids).Follows requires
      (fun reached _ => ∃ new, reached = new ++ ⟨.accept login, ()⟩ :: prev ∧ Plain new)
      (seen ++ ⟨.accept login, ()⟩ :: prev) := by
  induction ids generalizing seen with
  | nil => exact ⟨seen, rfl, plain⟩
  | cons id rest ih =>
    refine ⟨⟨isOpen, trivial⟩, fun now => ⟨⟨isOpen.plain now rfl, ?_⟩, fun _ => ?_⟩⟩
    · exact ⟨seen, login, prev, rfl, plain, gated, isSet, proves, matched id (.head _)⟩
    · have plain' : Plain (⟨.updatePubkeyLastSsoAt id now, ()⟩ :: ⟨.now, now⟩ :: seen) :=
        Plain.cons rfl (Plain.cons rfl plain)
      have isOpen' : Open (⟨.updatePubkeyLastSsoAt id now, ()⟩ :: ⟨.now, now⟩ ::
          (seen ++ ⟨.accept login, ()⟩ :: prev)) := (isOpen.plain now rfl).plain _ rfl
      exact ih (fun other mem => matched other (.tail _ mem)) plain' isOpen'

theorem Tracks.accepted (tracks : Tracks stepUp hist) (login : Login) {new : List Seen}
    (plain : Plain new) : Tracks (stepUp.accepted login) (new ++ ⟨.accept login, ()⟩ :: hist) := by
  refine Tracks.plain ⟨?_, ?_, tracks.isOpen.cons nofun⟩ plain
  · rw [StepUp.accepted, pubkeysOf]
    split
    · rfl
    · exact tracks.pubkeys
  · rw [StepUp.accepted]
    split <;> exact tracks.knownDeadline

theorem accepted_follows (info : Auth.AuthStateUserInfo)
    (tracks : Tracks stepUp hist) (gated : Gated login hist) :
    (if login.interval.isSome && login.snapshot.provesStepUp then do
        stampKeys login.snapshot.matchedPubkeyIds
        pure (some (AuthResult.accepted info), stepUp.accepted login)
      else pure (some (AuthResult.accepted info), stepUp.accepted login) :
      Action (Option AuthResult × StepUp)).Follows requires (fun seen res => Tracks res.2 seen)
      (⟨.accept login, ()⟩ :: hist) := by
  split
  case isFalse => exact tracks.accepted login plain_nil
  case isTrue stamps =>
    obtain ⟨isSet, proves⟩ := and_eq_true_iff.mp stamps
    have isOpen : Open ([] ++ ⟨.accept login, ()⟩ :: hist) := tracks.isOpen.cons nofun
    refine (stampKeys_follows login.snapshot.matchedPubkeyIds gated isSet proves
      (fun _ mem => mem) plain_nil isOpen).seq ?_
    rintro _ _ ⟨new, rfl, plain⟩
    exact tracks.accepted login plain

theorem tryAuth_follows (att : Nat) (tracks : Tracks stepUp hist) :
    (tryAuth att stepUp).Follows requires (fun seen res => Tracks res.2 seen) hist := by
  refine ⟨⟨tracks.isOpen, trivial⟩, fun snapshot => ?_⟩
  have tracks : Tracks stepUp (⟨.verify att, snapshot⟩ :: hist) :=
    ⟨tracks.pubkeys, tracks.knownDeadline, tracks.isOpen.cons nofun⟩
  obtain ⟨verdict, ks, matched, bypassed⟩ := snapshot
  cases verdict with
  | accepted info =>
    refine ⟨⟨tracks.isOpen, trivial⟩, fun iv => ?_⟩
    have plainRead : Plain [⟨.readInterval, iv⟩] := Plain.cons rfl plain_nil
    refine (passesStepUp_follows ⟨⟨.accepted info, ks, matched, bypassed⟩, iv⟩
      (tracks.isOpen.plain iv rfl)).seq ?_
    rintro _ res ⟨new, rfl, plain, passes⟩
    have tracks : Tracks stepUp (new ++ ⟨.readInterval, iv⟩ :: _) :=
      (tracks.plain plainRead).plain plain
    cases res with
    | none => exact tracks
    | some passed =>
      cases passed with
      | false => exact ⟨⟨tracks.isOpen, trivial⟩, fun _ => tracks.plain (Plain.cons rfl plain_nil)⟩
      | true =>
        refine ⟨⟨tracks.isOpen, trivial⟩, fun admitted => ?_⟩
        have plainAuthorize : Plain [⟨.authorize att, admitted⟩] := Plain.cons rfl plain_nil
        have tracks := tracks.plain plainAuthorize
        cases admitted with
        | none => exact tracks
        | some admitted =>
          cases admitted with
          | false => exact tracks
          | true =>
            have gated : Gated ⟨⟨.accepted info, ks, matched, bypassed⟩, iv⟩ _ :=
              ⟨att, ⟨.authorize att, some true⟩ :: (new ++ [⟨.readInterval, iv⟩]),
                hist, by rw [cons_append, append_assoc],
                Plain.cons rfl (plain.append plainRead),
                .tail _ mem_append_cons_self,
                (passes rfl).mono ((prefix_append new _).isInfix.trans (suffix_cons _ _).isInfix)⟩
            refine ⟨⟨tracks.isOpen, gated⟩, fun _ => ?_⟩
            exact accepted_follows info tracks gated
  | _ => exact tracks

end Logins

abbrev Read := Uuid × Option (Option OffsetDateTime)

def readEvent (read : Read) : Seen := ⟨.getPubkeyLastSsoAt read.1, read.2⟩

variable (reads : List Read) (now : OffsetDateTime)

theorem plain_reads : Plain (reads.map readEvent) := by
  intro ev mem
  obtain ⟨read, -, rfl⟩ := mem_map.mp mem
  rfl

theorem readsOf_check (hist : List Seen) :
    readsOf (reads.map readEvent ++ ⟨.now, now⟩ :: hist) = reads := by
  induction reads with
  | nil => rfl
  | cons read reads ih =>
    show read :: readsOf (reads.map readEvent ++ _) = _
    rw [ih]

theorem checkOf_check (iv : Option Duration) (hist : List Seen) :
    checkOf (reads.map readEvent ++ ⟨.now, now⟩ :: ⟨.readInterval, iv⟩ :: hist) =
      some (now, iv) := by
  induction reads with
  | nil => rfl
  | cons read reads ih => exact ih

section Checks

variable {latest : OffsetDateTime} {hist : List Seen}

theorem readWindows_follows (iv : Duration) (now : OffsetDateTime) (ids : List Uuid)
    (window : StepUpWindow) (isOpen : Open hist) :
    (readWindows latest (some iv) now ids window).Follows requires
      (fun seen res => ∃ reads : List Read, seen = reads.map readEvent ++ hist ∧
        match res with
        | some reached =>
          reads.map Prod.fst = ids.reverse ∧ (∀ read ∈ reads, read.2 ≠ none) ∧
            (window = .expired ∨ (reads.any (isStale iv now)) = true →
              reached = .expired)
        | none => ids ≠ [] ∧ ∃ id rest, reads = (id, none) :: rest) hist := by
  induction ids generalizing hist window with
  | nil => exact ⟨[], rfl, rfl, nofun, fun either => either.elim id nofun⟩
  | cons id rest ih =>
    refine ⟨⟨isOpen, trivial⟩, fun last => ?_⟩
    cases last with
    | none => exact ⟨[(id, none)], rfl, cons_ne_nil _ _, id, [], rfl⟩
    | some last =>
      have isOpen : Open (⟨.getPubkeyLastSsoAt id, some last⟩ :: hist) := isOpen.plain _ rfl
      refine (ih (StepUpWindow.merge window
        (stepUpWindow latest last (some iv) now)) isOpen).imp (fun _ _ ok => ok) ?_
      rintro _ res ⟨reads, rfl, known⟩
      refine ⟨reads ++ [(id, some last)], ?_, ?_⟩
      · rw [map_append, append_assoc]
        rfl
      · cases res with
        | none => grind
        | some reached =>
          obtain ⟨names, succeeded, expired⟩ := known
          refine ⟨?_, ?_, fun either => expired ?_⟩
          · rw [map_append, names, reverse_cons]
            rfl
          · grind
          · rcases either with already | stale
            · rw [already]
              exact .inl rfl
            · rw [any_append, or_eq_true] at stale
              rcases stale with later | here
              · exact .inr later
              · have stale : isFresh last iv now = false := by
                  simpa [isStale] using here
                rw [show stepUpWindow latest last (some iv) now = .expired by
                  simp [stepUpWindow, stale]]
                cases window <;> exact .inl rfl

def AfterCheck (stepUp : StepUp) (seen : List Seen) : Option Verdict → Prop
  | none => Tracks stepUp seen
  | some .close => True
  | some (.stay knownDeadline readFailures) =>
    Tracks (stepUp.checked (.stay knownDeadline readFailures)) seen

theorem settle_follows {seen : List Seen} (tracks : Tracks stepUp seen) (verdict : Verdict)
    (settles : Settles verdict seen) :
    (do
      act (.settle verdict)
      pure (some verdict) : Action (Option Verdict)).Follows requires (AfterCheck stepUp) seen := by
  refine ⟨⟨tracks.isOpen, settles⟩, fun _ => ?_⟩
  cases verdict with
  | close => trivial
  | stay knownDeadline readFailures => exact ⟨tracks.pubkeys, rfl, tracks.isOpen.cons nofun⟩

theorem enforceStepUpWindow_follows (tracks : Tracks stepUp hist) :
    (enforceStepUpWindow latest stepUp).Follows requires (AfterCheck stepUp) hist := by
  rw [enforceStepUpWindow]
  split
  case h_1 => exact tracks
  case h_2 pubkeys isKeys =>
    refine ⟨⟨tracks.isOpen, trivial⟩, fun iv => ?_⟩
    have isOpen : Open (⟨.readInterval, iv⟩ :: hist) := tracks.isOpen.plain iv rfl
    refine ⟨⟨isOpen, trivial⟩, fun now => ?_⟩
    have isOpen : Open (⟨.now, now⟩ :: ⟨.readInterval, iv⟩ :: hist) := isOpen.plain now rfl
    have keys : pubkeysOf hist = some pubkeys := tracks.pubkeys.symm.trans isKeys
    cases iv with
    | none =>
      have tracks : Tracks stepUp (⟨.now, now⟩ :: ⟨.readInterval, none⟩ :: hist) :=
        ⟨tracks.pubkeys, tracks.knownDeadline, isOpen⟩
      exact settle_follows tracks _ ⟨pubkeys, now, none, keys, rfl, nofun⟩
    | some iv =>
      have tracks : Tracks stepUp (⟨.now, now⟩ :: ⟨.readInterval, some iv⟩ :: hist) :=
        ⟨tracks.pubkeys, tracks.knownDeadline, isOpen⟩
      refine (readWindows_follows iv now pubkeys _ isOpen).seq ?_
      rintro _ res ⟨reads, rfl, known⟩
      refine settle_follows (tracks.plain (plain_reads reads)) _
        ⟨pubkeys, now, some iv, ?_, checkOf_check reads now (some iv) hist, ?_⟩
      · rw [(plain_reads reads).pubkeysOf]
        exact keys
      · rintro _ ⟨⟩
        rw [readsOf_check]
        cases res with
        | none =>
          obtain ⟨some_tracked, id, rest, rfl⟩ := known
          refine .inr ⟨id, _, rfl, some_tracked, fun deadline isKnown passed => ?_⟩
          have isKnown : stepUp.knownDeadline = some deadline := by
            rw [tracks.knownDeadline, ← (plain_reads ((id, none) :: rest)).deadlineOf]
            exact isKnown
          exact if_pos (by rw [isKnown]; simp [passed])
        | some reached =>
          obtain ⟨names, succeeded, expired⟩ := known
          refine .inl ⟨names, succeeded, fun either => ?_⟩
          have closes : reached = .expired := by
            refine expired (either.imp ?_ fun stale => ?_)
            · rintro rfl
              rfl
            · rw [seenStale, checkOf_check, readsOf_check] at stale
              exact stale
          rw [closes]
          rfl

theorem session_follows (steps : List SessionStep) (tracks : Tracks stepUp hist) :
    (session latest steps stepUp).Follows requires (fun _ _ => True) hist := by
  induction steps generalizing hist stepUp with
  | nil => trivial
  | cons step rest ih =>
    cases step with
    | tryAuth att => exact (tryAuth_follows att tracks).seq fun _ _ tracks => ih tracks
    | enforceStepUpWindow =>
      refine (enforceStepUpWindow_follows tracks).seq fun seen res known => ?_
      cases res with
      | none => exact ih known
      | some verdict =>
        cases verdict with
        | close => trivial
        | stay knownDeadline readFailures => exact ih known

theorem program_follows (t : Task) : (t.program latest).Follows requires (fun _ _ => True) [] := by
  have nothing : Open [] := nofun
  cases t with
  | session steps => exact session_follows steps ⟨rfl, rfl, nothing⟩
  | _ => exact ⟨⟨nothing, trivial⟩, fun _ => trivial⟩

end Checks

end

abbrev Reached := Config Task Statement Statement.Outcome World Unit

abbrev Connection := Thread Task Statement Statement.Outcome Unit

def Statement.stamps : Statement → Option Uuid
  | .updatePubkeyLastSsoAt id _ => some id
  | _ => none

def Statement.isRead : Statement → Bool
  | .getPubkeyLastSsoAt _ => true
  | _ => false

def Orderly (latest : OffsetDateTime) (reached : Reached) (move : Move Task) : Prop :=
  Config.Against (system latest) (fun thread _ statement =>
      ∀ id ∈ statement.stamps, thread.program.head.bind Statement.stamps ≠ some id) reached move ∧
  Config.Advancing (fun world (thread : Connection) =>
      thread.program.head.any Statement.isRead = true → seenStale thread.history = true →
        world.reachable = true) reached move

instance (latest : OffsetDateTime) (reached : Reached) (move : Move Task) :
    Decidable (Orderly latest reached move) :=
  inferInstanceAs (Decidable (_ ∧ _))

/-! ### Stamps -/

inductive RowAfter (statement : Statement) (world : World) (row : PublicKeyCredential) : Prop
  | kept (member : row ∈ world.keys.rows)
  | cleared (none : row.lastSsoAt = none)
      (other : ∀ old ∈ world.keys.rows, old.id = row.id →
        old.opensshPublicKey ≠ row.opensshPublicKey)
  | stamped (time : OffsetDateTime) (isStamp : statement = .updatePubkeyLastSsoAt row.id time)
      (written : row.lastSsoAt = some time)

theorem eq_of_id {keys : Sql.Table PublicKeyCredential PublicKeyCredential.id}
    {first second : PublicKeyCredential} (mem : first ∈ keys.rows) (member' : second ∈ keys.rows)
    (same : first.id = second.id) : first = second := by
  have found := find?_of_mem mem
  rw [same, find?_of_mem member'] at found
  exact (Option.some.inj found).symm

theorem rowAfter_change (change : KeyChange) (w : World) (r : PublicKeyCredential)
    (mem : r ∈ (change.apply w.keys).rows) : RowAfter (.changeKeys change) w r := by
  cases change with
  | create id k =>
    cases taken : w.keys.find? id with
    | none =>
      rcases mem_insert mem with rfl | old
      · refine .cleared rfl fun old isOld same => ?_
        exact absurd (mem_map.mpr ⟨old, isOld, same⟩) (find?_eq_none_iff.mp taken)
      · exact .kept old
    | some stored =>
      have refused : w.keys.insert ⟨id, k, none⟩ = (false, w.keys) :=
        insert_of_taken _ _ (by rw [taken]; nofun)
      refine .kept ?_
      rw [KeyChange.apply, refused] at mem
      exact mem
  | replace id k =>
    obtain ⟨old, isOld, rfl⟩ := mem_map.mp mem
    split
    case isFalse => exact .kept isOld
    case isTrue chosen =>
      refine .cleared rfl fun other isOther same => ?_
      rw [eq_of_id isOther isOld same]
      exact of_decide_eq_true (and_eq_true_iff.mp chosen).2
  | delete id => exact .kept (mem_delete mem)

theorem rowAfter_execute (stmt : Statement) (w : World) (r : PublicKeyCredential)
    (mem : r ∈ (execute stmt w).2.keys.rows) : RowAfter stmt w r := by
  cases stmt with
  | changeKeys change => exact rowAfter_change change w r mem
  | updatePubkeyLastSsoAt id time =>
    have mem : r ∈ (w.updatePubkeyLastSsoAt id time).keys.rows := mem
    rw [World.updatePubkeyLastSsoAt] at mem
    split at mem
    case isFalse => exact .kept mem
    case isTrue =>
      obtain ⟨old, isOld, rfl⟩ := mem_map.mp mem
      split
      case isFalse => exact .kept isOld
      case isTrue here =>
        have here : old.id = id := of_decide_eq_true here
        exact .stamped time (by rw [here]) rfl
  | _ => exact .kept mem

def PastStamps : Prop :=
  ∀ row ∈ world.keys.rows, ∀ stamp ∈ row.lastSsoAt, stamp ≤ world.clock

def Pending (head : Option Statement) : Prop :=
  ∀ id time, head = some (.updatePubkeyLastSsoAt id time) → time ≤ world.clock ∧
    ∀ row ∈ world.keys.rows, row.id = id → ∀ stamp ∈ row.lastSsoAt, stamp ≤ time

theorem clock_execute (stmt : Statement) (w : World) : w.clock ≤ (execute stmt w).2.clock := by
  cases stmt with
  | elapse period => exact Int.le_add_of_nonneg_right (Int.natCast_nonneg period)
  | updatePubkeyLastSsoAt id time =>
    show w.clock ≤ (w.updatePubkeyLastSsoAt id time).clock
    rw [World.updatePubkeyLastSsoAt]
    split <;> exact Int.le_refl _
  | _ => exact Int.le_refl _

variable {w : World} {statement stmt : Statement} {head : Option Statement} {hist : List Seen}
  {id : Uuid} {prog : Action Unit} {time : OffsetDateTime} {latest : OffsetDateTime}
  {ms : List (Move Task)} {thread th : Connection}

theorem PastStamps.execute (past : PastStamps w) (pending : Pending w (some stmt)) :
    PastStamps (execute stmt w).2 := by
  intro r mem stamp isStamp
  refine Int.le_trans ?_ (clock_execute stmt w)
  rcases rowAfter_execute stmt w r mem with isOld | ⟨cleared, -⟩ | ⟨time, rfl, written⟩
  · exact past r isOld stamp isStamp
  · rw [cleared] at isStamp
    cases isStamp
  · rw [written] at isStamp
    cases isStamp
    exact (pending r.id stamp rfl).1

theorem Pending.execute (pending : Pending w head)
    (apart : ∀ id ∈ stmt.stamps, head.bind Statement.stamps ≠ some id) :
    Pending (execute stmt w).2 head := by
  rintro id time rfl
  obtain ⟨early, later⟩ := pending id time rfl
  refine ⟨Int.le_trans early (clock_execute stmt w), fun r mem here => ?_⟩
  rcases rowAfter_execute stmt w r mem with isOld | ⟨cleared, -⟩ | ⟨time', rfl, -⟩
  · exact later r isOld here
  · rw [cleared]
    nofun
  · exact absurd (congrArg some here.symm) (apart r.id rfl)

theorem PastStamps.pending (past : PastStamps w)
    (isNow : ∀ id time, head = some (.updatePubkeyLastSsoAt id time) → time = w.clock) :
    Pending w head := by
  intro id time isHead
  rw [isNow id time isHead]
  exact ⟨Int.le_refl _, fun r mem _ => past r mem⟩

def Unfailing (history : List Seen) : Prop :=
  ∀ id earlier, history = ⟨.getPubkeyLastSsoAt id, none⟩ :: earlier → seenStale earlier = false

theorem unfailing_perform
    (orderly : stmt.isRead = true → seenStale hist = true → w.reachable = true) :
    Unfailing (⟨stmt, (execute stmt w).1⟩ :: hist) := by
  intro id prev isRead
  obtain ⟨isEvent, rfl⟩ := cons.inj isRead
  obtain rfl : stmt = .getPubkeyLastSsoAt id := congrArg fst isEvent
  have failed : w.getPubkeyLastSsoAt id = none := eq_of_heq (mk.inj isEvent).2
  refine eq_false_iff.mpr fun stale => ?_
  rw [World.getPubkeyLastSsoAt, if_pos (orderly rfl stale)] at failed
  cases failed

structure Steady (reached : Reached) : Prop where
  follows : Config.ThreadsFollow (fun _ => requires) (fun _ _ _ => True) reached
  past : PastStamps reached.state
  pending : ∀ thread ∈ reached.threads, Pending reached.state thread.program.head
  unfailing : ∀ thread ∈ reached.threads, Unfailing thread.history

theorem seen_of_stamps (follows : prog.Follows requires (fun _ _ => True) hist)
    (head : prog.head = some (.updatePubkeyLastSsoAt id time)) :
    ∃ prev, hist = ⟨.now, time⟩ :: prev := by
  cases prog with
  | done res => cases head
  | perform next cont =>
    obtain rfl : next = .updatePubkeyLastSsoAt id time := Option.some.inj head
    obtain ⟨seen, login, prev, isHistory, -⟩ := follows.1.2
    exact ⟨_, isHistory⟩

theorem now_of_stamps
    (follows : prog.Follows requires (fun _ _ => True) (⟨stmt, (execute stmt w).1⟩ :: hist))
    (head : prog.head = some (.updatePubkeyLastSsoAt id time)) :
    time = (execute stmt w).2.clock := by
  obtain ⟨prev, isHistory⟩ := seen_of_stamps follows head
  obtain ⟨isEvent, -⟩ := cons.inj isHistory
  obtain rfl : stmt = .now := congrArg fst isEvent
  exact (eq_of_heq (mk.inj isEvent).2).symm

theorem run_steady (past : PastStamps w) (ms : List (Move Task))
    (orderly : Along (system latest) (Orderly latest) (initial w) ms) :
    Steady ((initial w).run (system latest) ms) := by
  refine run_invariant (Orderly latest) Steady ?_ ?_ _ ms orderly ⟨nofun, past, nofun, nofun⟩
  · intro reached t _ steady
    refine ⟨forall_threads_start steady.follows (program_follows t), steady.past,
      forall_threads_start steady.pending fun id time head => ?_,
      forall_threads_start steady.unfailing nofun⟩
    obtain ⟨prev, isHistory⟩ := seen_of_stamps (program_follows t) head
    cases isHistory
  · intro w pre t hist stmt next post log orderly _ ready steady
    have performing := steady.pending _ mem_append_cons_self
    have past := steady.past.execute performing
    have follows : ThreadsFollow (fun _ => requires) (fun _ _ _ => True)
        ⟨(execute stmt w).2, pre ++ ⟨t, ⟨stmt, (execute stmt w).1⟩ ::
          hist, next (execute stmt w).1⟩ :: post, ⟨t, stmt, w⟩ :: log⟩ :=
      forall_threads_perform steady.follows fun follows => follows.2 _
    refine ⟨follows, past, fun th mem => ?_, ?_⟩
    · have others := Against.admits _ orderly.1 ready
      rcases mem_append.mp mem with old | new
      · exact (steady.pending th (mem_append_left _ old)).execute
          (others th (mem_append_left _ old))
      · rcases mem_cons.mp new with rfl | old
        · exact past.pending fun id time head => now_of_stamps (follows _ mem) head
        · exact (steady.pending th (mem_append_right _ (.tail _ old))).execute
            (others th (mem_append_right _ old))
    · exact forall_threads_perform steady.unfailing fun _ =>
        unfailing_perform (Advancing.admits orderly.2)

/-! ### What holds of a run -/

def AcceptSound (reached : Reached) (history : List Seen) (login : Login) : Prop :=
  ∃ attempt, GatedBy attempt login history ∧
    (∃ entry ∈ reached.log, entry.statement = .verify attempt ∧
      login.snapshot = Snapshot.of (entry.before.attempts attempt)) ∧
    ∃ entry ∈ reached.log, entry.statement = .readInterval ∧ login.interval = entry.before.interval

def CheckSound (history : List Seen) (verdict : Verdict) : Prop :=
  ∃ pubkeys now interval, pubkeysOf history = some pubkeys ∧
    checkOf history = some (now, interval) ∧
    ∀ period, interval = some period →
      (pubkeys = [] → verdict = .close) ∧
      (∀ id last, (id, some last) ∈ readsOf history →
        (∀ stamp ∈ last, stamp + period < now) → verdict = .close) ∧
      ((∀ id, (id, none) ∉ readsOf history) →
        (readsOf history).map Prod.fst = pubkeys.reverse) ∧
      (∀ id deadline, (id, none) ∈ readsOf history → deadlineOf history = some deadline →
        deadline < now → verdict = .close)

def MovesOn (before after : World) : Prop :=
  ∀ row ∈ before.keys.rows, ∀ later ∈ after.keys.rows, later.id = row.id →
    later.opensshPublicKey = row.opensshPublicKey → ∀ stamp ∈ row.lastSsoAt,
      ∃ newer ∈ later.lastSsoAt, stamp ≤ newer

theorem movesOn_execute (pending : Pending w (some stmt)) : MovesOn w (execute stmt w).2 := by
  intro r mem later isLater sameId sameKey stamp isStamp
  rcases rowAfter_execute stmt w later isLater with
    isOld | ⟨-, other⟩ | ⟨time, isTime, written⟩
  · grind [eq_of_id]
  · exact absurd sameKey.symm (other r mem sameId.symm)
  · subst isTime
    exact ⟨time, written, (pending later.id time rfl).2 r mem sameId.symm stamp isStamp⟩

theorem acceptSound_of_gated (mem : th ∈ ((initial w).run (system latest) ms).threads)
    (gated : Gated login th.history) :
    AcceptSound ((initial w).run (system latest) ms) th.history login := by
  obtain ⟨att, gatedBy⟩ := gated
  obtain ⟨seen, prev, isHistory, -, isRead, -⟩ := id gatedBy
  have logged := run_logged (system latest) w ms th mem
  refine ⟨att, gatedBy, ?_, ?_⟩
  · obtain ⟨e, isLogged, -, same⟩ := logged ⟨.verify att, login.snapshot⟩ (by
      rw [isHistory]
      exact mem_append_right _ (.head _))
    obtain ⟨t, stmt, pre⟩ := e
    obtain rfl : Statement.verify att = stmt := congrArg fst same
    exact ⟨_, isLogged, rfl, eq_of_heq (mk.inj same).2⟩
  · obtain ⟨e, isLogged, -, same⟩ := logged ⟨.readInterval, login.interval⟩ (by
      rw [isHistory]
      exact mem_append_left _ isRead)
    obtain ⟨t, stmt, pre⟩ := e
    obtain rfl : Statement.readInterval = stmt := congrArg fst same
    exact ⟨_, isLogged, rfl, eq_of_heq (mk.inj same).2⟩

theorem isStale_of_past {last : Option OffsetDateTime} {period : Duration} {now : OffsetDateTime}
    (past : ∀ stamp ∈ last, stamp + period < now) : isStale period now (id, some last) = true := by
  show (!isFresh last period now) = true
  rw [not_eq_true', eq_false_iff]
  intro fresh
  obtain _ | stamp := last
  · cases fresh
  have early := of_decide_eq_true ((and_eq_true_iff.mp fresh).2)
  have late := past stamp rfl
  have : now ≤ stamp + period := by
    rw [Int.add_comm]
    exact Int.le_add_of_sub_right_le early
  exact absurd late (Int.not_lt.mpr this)

theorem checkSound_of_settles {verdict : Verdict} (settles : Settles verdict hist)
    (unfailing : Unfailing hist) : CheckSound hist verdict := by
  obtain ⟨pubkeys, now, iv, isKeys, isCheck, known⟩ := settles
  refine ⟨pubkeys, now, iv, isKeys, isCheck, fun period isPeriod => ?_⟩
  subst isPeriod
  have stale : ∀ id last, (id, some last) ∈ readsOf hist →
      (∀ stamp ∈ last, stamp + period < now) → seenStale hist = true := by
    intro id last isRead past
    rw [seenStale, isCheck]
    exact any_eq_true.mpr ⟨_, isRead, isStale_of_past past⟩
  rcases known period rfl with ⟨names, succeeded, closes⟩ |
    ⟨failed, prev, rfl, some_tracked, deadline⟩
  · grind
  · have unstale : seenStale (⟨.getPubkeyLastSsoAt failed, none⟩ :: prev) = false := by
      have pre := unfailing failed prev rfl
      rw [seenStale] at pre ⊢
      exact pre
    refine ⟨fun none_tracked => absurd none_tracked some_tracked, fun id last isRead past => ?_,
      fun succeeded => ?_, ?_⟩
    · rw [stale id last isRead past] at unstale
      cases unstale
    · exact absurd mem_cons_self (succeeded failed)
    · exact fun _ mom _ isKnown passed => deadline mom isKnown passed

abbrev reach (latest : OffsetDateTime) (world : World) (moves : List (Move Task)) : Reached :=
  (Config.initial world).run (system latest) moves

def HeadSound (reached : Reached) (history : List Seen) : Statement → Prop
  | .accept login => AcceptSound reached history login
  | .updatePubkeyLastSsoAt id time => Stamps id time history
  | .settle verdict => CheckSound history verdict
  | _ => True

theorem headSound (steady : Steady (reach latest w ms)) (mem : th ∈ (reach latest w ms).threads)
    (head : th.program.head = some stmt) :
    Open th.history ∧ HeadSound (reach latest w ms) th.history stmt := by
  have follows := steady.follows th mem
  have unfailing := steady.unfailing th mem
  have accepts : ∀ login, Gated login th.history →
      AcceptSound (reach latest w ms) th.history login := fun login => acceptSound_of_gated mem
  obtain ⟨t, hist, prog⟩ := th
  cases prog with
  | done res => cases head
  | perform next cont =>
    obtain rfl : next = stmt := Option.some.inj head
    obtain ⟨isOpen, required⟩ := follows.1
    refine ⟨isOpen, ?_⟩
    cases next with
    | accept login => exact accepts login required
    | updatePubkeyLastSsoAt id time => exact required
    | settle verdict => exact checkSound_of_settles required unfailing
    | _ => trivial

theorem stampsSound {reached : Reached} (steady : Steady reached) (m : Move Task) :
    (∀ r ∈ (reached.step (system latest) m).state.keys.rows, ∀ stamp ∈ r.lastSsoAt,
      r ∈ reached.state.keys.rows ∨ ∃ t, reached.performed (system latest) m =
          some (t, .updatePubkeyLastSsoAt r.id stamp)) ∧
    MovesOn reached.state (reached.step (system latest) m).state := by
  cases perf : reached.performed (system latest) m with
  | none =>
    rw [state_step_of_idle (system latest) perf]
    refine ⟨fun r mem _ _ => .inl mem, fun r mem later isLater sameId _ stamp is => ?_⟩
    rw [eq_of_id isLater mem sameId]
    exact ⟨stamp, is, Int.le_refl _⟩
  | some performed =>
    obtain ⟨t, stmt⟩ := performed
    rw [state_step (system latest) perf]
    obtain ⟨hist, next, mem⟩ := mem_of_performed (system latest) perf
    refine ⟨fun r isRow stamp isStamp => ?_, movesOn_execute (steady.pending _ mem)⟩
    rcases rowAfter_execute stmt reached.state r isRow with
      isOld | ⟨cleared, -⟩ | ⟨time, rfl, written⟩
    · exact .inl isOld
    · rw [cleared] at isStamp
      cases isStamp
    · grind

/-- In an orderly run a key login is accepted only with fresh keys or an approval of its own, keys
are stamped only by the latter, their times do not move back, and checks close connections whose
keys are past their time. -/
theorem step_up_gate_is_sound (latest : OffsetDateTime) (world : World) (past : PastStamps world)
    (moves : List (Move Task))
    (orderly : Config.Along (system latest) (Orderly latest) (Config.initial world) moves)
    (move : Move Task) :
    (∀ thread ∈ (reach latest world moves).threads, ∀ statement,
      thread.program.head = some statement →
      Open thread.history ∧ HeadSound (reach latest world moves) thread.history statement) ∧
    (∀ row ∈ (reach latest world (moves ++ [move])).state.keys.rows, ∀ stamp ∈ row.lastSsoAt,
      row ∈ (reach latest world moves).state.keys.rows ∨
        ∃ task, (reach latest world moves).performed (system latest) move =
          some (task, .updatePubkeyLastSsoAt row.id stamp)) ∧
    MovesOn (reach latest world moves).state (reach latest world (moves ++ [move])).state := by
  have steady := run_steady past moves orderly
  have last : reach latest world (moves ++ [move]) =
      (reach latest world moves).step (system latest) move :=
    run_append (system latest) _ moves [move]
  rw [last]
  exact ⟨fun thread mem statement head => headSound steady mem head, stampsSound steady move⟩

def withKeys (calls : List Auth.Call) : AuthState :=
  ((AuthState.new 1 none ⟨7, "alice"⟩ .ssh "db" (.anySingle {.publicKey}) 10 "abcd").run
    ([.submitCredential (.ok (some ⟨.publicKey, 1, 0⟩)),
      .submitCredential (.ok (some ⟨.publicKey, 2, 0⟩))] ++ calls)).2

def worldOf (interval : Option Duration) (calls : List Auth.Call) : World where
  clock := 1000
  interval := interval
  keys := ⟨[⟨1, "first", none⟩, ⟨2, "second", some 950⟩], by decide⟩
  reachable := true
  attempts _ := withKeys calls
  admits _ := some true

theorem past_worldOf (iv : Option Duration) (calls : List Auth.Call) :
    PastStamps (worldOf iv calls) := by
  intro r mem stamp isStamp
  rcases mem_cons.mp mem with rfl | second
  · cases isStamp
  · rw [mem_singleton.mp second] at isStamp
    cases isStamp
    show (950 : Int) ≤ 1000
    decide

def approvedWorld : World :=
  worldOf (some 100) [.requireStepUp, .deliver "db" 7 (.approved .once)]

def farOff : OffsetDateTime := 1000000

def stampsAndChecks : List (Move Task) :=
  [.start (.session [.tryAuth 0, .enforceStepUpWindow])] ++ advances 0 12

theorem approved_login_stays :
    (∃ thread ∈ (reach farOff approvedWorld stampsAndChecks).threads,
      thread.program.head.isSome = true ∧ Open thread.history ∧
      CheckSound thread.history (.stay (some 1100) 0)) ∧
    MovesOn (reach farOff approvedWorld stampsAndChecks).state
      (reach farOff approvedWorld (stampsAndChecks ++ [.advance 0])).state := by
  have orderly : Config.Along (system farOff) (Orderly farOff) (Config.initial approvedWorld)
      stampsAndChecks := by decide +kernel
  obtain ⟨heads, -, movesOn⟩ := step_up_gate_is_sound farOff approvedWorld (past_worldOf _ _)
    stampsAndChecks orderly (.advance 0)
  have settling : ∃ thread, (reach farOff approvedWorld stampsAndChecks).threads[0]? = some thread ∧
      thread.program.head = some (.settle (.stay (some 1100) 0)) := ⟨_, rfl, rfl⟩
  obtain ⟨thread, found, head⟩ := settling
  have mem := mem_of_getElem? found
  obtain ⟨isOpen, sound⟩ := heads thread mem _ head
  exact ⟨⟨thread, mem, by rw [head]; rfl, isOpen, sound⟩, movesOn⟩

def overtakes : List (Move Task) :=
  [.start (.session [.tryAuth 0]), .start (.session [.tryAuth 1])] ++ advances 0 5 ++
    [.start (.elapse 10), .advance 2] ++ advances 1 6

def cannotRead : List (Move Task) :=
  [.start (.session [.tryAuth 0, .enforceStepUpWindow])] ++ advances 0 4 ++
    [.start (.configure (some 100)), .advance 1] ++ advances 0 3 ++
    [.start (.setReachable false), .advance 2, .advance 0]

def settlesNext (reached : Reached) (index : Nat) : Option (Verdict × List Read) :=
  reached.threads[index]?.bind fun thread =>
    match thread.program.head with
    | some (.settle verdict) => some (verdict, readsOf thread.history)
    | _ => none

theorem stamps_move_back :
    (((reach farOff approvedWorld overtakes).state.keys.find? 1).bind
        PublicKeyCredential.lastSsoAt = some 1010 ∧
      ((reach farOff approvedWorld (overtakes ++ advances 0 1)).state.keys.find? 1).bind
        PublicKeyCredential.lastSsoAt = some 1000) ∧
    settlesNext (reach farOff (worldOf none []) cannotRead) 0 =
      some (.stay none 1, [(2, none), (1, some none)]) := by
  decide +kernel

/-- At least `left` remains of a window. -/
def Allows (left : Duration) : StepUpWindow → Prop
  | .notApplicable => True
  | .remaining most => left ≤ most
  | .expired => False

/-- Whatever a check reads, each of its keys is fresh for as long as the window remains. -/
theorem window_outlasts_no_key (latest now : OffsetDateTime) (interval : Duration)
    (ids : List Uuid) (window : StepUpWindow) (history : List Seen) :
    (readWindows latest (some interval) now ids window).Follows (fun _ _ => True)
      (fun seen result => ∃ reads : List Read, seen = reads.map readEvent ++ history ∧
        ∀ reached ∈ result, ∀ left, Allows left reached → Allows left window ∧
          (now + left ≤ latest → ∀ id ∈ ids, ∃ last, (id, some last) ∈ reads ∧
            isFresh last interval (now + left) = true)) history := by
  induction ids generalizing history window with
  | nil => exact ⟨[], rfl, fun _ same _ allows => ⟨Option.some.inj same ▸ allows, by simp⟩⟩
  | cons id rest ih =>
    refine ⟨trivial, fun last => ?_⟩
    cases last with
    | none => exact ⟨[(id, none)], rfl, by simp⟩
    | some last =>
      refine (ih _ _).imp (fun _ _ _ => trivial) ?_
      rintro _ res ⟨reads, rfl, known⟩
      refine ⟨reads ++ [(id, some last)], by simp [readEvent], fun reached same left allows => ?_⟩
      obtain ⟨merged, others⟩ := known reached same left allows
      have both : Allows left window ∧
          (now + left ≤ latest → isFresh last interval (now + left) = true) := by
        clear * - merged
        cases last <;> cases window <;> grind [Allows, StepUpWindow.merge, stepUpWindow, isFresh]
      refine ⟨both.1, fun fits => forall_mem_cons.mpr ⟨⟨last, by simp, both.2 fits⟩, ?_⟩⟩
      intro other mem
      obtain ⟨stamp, read, fresh⟩ := others fits other mem
      exact ⟨stamp, mem_append_left _ read, fresh⟩

end Warpgate.Ssh
