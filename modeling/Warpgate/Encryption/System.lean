/-
This file models the encryption of stored secrets next to their edits.
-/

import Warpgate.Basic
import Warpgate.Concurrent.Locks
import Warpgate.Sql.Table

namespace Warpgate.Encryption

open Concurrent

section

/-! ### Keys -/

structure MasterKey where
  fingerprint : String
  material : Nat
  deriving DecidableEq, Repr

structure Keyring where
  primary : Option MasterKey
  retired : List MasterKey
  distinct : ((primary.toList ++ retired).map MasterKey.fingerprint).Nodup

namespace Keyring

def keys (ring : Keyring) : List MasterKey := ring.primary.toList ++ ring.retired

def contains (ring : Keyring) (fingerprint : String) : Bool :=
  ring.keys.any fun key => key.fingerprint = fingerprint

def isEmpty (ring : Keyring) : Bool := ring.primary.isNone && ring.retired.isEmpty

def single (key : MasterKey) : Keyring where
  primary := some key
  retired := []
  distinct := List.nodup_singleton _

theorem primary_mem_keys {ring : Keyring} {k : MasterKey} (isPrimary : ring.primary = some k) :
    k ∈ ring.keys := by
  simp [keys, isPrimary]

end Keyring

inductive Stored
  | plain (text : String)
  | envelope (key : MasterKey) (text : String)
  deriving DecidableEq, Repr

def Stored.text : Stored → String
  | plain text => text
  | envelope _ text => text

def Stored.readableWith (key : MasterKey) : Stored → Bool
  | plain _ => true
  | envelope sealing _ => sealing = key

inductive EncryptionError (Name : Type)
  | keyMismatch (expected : Name) (actual : List Name)
  | noKey (expected : Name)
  | corrupt
  deriving DecidableEq, Repr

def EncryptionError.map {First Second : Type} (change : First → Second) :
    EncryptionError First → EncryptionError Second
  | .keyMismatch expected actual => .keyMismatch (change expected) (actual.map change)
  | .noKey expected => .noKey (change expected)
  | .corrupt => .corrupt

namespace Keyring

def decrypt (ring : Keyring) : Stored → Except (EncryptionError String) String
  | .plain text => .ok text
  | .envelope key text =>
    -- a key that only shares the fingerprint does not open the envelope
    if key ∈ ring.keys then .ok text
    else if ring.contains key.fingerprint then .error .corrupt
    else if ring.isEmpty then .error (.noKey key.fingerprint)
    else .error (.keyMismatch key.fingerprint (ring.keys.map MasterKey.fingerprint))

def reencrypt (ring : Keyring) (value : Stored) : Except (EncryptionError String) Stored :=
  match ring.primary, value with
  | none, value => .ok value
  | some primary, .plain text => .ok (.envelope primary text)
  | some primary, .envelope key text =>
    if key.fingerprint = primary.fingerprint then .ok (.envelope key text)
    else (ring.decrypt (.envelope key text)).map (.envelope primary)

def encrypt (ring : Keyring) : Stored → Stored
  | .plain text =>
    match ring.primary with
    | none => .plain text
    | some primary => .envelope primary text
  | .envelope key text => .envelope key text

def reads (ring : Keyring) : Stored → Bool
  | .plain _ => true
  | .envelope key _ => key ∈ ring.keys

def decryptsAll (ring : Keyring) (secrets : List Stored) : Bool :=
  secrets.all fun value => (ring.decrypt value).isOk

def reencryptAll (ring : Keyring) (secrets : List Stored) : Option (List Stored) :=
  match secrets.mapM ring.reencrypt with
  | .error _ => none
  | .ok changed => if changed = secrets then none else some changed

theorem isOk_decrypt (ring : Keyring) (v : Stored) : (ring.decrypt v).isOk = ring.reads v := by
  cases v with
  | plain text => rfl
  | envelope k text =>
    rw [decrypt, reads]
    split
    case isTrue holds => exact (decide_eq_true holds).symm
    case isFalse lacks =>
      rw [decide_eq_false lacks]
      split
      · rfl
      · split <;> rfl

variable {ring : Keyring} {primary : MasterKey} {secrets changed : List Stored}

theorem text_reencrypt {v changed : Stored} (done : ring.reencrypt v = .ok changed) :
    changed.text = v.text := by
  unfold reencrypt at done
  split at done <;> grind [decrypt, Stored.text, Except.map]

theorem reencrypt_of_reads (isPrimary : ring.primary = some primary) {v : Stored}
    (readable : ring.reads v = true) :
    ∃ changed, ring.reencrypt v = .ok changed ∧ changed.readableWith primary = true ∧
      (v.readableWith primary = false → changed ≠ v) := by
  cases v with
  | plain text =>
    refine ⟨.envelope primary text, ?_, decide_eq_true rfl, nofun⟩
    rw [reencrypt.eq_def, isPrimary]
  | envelope k text =>
    have holds := of_decide_eq_true readable
    by_cases same : k.fingerprint = primary.fingerprint
    · have isKey := List.inj_on_of_nodup_map ring.distinct holds (primary_mem_keys isPrimary) same
      subst isKey
      refine ⟨.envelope k text, ?_, decide_eq_true rfl, ?_⟩
      · rw [reencrypt.eq_def, isPrimary]
        exact if_pos rfl
      · simp [Stored.readableWith]
    · refine ⟨.envelope primary text, ?_, decide_eq_true rfl, ?_⟩
      · rw [reencrypt.eq_def, isPrimary]
        dsimp only
        rw [if_neg same, decrypt, if_pos holds]
        rfl
      · grind

theorem mapM_reencrypt_cons (ring : Keyring) (v : Stored) (rest : List Stored) :
    (v :: rest).mapM ring.reencrypt =
      match ring.reencrypt v with
      | .error error => .error error
      | .ok first =>
        match rest.mapM ring.reencrypt with
        | .error error => .error error
        | .ok others => .ok (first :: others) := by
  rw [List.mapM_cons]
  cases ring.reencrypt v with
  | error error => rfl
  | ok first => cases rest.mapM ring.reencrypt <;> rfl

theorem text_mapM_reencrypt (done : secrets.mapM ring.reencrypt = .ok changed) :
    changed.map Stored.text = secrets.map Stored.text := by
  induction secrets generalizing changed with
  | nil =>
    cases done
    rfl
  | cons v rest ih =>
    rw [mapM_reencrypt_cons] at done
    grind [text_reencrypt]

theorem text_reencryptAll (done : ring.reencryptAll secrets = some changed) :
    changed.map Stored.text = secrets.map Stored.text := by
  grind [reencryptAll, text_mapM_reencrypt]

theorem mapM_reencrypt_of_reads (isPrimary : ring.primary = some primary) {secrets : List Stored}
    (readable : ∀ v ∈ secrets, ring.reads v = true) :
    ∃ changed, secrets.mapM ring.reencrypt = .ok changed ∧
      (∀ v ∈ changed, v.readableWith primary = true) ∧
      ((∃ v ∈ secrets, v.readableWith primary = false) → changed ≠ secrets) := by
  induction secrets with
  | nil => exact ⟨[], rfl, nofun, fun ⟨_, mem, _⟩ => by cases mem⟩
  | cons v rest ih =>
    obtain ⟨first, ofFirst, firstReads, firstChanges⟩ :=
      reencrypt_of_reads isPrimary (readable v (.head _))
    obtain ⟨others, ofOthers, othersRead, othersChange⟩ :=
      ih fun other mem => readable other (.tail _ mem)
    refine ⟨first :: others, by rw [mapM_reencrypt_cons, ofFirst, ofOthers], ?_, ?_⟩
    · grind
    · grind

theorem reencryptAll_of_reads (isPrimary : ring.primary = some primary) {secrets : List Stored}
    (readable : ∀ v ∈ secrets, ring.reads v = true) :
    (∀ changed, ring.reencryptAll secrets = some changed →
        ∀ v ∈ changed, v.readableWith primary = true) ∧
      (ring.reencryptAll secrets = none → ∀ v ∈ secrets, v.readableWith primary = true) := by
  obtain ⟨changed, done, reads, changes⟩ := mapM_reencrypt_of_reads isPrimary readable
  rw [reencryptAll, done]
  dsimp only
  constructor
  · grind
  · grind

end Keyring

inductive Kind
  | target
  | sshClientKey
  | secretBackend
  | hostKey
  deriving DecidableEq, Repr

/-! ### Rows and statements -/

structure Row where
  kind : Kind
  id : Uuid
  secrets : List Stored
  options : String
  columns : String
  deriving DecidableEq, Repr

def Row.key (row : Row) : Kind × Uuid := (row.kind, row.id)

structure Content where
  secrets : List String
  options : String
  columns : String
  deriving DecidableEq, Repr

def Row.content (row : Row) : Content where
  secrets := row.secrets.map Stored.text
  options := row.options
  columns := row.columns

structure Node where
  id : NodeId
  lastSeen : OffsetDateTime
  encryptionKeyFingerprint : Option String
  deriving DecidableEq, Repr

structure World where
  rows : Sql.Table Row Row.key
  encryptionKeyFp : Option String
  retiringKeyFp : Option String
  nodes : Sql.Table Node Node.id
  clock : OffsetDateTime

structure Rewrite where
  id : Uuid
  secrets : List Stored
  options : String
  deriving DecidableEq, Repr

def Rewrite.apply (change : Rewrite) (row : Row) : Row :=
  { row with secrets := change.secrets, options := change.options }

@[simp] theorem Rewrite.key_apply (change : Rewrite) (r : Row) : (change.apply r).key = r.key := rfl

structure Edit where
  value : Option (List Stored × String)
  columns : String
  deriving DecidableEq, Repr

def Edit.apply (edit : Edit) (row : Row) : Row :=
  match edit.value with
  | none => { row with columns := edit.columns }
  | some (secrets, options) =>
    { row with secrets := secrets, options := options, columns := edit.columns }

@[simp] theorem Edit.key_apply (edit : Edit) (r : Row) : (edit.apply r).key = r.key := by
  rw [Edit.apply]
  split <;> rfl

inductive Statement
  | getKeyState
  | casKeyState (current : Option String) (own : String)
  | probeRows (kind : Kind)
  | aliveNodes
  | selectRows (kind : Kind)
  | rewrite (kind : Kind) (changes : List Rewrite)
  | clearRetiring (current : String)
  | heartbeat (node : NodeId) (fingerprint : Option String)
  | shutdown (node : NodeId)
  | findRow (kind : Kind) (id : Uuid)
  | edit (kind : Kind) (id : Uuid) (edit : Edit)
  | insert (row : Row)
  | delete (kind : Kind) (id : Uuid)
  | elapse (period : Duration)
  deriving DecidableEq

@[reducible] def Statement.Outcome : Statement → Type
  | getKeyState => Option String
  | casKeyState _ _ => Bool
  | probeRows _ => List Row
  | aliveNodes => List Node
  | selectRows _ => List Row
  | findRow _ _ => Option Row
  | rewrite _ _ | clearRetiring _ | heartbeat _ _ | shutdown _ | edit _ _ _ | insert _
  | delete _ _ | elapse _ => Unit

def heartbeatTimeout : Duration := 30 * 1000000000

namespace World

variable (world : World)

def rowsOf (kind : Kind) : List Row :=
  world.rows.select fun row => row.kind = kind

def casKeyState (current : Option String) (own : String) : Bool × World :=
  if world.encryptionKeyFp = current then
    (true, { world with encryptionKeyFp := some own, retiringKeyFp := current })
  else (false, world)

def aliveNodes : List Node :=
  world.nodes.select fun node => world.clock - heartbeatTimeout ≤ node.lastSeen

def rewriteRow (rows : Sql.Table Row Row.key) (kind : Kind) (change : Rewrite) :
    Sql.Table Row Row.key :=
  rows.update (fun row => row.key = (kind, change.id)) change.apply change.key_apply

def rewrite (kind : Kind) (changes : List Rewrite) : World :=
  { world with rows := changes.foldl (fun rows change => rewriteRow rows kind change) world.rows }

def clearRetiring (current : String) : World :=
  if world.encryptionKeyFp = some current then { world with retiringKeyFp := none } else world

def edit (kind : Kind) (id : Uuid) (edit : Edit) : World :=
  { world with
    rows := world.rows.update (fun row => row.key = (kind, id)) edit.apply edit.key_apply }

end World

def execute : (statement : Statement) → World → statement.Outcome × World
  | .getKeyState, world => (world.encryptionKeyFp, world)
  | .casKeyState current own, world => world.casKeyState current own
  | .probeRows kind, world => (world.rowsOf kind, world)
  | .aliveNodes, world => (world.aliveNodes, world)
  | .selectRows kind, world => (world.rowsOf kind, world)
  | .rewrite kind changes, world => ((), world.rewrite kind changes)
  | .clearRetiring current, world => ((), world.clearRetiring current)
  | .heartbeat node fingerprint, world =>
    ((), { world with nodes := world.nodes.upsert ⟨node, world.clock, fingerprint⟩ })
  | .shutdown node, world =>
    ((), { world with nodes := world.nodes.delete fun row => row.id = node })
  | .findRow kind id, world => (world.rows.find? (kind, id), world)
  | .edit kind id edit, world => ((), world.edit kind id edit)
  | .insert row, world => ((), { world with rows := (world.rows.insert row).2 })
  | .delete kind id, world =>
    ((), { world with rows := world.rows.delete fun row => row.key = (kind, id) })
  | .elapse period, world => ((), { world with clock := world.clock + period })

abbrev Action (Result : Type) := Program Statement Statement.Outcome Result

abbrev act (statement : Statement) : Action statement.Outcome :=
  Program.perform statement Program.done

/-! ### Programs -/

inductive Position
  | inSync
  | behind
  deriving DecidableEq, Repr

def advanceKeyState (ring : Keyring) : Nat → Action (Option Position)
  | 0 => pure none
  | rounds + 1 => do
    let current ← act .getKeyState
    match ring.primary with
    | none => pure (some (if current.isNone then .inSync else .behind))
    | some own =>
      if current = some own.fingerprint then pure (some .inSync)
      else if current.any (fun fingerprint => !ring.contains fingerprint) then
        pure (some .behind)
      else do
        let won ← act (.casKeyState current own.fingerprint)
        if won then pure (some .inSync) else advanceKeyState ring rounds

def probeUndecryptable (ring : Keyring) : List Kind → Action (List (Kind × Uuid))
  | [] => pure []
  | kind :: rest => do
    let rows ← act (.probeRows kind)
    let others ← probeUndecryptable ring rest
    pure ((rows.filter fun row => !ring.decryptsAll row.secrets).map Row.key ++ others)

def Row.reencrypted (ring : Keyring) (row : Row) : Option Rewrite :=
  (ring.reencryptAll row.secrets).map fun secrets => ⟨row.id, secrets, row.options⟩

def rewriteRows (kind : Kind) : List Rewrite → Action Unit
  | [] => pure ()
  | change :: rest => do
    act (.rewrite kind [change])
    rewriteRows kind rest

def rewriteKind (ring : Keyring) (kind : Kind) : Action Unit := do
  let rows ← act (.selectRows kind)
  rewriteRows kind (rows.filterMap (Row.reencrypted ring))

def rewriteHostKeys (ring : Keyring) : Action Unit := do
  let rows ← act (.selectRows .hostKey)
  if (rows.filterMap (Row.reencrypted ring)).isEmpty then pure ()
  else act (.rewrite .hostKey (rows.filterMap (Row.reencrypted ring)))

def rewriteAll (ring : Keyring) : Action Unit := do
  rewriteKind ring .target
  rewriteKind ring .sshClientKey
  rewriteKind ring .secretBackend
  rewriteHostKeys ring

inductive BackfillOutcome
  | settled
  | awaitingCluster
  deriving DecidableEq, Repr

def allKinds : List Kind := [.target, .sshClientKey, .secretBackend, .hostKey]

def backfillWith (ring : Keyring) (current : MasterKey) (undecryptable : List (Kind × Uuid)) :
    Action BackfillOutcome := do
  let alive ← act .aliveNodes
  if alive.any (fun node => node.encryptionKeyFingerprint ≠ some current.fingerprint) then
    pure .awaitingCluster
  else
    rewriteAll ring
    if undecryptable.isEmpty then
      act (.clearRetiring current.fingerprint)
      pure .settled
    else pure .settled

def backfillCredentialEncryption (ring : Keyring) (rounds : Nat) :
    Action (Option BackfillOutcome) := do
  match ← advanceKeyState ring rounds with
  | none => pure none
  | some position => do
    let undecryptable ← probeUndecryptable ring allKinds
    match position, ring.primary with
    | .inSync, some current => do
      let outcome ← backfillWith ring current undecryptable
      pure (some outcome)
    | _, _ => pure (some .settled)

variable {ok : Statement → Prop} (ring : Keyring)

theorem performs_advanceKeyState (rounds : Nat) (reads : ok .getKeyState)
    (swaps : ∀ cur own, ok (.casKeyState cur own)) : (advanceKeyState ring rounds).Performs ok := by
  induction rounds with
  | zero => trivial
  | succ rounds ih =>
    simp only [advanceKeyState, Program.act_bind]
    refine ⟨reads, fun cur => ?_⟩
    cases ring.primary with
    | none => trivial
    | some own =>
      dsimp only
      split
      · trivial
      · split
        · trivial
        · refine ⟨swaps _ _, fun won => ?_⟩
          cases won with
          | true => trivial
          | false => exact ih

theorem performs_probeUndecryptable (ks : List Kind) (probes : ∀ kind, ok (.probeRows kind)) :
    (probeUndecryptable ring ks).Performs ok := by
  induction ks with
  | nil => trivial
  | cons kind rest ih => exact ⟨probes kind, fun _ => ih.bind fun _ => trivial⟩

theorem performs_rewriteRows {kind : Kind} {changes : List Rewrite}
    (rewrites : ∀ changes, ok (.rewrite kind changes)) :
    (rewriteRows kind changes).Performs ok := by
  induction changes with
  | nil => trivial
  | cons change rest ih => exact ⟨rewrites _, fun _ => ih⟩

theorem performs_rewriteAll (selects : ∀ kind, ok (.selectRows kind))
    (rewrites : ∀ kind changes, ok (.rewrite kind changes)) : (rewriteAll ring).Performs ok := by
  have each : ∀ kind, (rewriteKind ring kind).Performs ok := fun kind =>
    ⟨selects kind, fun _ => performs_rewriteRows (rewrites kind)⟩
  have hostKeys : (rewriteHostKeys ring).Performs ok := by
    simp only [rewriteHostKeys, Program.act_bind]
    refine ⟨selects .hostKey, fun rows => ?_⟩
    dsimp only
    split
    · trivial
    · exact ⟨rewrites _ _, fun _ => trivial⟩
  exact (each .target).bind fun _ => (each .sshClientKey).bind fun _ =>
    (each .secretBackend).bind fun _ => hostKeys

theorem performs_backfillWith (cur : MasterKey) (undecryptable : List (Kind × Uuid))
    (lists : ok .aliveNodes) (selects : ∀ kind, ok (.selectRows kind))
    (rewrites : ∀ kind changes, ok (.rewrite kind changes))
    (clears : undecryptable.isEmpty = true → ok (.clearRetiring cur.fingerprint)) :
    (backfillWith ring cur undecryptable).Performs ok := by
  simp only [backfillWith, Program.act_bind]
  refine ⟨lists, fun alive => ?_⟩
  dsimp only
  split
  · trivial
  · refine (performs_rewriteAll ring selects rewrites).bind fun _ => ?_
    split
    case isTrue none_undecryptable => exact ⟨clears none_undecryptable, fun _ => trivial⟩
    case isFalse => trivial

def updateTarget (ring : Keyring) (id : Uuid) (secrets : List Stored) (options columns : String) :
    Action Bool := do
  match ← act (.findRow .target id) with
  | none => pure false
  | some _ => do
    act (.edit .target id ⟨some (secrets.map ring.encrypt, options), columns⟩)
    pure true

def updateSecretBackend (ring : Keyring) (id : Uuid) (secrets : Option (List Stored))
    (options columns : String) : Action Bool := do
  match ← act (.findRow .secretBackend id) with
  | none => pure false
  | some existing => do
    act (.edit .secretBackend id
      ⟨some ((secrets.map fun given => given.map ring.encrypt).getD existing.secrets, options),
        columns⟩)
    pure true

def updateSshClientKey (id : Uuid) (columns : String) : Action Bool := do
  match ← act (.findRow .sshClientKey id) with
  | none => pure false
  | some _ => do
    act (.edit .sshClientKey id ⟨none, columns⟩)
    pure true

inductive Task
  | backfill (ring : Keyring) (rounds : Nat)
  | advance (ring : Keyring) (rounds : Nat)
  | heartbeat (node : NodeId) (ring : Keyring)
  | shutdown (node : NodeId)
  | updateTarget (ring : Keyring) (id : Uuid) (secrets : List Stored) (options columns : String)
  | updateSecretBackend (ring : Keyring) (id : Uuid) (secrets : Option (List Stored))
      (options columns : String)
  | updateSshClientKey (id : Uuid) (columns : String)
  | create (ring : Keyring) (row : Row)
  | delete (kind : Kind) (id : Uuid)
  | elapse (period : Duration)

inductive Answer
  | backfilled (outcome : Option BackfillOutcome)
  | advanced (position : Option Position)
  | updated (found : Bool)
  | done
  deriving DecidableEq, Repr

def Task.program : Task → Action Answer
  | backfill ring rounds => do
    return .backfilled (← backfillCredentialEncryption ring rounds)
  | advance ring rounds => do
    return .advanced (← advanceKeyState ring rounds)
  | heartbeat node ring => do
    act (.heartbeat node (ring.primary.map MasterKey.fingerprint))
    return .done
  | shutdown node => do
    act (.shutdown node)
    return .done
  | updateTarget ring id secrets options columns => do
    return .updated (← Encryption.updateTarget ring id secrets options columns)
  | updateSecretBackend ring id secrets options columns => do
    return .updated (← Encryption.updateSecretBackend ring id secrets options columns)
  | updateSshClientKey id columns => do
    return .updated (← Encryption.updateSshClientKey id columns)
  | create ring row => do
    act (.insert { row with secrets := row.secrets.map ring.encrypt })
    return .done
  | delete kind id => do
    act (.delete kind id)
    return .done
  | elapse period => do
    act (.elapse period)
    return .done

def system : System Task Statement Statement.Outcome World Answer where
  program := Task.program
  execute := execute

abbrev Config := Concurrent.Config Task Statement Statement.Outcome World Answer

end

open List Sql.Table Statement

/-! ### What the rows mean -/

def World.content (world : World) (key : Kind × Uuid) : Option Content :=
  (world.rows.find? key).map Row.content

def Edit.revise (edit : Edit) (content : Content) : Content :=
  match edit.value with
  | none => { content with columns := edit.columns }
  | some (secrets, options) => ⟨secrets.map Stored.text, options, edit.columns⟩

theorem Edit.content_apply (edit : Edit) (r : Row) :
    (edit.apply r).content = edit.revise r.content := by
  rw [Edit.apply, Edit.revise]
  cases edit.value <;> rfl

def Statement.revise (key : Kind × Uuid) : Statement → Option Content → Option Content
  | edit kind id made, content => if (kind, id) = key then content.map made.revise else content
  | insert row, content => if row.key = key then content.or (some row.content) else content
  | delete kind id, content => if (kind, id) = key then none else content
  | _, content => content

def edited (world : World) (key : Kind × Uuid) (log : List (Entry Task Statement World)) :
    Option Content :=
  log.foldr (fun entry content => entry.statement.revise key content) (world.content key)

def Faithful (world : World) (kind : Kind) (change : Rewrite) : Prop :=
  ∀ content ∈ world.content (kind, change.id),
    change.secrets.map Stored.text = content.secrets ∧ change.options = content.options

variable {change : Rewrite} {kind : Kind} {w : World} {changes : List Rewrite} {stmt : Statement}
  {r : Row} {history hist : History Statement.Outcome}
  {ev : Event Statement Statement.Outcome}

theorem content_rewriteRow (faithful : Faithful w kind change) (k : Kind × Uuid) :
    World.content { w with rows := World.rewriteRow w.rows kind change } k =
      w.content k := by
  rw [World.content, World.content, World.rewriteRow, find?_update]
  cases found : w.rows.find? k with
  | none => rfl
  | some r =>
    rw [Option.map_some, Option.map_some, Option.map_some, Option.some.injEq]
    split
    case isTrue same =>
      have atKey := (of_decide_eq_true same).symm.trans (key_of_find? found)
      have isContent : w.content (kind, change.id) = some r.content := by
        rw [World.content, atKey, found]
        rfl
      obtain ⟨texts, settings⟩ := faithful r.content isContent
      rw [Row.content, Rewrite.apply, texts, settings]
      rfl
    case isFalse => rfl

theorem content_rewrite (faithful : ∀ change ∈ changes, Faithful w kind change)
    (k : Kind × Uuid) : (w.rewrite kind changes).content k = w.content k := by
  induction changes generalizing w with
  | nil => rfl
  | cons change rest ih =>
    have first := content_rewriteRow (faithful change (.head _))
    have later : ∀ change' ∈ rest, Faithful
        { w with rows := World.rewriteRow w.rows kind change } kind change' := by
      intro change' mem
      rw [Faithful, first]
      exact faithful change' (.tail _ mem)
    exact (ih later).trans (first k)

theorem content_execute (k : Kind × Uuid)
    (faithful : ∀ kind changes, stmt = .rewrite kind changes →
      ∀ change ∈ changes, Faithful w kind change) :
    (execute stmt w).2.content k = stmt.revise k (w.content k) := by
  cases stmt with
  | rewrite kind changes => exact content_rewrite (faithful kind changes rfl) k
  | casKeyState cur own =>
    rw [execute, World.casKeyState]
    split <;> rfl
  | clearRetiring cur =>
    rw [execute, World.clearRetiring]
    split <;> rfl
  | insert r =>
    rw [execute, World.content, World.content, find?_insert, revise]
    by_cases same : r.key = k
    · rw [if_pos same, if_pos same]
      cases w.rows.find? k <;> rfl
    · rw [if_neg same, if_neg same]
  | edit kind id | delete kind id =>
    simp only [execute, World.edit, World.content, find?_update, find?_delete, revise]
    cases found : w.rows.find? k with
    | none => simp
    | some r =>
      have atKey := key_of_find? found
      by_cases same : (kind, id) = k
      · simp [same, atKey, Edit.content_apply]
      · simp [same, atKey, Ne.symm same]
  | _ => rfl

def Kind.order : Kind → Nat
  | target => 0
  | sshClientKey => 1
  | secretBackend => 2
  | hostKey => 3

def selects (kind : Kind) (row : Row) : Event Statement Statement.Outcome → Bool
  | ⟨.selectRows selected, rows⟩ => selected = kind && row ∈ rows
  | _ => false

def selectsKey (key : Kind × Uuid) : Event Statement Statement.Outcome → Bool
  | ⟨.selectRows selected, rows⟩ => selected = key.1 && rows.any fun row => row.id = key.2
  | _ => false

def passes (kind : Kind) : Event Statement Statement.Outcome → Bool
  | ⟨.selectRows selected, _⟩ => kind.order < selected.order
  | ⟨.clearRetiring _, _⟩ => true
  | _ => false

def Statement.writesValue : Statement → Option (Kind × Uuid)
  | edit kind id made => if made.value.isSome then some (kind, id) else none
  | insert row => some row.key
  | _ => none

/-! ### Edits next to a rotation -/

def EditsApart (config : Config) (_ : Task) (statement : Statement) : Prop :=
  ∀ key ∈ statement.writesValue,
    config.threads.countP (fun thread => thread.inside (selectsKey key) (passes key.1)) = 0

instance EditsApart.decidable (config : Config) (task : Task) (statement : Statement) :
    Decidable (EditsApart config task statement) :=
  inferInstanceAs (Decidable (∀ key ∈ statement.writesValue, _))

def Row.asIs (row : Row) : Rewrite := ⟨row.id, row.secrets, row.options⟩

def Rewrite.IsOf (change : Rewrite) (row : Row) : Prop :=
  change.id = row.id ∧ change.secrets.map Stored.text = row.secrets.map Stored.text ∧
    change.options = row.options

theorem Rewrite.IsOf.faithful (isOf : change.IsOf r) (faithful : Faithful w kind r.asIs) :
    Faithful w kind change := by
  obtain ⟨isId, texts, settings⟩ := isOf
  rw [Faithful, isId, texts, settings]
  exact faithful

def mayRewrite (history : History Statement.Outcome) : Statement → Prop
  | .rewrite kind changes => history.any (passes kind) = false ∧
      ∀ change ∈ changes, ∃ row, change.IsOf row ∧ history.any (selects kind row) = true
  | _ => True

def Unpassed (order : Nat) (history : History Statement.Outcome) : Prop :=
  ∀ kind : Kind, order ≤ kind.order → history.any (passes kind) = false

theorem Unpassed.mono {first second : Nat} (ord : first ≤ second)
    (unpassed : Unpassed first hist) : Unpassed second hist :=
  fun kind later => unpassed kind (Nat.le_trans ord later)

theorem Unpassed.cons {order : Nat}
    (passesNone : ∀ kind : Kind, order ≤ kind.order → passes kind ev = false)
    (unpassed : Unpassed order hist) : Unpassed order (ev :: hist) := by
  intro kind later
  rw [any_cons, passesNone kind later, unpassed kind later]
  rfl

theorem rewriteRows_follows
    (made : ∀ change ∈ changes, ∃ r, change.IsOf r ∧ hist.any (selects kind r) = true)
    (unpassed : Unpassed kind.order hist) :
    (rewriteRows kind changes).Follows mayRewrite
      (fun seen _ => Unpassed (kind.order + 1) seen) hist := by
  induction changes generalizing hist with
  | nil => exact unpassed.mono (Nat.le_succ _)
  | cons change rest ih =>
    refine ⟨⟨unpassed kind (Nat.le_refl _), fun change' mem => ?_⟩, fun out => ?_⟩
    · rw [mem_singleton.mp mem]
      exact made change (.head _)
    · refine ih (fun change' mem => ?_) (unpassed.cons fun _ _ => rfl)
      obtain ⟨r, isOf, selected⟩ := made change' (.tail _ mem)
      exact ⟨r, isOf, by rw [any_cons, selected, Bool.or_true]⟩

theorem made_of_selected {ring : Keyring} {rows : List Row} :
    ∀ change ∈ rows.filterMap (Row.reencrypted ring), ∃ r, change.IsOf r ∧
      any (⟨.selectRows kind, rows⟩ :: hist) (selects kind r) = true := by
  intro change mem
  obtain ⟨r, isRow, changed⟩ := mem_filterMap.mp mem
  obtain ⟨secrets, done, rfl⟩ := Option.map_eq_some_iff.mp changed
  refine ⟨r, ⟨rfl, Keyring.text_reencryptAll done, rfl⟩, ?_⟩
  simp [selects, isRow]

theorem unpassed_select {rows : List Row} (unpassed : Unpassed kind.order hist) :
    Unpassed kind.order (⟨.selectRows kind, rows⟩ :: hist) :=
  unpassed.cons fun _ later => decide_eq_false (Nat.not_lt.mpr later)

variable (ring : Keyring)

theorem rewriteKind_follows (kind : Kind) (unpassed : Unpassed kind.order history)  :
    (rewriteKind ring kind).Follows mayRewrite (fun seen _ => Unpassed (kind.order + 1) seen)
      history :=
  ⟨trivial, fun _ => rewriteRows_follows made_of_selected (unpassed_select unpassed)⟩

theorem rewriteHostKeys_follows (unpassed : Unpassed Kind.hostKey.order hist) :
    (rewriteHostKeys ring).Follows mayRewrite (fun _ _ => True) hist := by
  simp only [rewriteHostKeys, Program.act_bind]
  refine ⟨trivial, fun rows => ?_⟩
  dsimp only
  split
  · trivial
  · exact ⟨⟨unpassed_select unpassed .hostKey (Nat.le_refl _), made_of_selected⟩, fun _ => trivial⟩

theorem rewriteAll_follows (unpassed : Unpassed 0 hist) :
    (rewriteAll ring).Follows mayRewrite (fun _ _ => True) hist := by
  refine (rewriteKind_follows ring .target unpassed).seq fun seen _ first => ?_
  refine (rewriteKind_follows ring .sshClientKey first).seq fun seen _ second => ?_
  refine (rewriteKind_follows ring .secretBackend second).seq fun seen _ third => ?_
  exact rewriteHostKeys_follows ring third

def Statement.precedes : Statement → Prop
  | getKeyState | casKeyState _ _ | probeRows _ | aliveNodes => True
  | _ => False

theorem Statement.precedes.mayRewrite (precedes : stmt.precedes)
    (hist : History Outcome) : mayRewrite hist stmt := by
  cases stmt <;> trivial

theorem Statement.precedes.unpassed (precedes : ev.1.precedes) (unpassed : Unpassed 0 hist) :
    Unpassed 0 (ev :: hist) := by
  obtain ⟨stmt, out⟩ := ev
  refine unpassed.cons fun kind _ => ?_
  cases stmt <;> first | rfl | exact precedes.elim

theorem backfillWith_follows (cur : MasterKey) (undecryptable : List (Kind × Uuid))
    (unpassed : Unpassed 0 hist) :
    (backfillWith ring cur undecryptable).Follows mayRewrite (fun _ _ => True) hist := by
  simp only [backfillWith, Program.act_bind]
  refine ⟨trivial, fun alive => ?_⟩
  have later : Unpassed 0 (⟨.aliveNodes, alive⟩ :: hist) := unpassed.cons fun _ _ => rfl
  dsimp only
  split
  · trivial
  · refine (rewriteAll_follows ring later).seq fun seen _ _ => ?_
    split
    · exact ⟨trivial, fun _ => trivial⟩
    · trivial

theorem backfill_follows (rounds : Nat) :
    (backfillCredentialEncryption ring rounds).Follows mayRewrite (fun _ _ => True) [] := by
  have start : Unpassed 0 [] := fun _ _ => rfl
  have advances : (advanceKeyState ring rounds).Performs precedes :=
    performs_advanceKeyState ring rounds trivial fun _ _ => trivial
  refine (advances.follows_keeping (fun seen _ precedes => precedes.mayRewrite seen)
    (fun _ _ precedes => precedes.unpassed) start).seq fun seen pos unpassed => ?_
  cases pos with
  | none => trivial
  | some pos =>
    have probes : (probeUndecryptable ring allKinds).Performs precedes :=
      performs_probeUndecryptable ring allKinds fun _ => trivial
    refine (probes.follows_keeping (fun seen _ precedes => precedes.mayRewrite seen)
      (fun _ _ precedes => precedes.unpassed) unpassed).seq fun seen undecryptable probed => ?_
    split
    · exact (backfillWith_follows ring _ undecryptable probed).seq fun _ _ _ => trivial
    · trivial

theorem performs_mayRewrite {Result : Type} {prog : Action Result}
    (perf : prog.Performs fun stmt => ∀ kind changes, stmt ≠ .rewrite kind changes) :
    prog.Follows mayRewrite (fun _ _ => True) hist := by
  refine perf.follows (fun seen stmt other => ?_) fun _ _ => trivial
  cases stmt with
  | rewrite kind changes => exact absurd rfl (other kind changes)
  | _ => trivial

theorem program_follows_mayRewrite (t : Task) :
    (system.program t).Follows mayRewrite (fun _ _ => True) [] := by
  cases t with
  | backfill ring rounds => exact (backfill_follows ring rounds).seq fun _ _ _ => trivial
  | advance ring rounds =>
    exact performs_mayRewrite ((performs_advanceKeyState ring rounds nofun
      fun _ _ _ _ same => by cases same).bind fun _ => trivial)
  | updateTarget ring id secrets options columns
  | updateSecretBackend ring id secrets options columns | updateSshClientKey id columns =>
    refine performs_mayRewrite ⟨nofun, fun found => ?_⟩
    cases found with
    | none => trivial
    | some r => exact ⟨nofun, fun _ => trivial⟩
  | _ => exact ⟨trivial, fun _ => trivial⟩

structure Sound (start : World) (config : Config) : Prop where
  contents : ∀ key, config.state.content key = edited start key config.log
  reading : ∀ kind row, ∀ thread ∈ config.threads,
    thread.inside (selects kind row) (passes kind) = true →
      Faithful config.state kind row.asIs

theorem Sound.initial (w : World) : Sound w (Config.initial w) where
  contents _ := rfl
  reading := by
    intro kind r th mem
    cases mem

theorem faithful_of_mem (mem : r ∈ w.rowsOf kind) : Faithful w kind r.asIs := by
  obtain ⟨stored, isKind⟩ := (mem_select _ _ _).mp mem
  have isKind := of_decide_eq_true isKind
  have found : w.rows.find? (kind, r.id) = some r := by
    rw [← isKind]
    exact find?_of_mem stored
  intro content isContent
  rw [show w.content (kind, r.asIs.id) = some r.content by
    rw [World.content]; exact congrArg _ found] at isContent
  rw [← Option.some.inj isContent]
  exact ⟨rfl, rfl⟩

theorem faithful_of_selects (reads : selects kind r ⟨stmt, (execute stmt w).1⟩ = true) :
    Faithful (execute stmt w).2 kind r.asIs := by
  cases stmt with
  | selectRows selected =>
    obtain ⟨same, mem⟩ := (Bool.and_eq_true _ _).mp reads
    rw [← of_decide_eq_true same]
    exact faithful_of_mem (of_decide_eq_true mem)
  | _ => cases reads

theorem value_of_revise {k : Kind × Uuid} {pre : Option Content}
    (unwritten : stmt.writesValue ≠ some k) :
    ∀ content ∈ stmt.revise k pre, ∃ old ∈ pre,
      old.secrets = content.secrets ∧ old.options = content.options := by
  intro content isContent
  cases stmt with
  | edit kind id made =>
    rw [revise] at isContent
    split at isContent
    case isTrue same =>
      obtain ⟨old, isOld, rfl⟩ := Option.map_eq_some_iff.mp isContent
      refine ⟨old, isOld, ?_⟩
      cases isValue : made.value with
      | none =>
        rw [Edit.revise, isValue]
        exact ⟨rfl, rfl⟩
      | some v => exact absurd (by rw [writesValue, isValue, same]; rfl) unwritten
    case isFalse => exact ⟨content, isContent, rfl, rfl⟩
  | insert r =>
    rw [revise, if_neg fun same => unwritten (congrArg some same)] at isContent
    exact ⟨content, isContent, rfl, rfl⟩
  | delete kind id =>
    rw [revise] at isContent
    split at isContent
    · cases isContent
    · exact ⟨content, isContent, rfl, rfl⟩
  | _ => exact ⟨content, isContent, rfl, rfl⟩

theorem selectsKey_of_selects (reads : selects kind r ev = true) :
    selectsKey (kind, r.id) ev = true := by
  obtain ⟨stmt, out⟩ := ev
  cases stmt with
  | selectRows selected =>
    obtain ⟨same, mem⟩ := (Bool.and_eq_true _ _).mp reads
    refine (Bool.and_eq_true _ _).mpr ⟨same, ?_⟩
    exact any_eq_true.mpr ⟨r, of_decide_eq_true mem, decide_eq_true rfl⟩
  | _ => cases reads

theorem not_inside_of_countP {threads : List (Thread Task Statement Outcome Answer)}
    (none_inside : threads.countP
      (fun th => th.inside (selectsKey (kind, r.id)) (passes kind)) = 0) :
    ∀ th ∈ threads, th.inside (selects kind r) (passes kind) = true → False := by
  grind [Thread.inside, selectsKey_of_selects]

theorem Sound.perform {start w : World}
    {pre post : List (Thread Task Statement Outcome Answer)} {t : Task}
    {next : stmt.Outcome → Program Statement Outcome Answer}
    {log : List (Entry Task Statement World)}
    (sound : Sound start ⟨w, pre ++ ⟨t, hist, .perform stmt next⟩ :: post, log⟩)
    (ok : mayRewrite hist stmt)
    (apart : EditsApart ⟨w, pre ++ ⟨t, hist, .perform stmt next⟩ :: post, log⟩ t stmt) :
    Sound start ⟨(execute stmt w).2, pre ++ ⟨t, ⟨stmt, (execute stmt w).1⟩ :: hist,
        next (execute stmt w).1⟩ :: post, ⟨t, stmt, w⟩ :: log⟩ := by
  have faithful : ∀ kind changes, stmt = .rewrite kind changes →
      ∀ change ∈ changes, Faithful w kind change := by
    rintro kind changes rfl change mem
    obtain ⟨unpassed, made⟩ := ok
    obtain ⟨r, isOf, selected⟩ := made change mem
    exact isOf.faithful (sound.reading kind r _ mem_append_cons_self
      (Thread.inside_perform.mpr ⟨selected, unpassed⟩))
  have contents := fun k => content_execute k faithful
  constructor
  · intro k
    rw [contents k, sound.contents k]
    rfl
  · intro kind r
    by_cases written : stmt.writesValue = some (kind, r.id)
    · have none_inside := not_inside_of_countP (apart (kind, r.id) written)
      exact Config.inside_perform none_inside faithful_of_selects (.inl False.elim)
    · refine Config.inside_perform (sound.reading kind r) faithful_of_selects (.inl ?_)
      intro asRead content isContent
      rw [contents] at isContent
      obtain ⟨old, isOld, sameSecrets, sameOptions⟩ := value_of_revise written content isContent
      rw [← sameSecrets, ← sameOptions]
      exact asRead old isOld

/-- Where nobody writes the credentials of a row while a background run that has read the row is yet
to go on to the next kind, every row says what the administrators' statements made it say. -/
theorem edits_stand (world : World) (moves : List (Move Task))
    (along : Config.Along system (Config.Performing system EditsApart)
      (Config.initial world) moves) (key : Kind × Uuid) :
    ((Config.initial world).run system moves).state.content key =
      edited world key ((Config.initial world).run system moves).log := by
  have sound := (Config.run_invariant_of_protocol program_follows_mayRewrite
    (Config.Performing system EditsApart) (Sound world) ?_ ?_ world moves along
    (Sound.initial world)).2
  · exact sound.contents key
  · intro c t _ sound
    exact ⟨sound.contents, fun kind row => Config.inside_start (sound.reading kind row)⟩
  · intro s pre t history statement next post log perm perf ok sound
    exact sound.perform ok (perm.admits system perf)

def unencrypted : World where
  rows := (Sql.Table.empty.insert ⟨.target, 1, [.plain "hunter2"], "host: old", "target"⟩).2
  encryptionKeyFp := none
  retiringKeyFp := none
  nodes := Sql.Table.empty
  clock := 0

def firstKey : MasterKey := ⟨"first", 1⟩

def setsPassword : Task :=
  .updateTarget (.single firstKey) 1 [.plain "correct horse"] "host: new" "target"

def editAfterRun : List (Move Task) :=
  .start (.backfill (.single firstKey) 1) :: .start setsPassword :: .advance 1 ::
    advances 0 13 ++ advances 1 1

theorem edit_after_run_stands :
    ((Config.initial unencrypted).run system editAfterRun).state.content (.target, 1) =
        edited unencrypted (.target, 1)
          ((Config.initial unencrypted).run system editAfterRun).log ∧
      ((Config.initial unencrypted).run system editAfterRun).state.content (.target, 1) =
        some ⟨["correct horse"], "host: new", "target"⟩ ∧
      ((Config.initial unencrypted).run system editAfterRun).threads.map Thread.result =
        [some (.backfilled (some .settled)), some (.updated true)] :=
  ⟨edits_stand unencrypted editAfterRun (by decide +kernel) (.target, 1),
    by decide +kernel, by decide +kernel⟩

def editDuringRun : List (Move Task) :=
  .start (.backfill (.single firstKey) 1) :: .start setsPassword :: .advance 1 ::
    advances 0 8 ++ advances 1 1 ++ advances 0 5

theorem edit_during_run_is_lost :
    ((Config.initial unencrypted).run system editDuringRun).threads.map Thread.result =
        [some (.backfilled (some .settled)), some (.updated true)] ∧
      edited unencrypted (.target, 1)
          ((Config.initial unencrypted).run system editDuringRun).log =
        some ⟨["correct horse"], "host: new", "target"⟩ ∧
      ((Config.initial unencrypted).run system editDuringRun).state.content (.target, 1) =
        some ⟨["hunter2"], "host: old", "target"⟩ := by
  decide +kernel

end Warpgate.Encryption
