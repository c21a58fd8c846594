/-
This file shows that the correlator of Kubernetes requests never mixes admissions.
-/

import Warpgate.Basic
import Warpgate.Concurrent.Run
import Warpgate.Sql.Table

namespace Warpgate.Kubernetes

open Concurrent

/-! ### Sessions and slots -/

inductive TransportCredential
  | ticket (id : Uuid)
  | apiToken (id : Uuid)
  | oidcToken (provider subject : String)
  | clientCertificate (id : Uuid)
  deriving DecidableEq, Repr

structure CorrelationKey where
  userId : Uuid
  targetName : String
  ip : Option String
  credential : TransportCredential
  deriving DecidableEq, Repr

inductive Identity
  | user
  | ticket
  deriving DecidableEq, Repr

structure AdmittedSession where
  session : Nat
  key : CorrelationKey
  deriving DecidableEq, Repr

inductive Authorization
  | pending
  | authorized (admitted : AdmittedSession)
  | denied
  deriving DecidableEq, Repr

structure Slot where
  authorization : Authorization
  locked : Bool
  abandoned : Bool
  deriving DecidableEq, Repr

structure SessionEntry where
  key : CorrelationKey
  session : Nat
  created : Nat
  slot : Nat
  deriving DecidableEq, Repr

structure Refusal where
  key : CorrelationKey
  time : Nat
  deriving DecidableEq, Repr

inductive Admission
  | admitted
  | sessionNotApproved
  | userSessionEnded
  | failed
  deriving DecidableEq, Repr

structure Conditions where
  maxAge : Duration
  registers : Bool
  authorizes : Bool
  spends : Bool
  cancels : Bool
  admits : Admission
  deriving DecidableEq, Repr

structure World where
  handles : Sql.Table SessionEntry SessionEntry.key
  refusals : Sql.Table Refusal Refusal.key
  slots : Nat → Slot
  nextSlot : Nat
  nextSession : Nat
  closed : Nat → Bool
  clock : Nat
  conditions : Conditions

def World.initial (conditions : Conditions) (clock : Nat) : World where
  handles := Sql.Table.empty
  refusals := Sql.Table.empty
  slots := fun _ => ⟨.pending, false, false⟩
  nextSlot := 0
  nextSession := 0
  closed := fun _ => false
  clock := clock
  conditions := conditions

structure Found where
  session : Nat
  slot : Nat
  deriving DecidableEq, Repr

inductive Statement
  | readMaxAge
  | wasRefused (key : CorrelationKey)
  | entry (key : CorrelationKey) (maxAge : Duration)
  | readSlot (slot : Nat)
  | evict (key : CorrelationKey) (slot : Nat)
  | register
  | claim (key : CorrelationKey) (maxAge : Duration) (session : Nat)
  | resolve (slot session : Nat) (identity : Identity)
  | admitSession (slot session : Nat) (key : CorrelationKey)
  | grant (slot : Nat) (admitted : AdmittedSession)
  | deny (slot : Nat)
  | evictFailed (key : CorrelationKey) (slot : Nat) (remembered : Bool)
  | release (slot : Nat)
  | abandon (slot : Nat)
  | close (session : Nat)
  | vacuum
  | change (conditions : Conditions)
  | elapse (period : Duration)
  deriving DecidableEq

@[reducible] def Statement.Outcome : Statement → Type
  | readMaxAge => Duration
  | wasRefused _ => Bool
  | entry _ _ => Option Found
  | readSlot _ => Authorization
  | register => Option Nat
  | claim _ _ _ => Option Nat
  | resolve _ _ _ => Bool
  | admitSession _ _ _ => Admission
  | evict _ _ | grant _ _ | deny _ | evictFailed _ _ _ | release _ | abandon _ | close _
  | vacuum | change _ | elapse _ => Unit

def refusalMemory : Duration := 5 * 1000000000

namespace World

variable (world : World)

def entryIsLive (maxAge : Duration) (entry : SessionEntry) : Bool :=
  world.clock - entry.created < maxAge && !world.closed entry.session

def entry (key : CorrelationKey) (maxAge : Duration) : Option SessionEntry :=
  (world.handles.find? key).filter (world.entryIsLive maxAge)

def remembers (refusal : Refusal) : Bool :=
  world.clock - refusal.time < refusalMemory

def wasRefused (key : CorrelationKey) : Bool :=
  (world.refusals.find? key).any world.remembers

def evict (key : CorrelationKey) (slot : Nat) : World :=
  { world with handles := world.handles.delete fun entry => entry.key = key && entry.slot = slot }

def setSlot (slot : Nat) (value : Slot) : World :=
  { world with slots := Function.update world.slots slot value }

def newEntry (key : CorrelationKey) (session : Nat) : SessionEntry where
  key := key
  session := session
  created := world.clock
  slot := world.nextSlot

def claim (key : CorrelationKey) (maxAge : Duration) (session : Nat) : Option Nat × World :=
  match world.entry key maxAge with
  | some _ => (none, world)
  | none =>
    (some world.nextSlot,
      { world.setSlot world.nextSlot ⟨.pending, true, false⟩ with
        handles := world.handles.upsert (world.newEntry key session)
        nextSlot := world.nextSlot + 1 })

def evictFailed (key : CorrelationKey) (slot : Nat) (remembered : Bool) : World :=
  if remembered then
    { world.evict key slot with refusals := world.refusals.upsert ⟨key, world.clock⟩ }
  else world.evict key slot

def abandon (slot : Nat) : World :=
  if (world.slots slot).locked then
    world.setSlot slot { world.slots slot with locked := false, abandoned := true }
  else world

def vacuum : World :=
  { world with
    handles := world.handles.delete fun entry =>
      !world.entryIsLive world.conditions.maxAge entry
    refusals := world.refusals.delete fun refusal => !world.remembers refusal }

end World

def execute : (statement : Statement) → World → statement.Outcome × World
  | .readMaxAge, world => (world.conditions.maxAge, world)
  | .wasRefused key, world => (world.wasRefused key, world)
  | .entry key maxAge, world =>
    ((world.entry key maxAge).map fun entry => ⟨entry.session, entry.slot⟩, world)
  | .readSlot slot, world => ((world.slots slot).authorization, world)
  | .evict key slot, world => ((), world.evict key slot)
  | .register, world =>
    if world.conditions.registers then
      (some world.nextSession, { world with nextSession := world.nextSession + 1 })
    else (none, world)
  | .claim key maxAge session, world => world.claim key maxAge session
  | .resolve _ session .user, world =>
    (world.conditions.authorizes && !(world.conditions.cancels && world.closed session), world)
  | .resolve _ _ .ticket, world => (world.conditions.spends, world)
  | .admitSession _ session _, world =>
    (if world.closed session then .userSessionEnded else world.conditions.admits, world)
  | .grant slot admitted, world =>
    ((), world.setSlot slot
      { world.slots slot with authorization := .authorized admitted, locked := false })
  | .deny slot, world =>
    ((), world.setSlot slot { world.slots slot with authorization := .denied })
  | .evictFailed key slot remembered, world => ((), world.evictFailed key slot remembered)
  | .release slot, world => ((), world.setSlot slot { world.slots slot with locked := false })
  | .abandon slot, world => ((), world.abandon slot)
  | .close session, world =>
    ((), { world with closed := Function.update world.closed session true })
  | .vacuum, world => ((), world.vacuum)
  | .change conditions, world => ((), { world with conditions := conditions })
  | .elapse period, world => ((), { world with clock := world.clock + period })

def Statement.ready (world : World) : Statement → Bool
  | readSlot slot => !(world.slots slot).locked
  | resolve slot _ _ | admitSession slot _ _ | grant slot _ | deny slot | evictFailed _ slot _
  | release slot => !(world.slots slot).abandoned
  | _ => true

abbrev Action (Result : Type) := Program Statement Statement.Outcome Result

abbrev act (statement : Statement) : Action statement.Outcome :=
  Program.perform statement Program.done

inductive Failure
  | refused
  | joinedDenied
  | unauthorized
  | admission (outcome : Admission)
  | registration
  deriving DecidableEq, Repr

inductive Answer
  | ok (session : Nat) (admitted : AdmittedSession)
  | error (failure : Failure)
  | exhausted
  | done
  deriving DecidableEq, Repr

/-! ### Programs -/

def joinSession (key : CorrelationKey) (found : Found) : Action (Option Answer) := do
  match ← act (.readSlot found.slot) with
  | .authorized admitted => pure (some (.ok found.session admitted))
  | .denied => pure (some (.error .joinedDenied))
  | .pending => do
    act (.evict key found.slot)
    pure none

def joinExisting (key : CorrelationKey) : Option Found → Action (Option Answer)
  | none => pure none
  | some found => joinSession key found

def failAttempt (key : CorrelationKey) (slot : Nat) (remembered : Bool) (failure : Failure) :
    Action Answer := do
  act (.deny slot)
  act (.evictFailed key slot remembered)
  act (.release slot)
  pure (.error failure)

def resolveAttempt (key : CorrelationKey) (identity : Identity) (session slot : Nat) :
    Action Answer := do
  let resolved ← act (.resolve slot session identity)
  if resolved then
    let admission ← act (.admitSession slot session key)
    if admission = .admitted then
      act (.grant slot ⟨session, key⟩)
      pure (.ok session ⟨session, key⟩)
    else failAttempt key slot (admission = .sessionNotApproved) (.admission admission)
  else failAttempt key slot false .unauthorized

def openSession (key : CorrelationKey) (identity : Identity) (maxAge : Duration) :
    Action (Option Answer) := do
  match ← act .register with
  | none => pure (some (.error .registration))
  | some session => do
    match ← act (.claim key maxAge session) with
    | none => pure none
    | some slot => do
      let answer ← resolveAttempt key identity session slot
      pure (some answer)

def correlate (key : CorrelationKey) (identity : Identity) (maxAge : Duration) : Nat → Action Answer
  | 0 => pure .exhausted
  | rounds + 1 => do
    let refused ← act (.wasRefused key)
    if refused then pure (.error .refused)
    else
      let existing ← act (.entry key maxAge)
      match ← joinExisting key existing with
      | some answer => pure answer
      | none => do
        match ← openSession key identity maxAge with
        | some answer => pure answer
        | none => correlate key identity maxAge rounds

def correlatedAuthorization (key : CorrelationKey) (identity : Identity) (rounds : Nat) :
    Action Answer := do
  let maxAge ← act .readMaxAge
  correlate key identity maxAge rounds

inductive Task
  | request (number : Nat) (key : CorrelationKey) (identity : Identity) (rounds : Nat)
  | abandon (slot : Nat)
  | close (session : Nat)
  | vacuum
  | change (conditions : Conditions)
  | elapse (period : Duration)
  deriving DecidableEq

def Task.key : Task → Option CorrelationKey
  | request _ key _ _ => some key
  | _ => none

def Task.program : Task → Action Answer
  | request _ key identity rounds => correlatedAuthorization key identity rounds
  | abandon slot => do
    act (.abandon slot)
    return .done
  | close session => do
    act (.close session)
    return .done
  | vacuum => do
    act .vacuum
    return .done
  | change conditions => do
    act (.change conditions)
    return .done
  | elapse period => do
    act (.elapse period)
    return .done

def system : System Task Statement Statement.Outcome World Answer where
  program := Task.program
  execute := execute
  ready := fun statement world => statement.ready world

abbrev Config := Concurrent.Config Task Statement Statement.Outcome World Answer

abbrev reached (conditions : Conditions) (clock : Nat) (moves : List (Move Task)) : Config :=
  (Config.initial (World.initial conditions clock)).run system moves

open List Option Sql.Table Config World

abbrev Log := List (Entry Task Statement World)

theorem claim_cases (w : World) (key : CorrelationKey) (age : Duration) (sess : Nat) :
    w.claim key age sess = (none, w) ∨ w.claim key age sess =
        (some w.nextSlot, { w.setSlot w.nextSlot ⟨.pending, true, false⟩ with
            handles := w.handles.upsert (w.newEntry key sess)
            nextSlot := w.nextSlot + 1 }) := by
  grind [claim]

structure Effect (statement : Statement) (world after : World) : Prop where
  handles : ∀ entry ∈ after.handles.rows, entry ∈ world.handles.rows ∨
    ∃ key maxAge session, statement = .claim key maxAge session ∧
      (world.claim key maxAge session).1 = some world.nextSlot ∧
      entry = world.newEntry key session
  authorization : ∀ slot, (after.slots slot).authorization = (world.slots slot).authorization ∨
    (after.slots slot).authorization = .pending ∨
    (∃ admitted, statement = .grant slot admitted ∧
      (after.slots slot).authorization = .authorized admitted) ∨
    statement = .deny slot ∧ (after.slots slot).authorization = .denied
  refusals : ∀ refusal ∈ after.refusals.rows, refusal ∈ world.refusals.rows ∨
    ∃ slot, statement = .evictFailed refusal.key slot true
  nextSlot : world.nextSlot ≤ after.nextSlot
  opened : ∀ key maxAge session, statement = .claim key maxAge session →
    (world.claim key maxAge session).1 = some world.nextSlot → world.nextSlot < after.nextSlot
  closed : ∀ session, world.closed session = true → after.closed session = true

variable {key : CorrelationKey} {slot : Nat} {entry : Entry Task Statement World}
  {log older newer : Log} {history hist : History Statement.Outcome}
  {stmt : Statement} {w : World} {task : Task}

theorem Effect.of_taking {w post : World} (handles : post.handles.rows ⊆ w.handles.rows)
    (auth : ∀ slot, (post.slots slot).authorization = (w.slots slot).authorization)
    (refusals : post.refusals.rows ⊆ w.refusals.rows) (nextSlot : w.nextSlot = post.nextSlot)
    (closed : ∀ sess, w.closed sess = true → post.closed sess = true)
    (opensNone : ∀ key age sess, stmt ≠ .claim key age sess) : Effect stmt w post where
  handles := fun _ mem => .inl (handles mem)
  authorization := fun slot => .inl (auth slot)
  refusals := fun _ mem => .inl (refusals mem)
  nextSlot := Nat.le_of_eq nextSlot
  opened := fun key age sess isClaim => absurd isClaim (opensNone key age sess)
  closed := closed

theorem slots_setSlot (w : World) (changed slot : Nat) (v : Slot) :
    (w.setSlot changed v).slots slot = if slot = changed then v else w.slots slot :=
  Function.update_apply _ _ _ _

theorem authorization_setSlot (w : World) (changed : Nat) (v : Slot)
    (same : v.authorization = (w.slots changed).authorization) (slot : Nat) :
    ((w.setSlot changed v).slots slot).authorization = (w.slots slot).authorization := by
  rw [slots_setSlot]
  split
  case isTrue isChanged => rw [isChanged, same]
  case isFalse => rfl

theorem effect_claim (w : World) (key : CorrelationKey) (age : Duration) (sess : Nat) :
    Effect (.claim key age sess) w (w.claim key age sess).2 := by
  rcases claim_cases w key age sess with lost | won
  · rw [lost]
    refine ⟨fun _ => .inl, fun _ => .inl rfl, fun _ => .inl, Nat.le_refl _, ?_,
      fun _ closed => closed⟩
    rintro _ _ _ ⟨⟩ opened
    rw [lost] at opened
    cases opened
  · rw [won]
    refine ⟨?_, fun slot => ?_, fun _ => .inl, Nat.le_succ _, fun _ _ _ _ _ => Nat.lt_succ_self _,
      fun _ closed => closed⟩
    · intro entry mem
      rcases mem_upsert mem with new | old
      · exact .inr ⟨key, age, sess, rfl, by rw [won], new⟩
      · exact .inl old
    · grind [slots_setSlot]

theorem effect_setSlot {changed : Nat} {v : Slot}
    (stores : (∃ admitted, stmt = .grant changed admitted ∧
        v.authorization = .authorized admitted) ∨
      stmt = .deny changed ∧ v.authorization = .denied) : Effect stmt w (w.setSlot changed v) where
  handles := fun _ => .inl
  authorization := by grind [slots_setSlot]
  refusals := fun _ => .inl
  nextSlot := Nat.le_refl _
  opened := by grind
  closed := fun _ closed => closed

theorem effect_evictFailed (w : World) (key : CorrelationKey) (slot : Nat) (remembered : Bool) :
    Effect (.evictFailed key slot remembered) w (w.evictFailed key slot remembered) := by
  cases remembered with
  | false =>
    exact .of_taking (fun _ => mem_delete) (fun _ => rfl) (fun _ mem => mem) rfl
      (fun _ closed => closed) nofun
  | true =>
    refine ⟨fun _ mem => .inl (mem_delete mem), fun _ => .inl rfl, ?_, Nat.le_refl _,
      nofun, fun _ closed => closed⟩
    intro refusal mem
    rcases mem_upsert mem with new | old
    · exact .inr ⟨slot, by rw [new]⟩
    · exact .inl old

theorem effect_execute (stmt : Statement) (w : World) : Effect stmt w (execute stmt w).2 := by
  have unchanged : (∀ key age sess, stmt ≠ .claim key age sess) →
      Effect stmt w w := fun opensNone =>
    .of_taking (fun _ mem => mem) (fun _ => rfl) (fun _ mem => mem) rfl
      (fun _ closed => closed) opensNone
  cases stmt with
  | claim key age sess => exact effect_claim w key age sess
  | grant slot admitted => exact effect_setSlot (.inl ⟨admitted, rfl, rfl⟩)
  | deny slot => exact effect_setSlot (.inr ⟨rfl, rfl⟩)
  | evictFailed key slot remembered => exact effect_evictFailed w key slot remembered
  | evict key slot =>
    exact .of_taking (fun _ => mem_delete) (fun _ => rfl) (fun _ mem => mem) rfl
      (fun _ closed => closed) nofun
  | vacuum =>
    exact .of_taking (fun _ => mem_delete) (fun _ => rfl) (fun _ => mem_delete) rfl
      (fun _ closed => closed) nofun
  | release slot =>
    exact .of_taking (fun _ mem => mem) (authorization_setSlot w slot _ rfl)
      (fun _ mem => mem) rfl (fun _ closed => closed) nofun
  | abandon slot =>
    rw [execute, abandon]
    split
    · exact .of_taking (fun _ mem => mem) (authorization_setSlot w slot _ rfl)
        (fun _ mem => mem) rfl (fun _ closed => closed) nofun
    · exact unchanged nofun
  | close closing =>
    refine .of_taking (fun _ mem => mem) (fun _ => rfl) (fun _ mem => mem) rfl ?_ nofun
    intro sess closed
    show Function.update w.closed closing true sess = true
    rw [Function.update_apply]
    split
    · rfl
    · exact closed
  | register =>
    rw [execute]
    split
    · exact .of_taking (fun _ mem => mem) (fun _ => rfl) (fun _ mem => mem) rfl
        (fun _ closed => closed) nofun
    · exact unchanged nofun
  | resolve slot sess identity => cases identity <;> exact unchanged nofun
  | change conds | elapse period =>
    exact .of_taking (fun _ mem => mem) (fun _ => rfl) (fun _ mem => mem) rfl
      (fun _ closed => closed) nofun
  | _ => exact unchanged nofun

/-! ### What the log says of a slot -/

def opens (slot : Nat) (entry : Entry Task Statement World) : Option (CorrelationKey × Nat) :=
  match entry.statement with
  | .claim key maxAge session =>
    if (entry.before.claim key maxAge session).1 = some slot then some (key, session) else none
  | _ => none

variable {sess : Nat}

theorem opens_eq_some_iff :
    opens slot entry = some (key, sess) ↔ ∃ age, entry.statement = .claim key age sess ∧
        (entry.before.claim key age sess).1 = some slot := by
  grind [opens]

def attemptOf (log : Log) (slot : Nat) : Option (CorrelationKey × Nat) := log.findSome? (opens slot)

theorem attemptOf_cons_of_opens {att : CorrelationKey × Nat}
    (opened : opens slot entry = some att) : attemptOf (entry :: log) slot = some att := by
  rw [attemptOf, findSome?_cons, opened]

def Denied (log : Log) (key : CorrelationKey) : Prop :=
  ∃ entry ∈ log, entry.task.key = some key ∧ ∃ slot, entry.statement = .deny slot

/-- The task performed the statement and was given this outcome. -/
def Answered (log : Log) (task : Task) (statement : Statement)
    (outcome : statement.Outcome) : Prop :=
  ∃ before, ⟨task, statement, before⟩ ∈ log ∧ (execute statement before).1 = outcome

/-- One request with the session's key had its authorization succeed, its admission answered with
admitted, and granted the session in the slot. -/
def Granted (log : Log) (slot : Nat) (admitted : AdmittedSession) : Prop :=
  ∃ task identity, task.key = some admitted.key ∧
    Answered log task (.resolve slot admitted.session identity) true ∧
    Answered log task (.admitSession slot admitted.session admitted.key) .admitted ∧
    Answered log task (.grant slot admitted) ()

structure Grows (older newer : Log) : Prop where
  attempts : ∀ slot attempt, attemptOf older slot = some attempt →
    attemptOf newer slot = some attempt
  entries : older ⊆ newer
  once : ∀ entry ∈ newer, entry ∈ older ∨
    ∀ slot, (attemptOf older slot).isSome = true → opens slot entry = none

theorem Denied.grows (grows : Grows older newer) (denied : Denied older key) :
    Denied newer key := by
  obtain ⟨entry, logged, denies⟩ := denied
  exact ⟨entry, grows.entries logged, denies⟩

variable {admitted : AdmittedSession}

theorem Answered.grows {outcome : stmt.Outcome} (grows : Grows older newer)
    (answered : Answered older task stmt outcome) : Answered newer task stmt outcome := by
  obtain ⟨before, logged, given⟩ := answered
  exact ⟨before, grows.entries logged, given⟩

theorem Granted.grows (grows : Grows older newer)
    (granted : Granted older slot admitted) : Granted newer slot admitted := by
  obtain ⟨task, identity, isKey, resolved, admits, grants⟩ := granted
  exact ⟨task, identity, isKey, resolved.grows grows, admits.grows grows, grants.grows grows⟩

theorem opens_eq_none (known : slot ≠ entry.before.nextSlot) : opens slot entry = none := by
  cases opened : opens slot entry with
  | none => rfl
  | some att =>
    obtain ⟨age, -, won⟩ := opens_eq_some_iff.mp opened
    rcases claim_cases entry.before att.1 age att.2 with lost | next
    · rw [lost] at won
      cases won
    · rw [next] at won
      exact absurd (some.inj won).symm known

theorem grows_cons (entry : Entry Task Statement World)
    (fresh : ∀ slot, entry.before.nextSlot ≤ slot → attemptOf log slot = none) :
    Grows log (entry :: log) := by
  have elsewhere : ∀ slot, (attemptOf log slot).isSome = true → opens slot entry = none := by
    intro slot known
    refine opens_eq_none fun same => ?_
    rw [fresh slot (Nat.le_of_eq same.symm)] at known
    cases known
  refine ⟨fun slot att known => ?_, subset_cons_self _ _, fun other mem => ?_⟩
  · rw [attemptOf, findSome?_cons, elsewhere slot (by rw [known]; rfl)]
    exact known
  · grind

def Learned (log : Log) (task : Task) : Event Statement Statement.Outcome → Prop
  | ⟨.wasRefused key, true⟩ => Denied log key
  | ⟨.entry key _, some found⟩ => attemptOf log found.slot = some (key, found.session)
  | ⟨.readSlot slot, .authorized admitted⟩ =>
    attemptOf log slot = some (admitted.key, admitted.session) ∧ Granted log slot admitted
  | ⟨.readSlot slot, .denied⟩ =>
    ∃ key session, attemptOf log slot = some (key, session) ∧ Denied log key
  | ⟨.claim key _ session, some slot⟩ => attemptOf log slot = some (key, session)
  | ⟨.resolve slot session identity, true⟩ =>
    Answered log task (.resolve slot session identity) true
  | ⟨.admitSession slot session key, .admitted⟩ =>
    Answered log task (.admitSession slot session key) .admitted ∧
      (attemptOf log slot).isSome = true ∧ ∀ entry ∈ log, ∀ key,
        opens slot entry = some (key, session) →
        entry.before.closed session = false
  | ⟨.grant slot admitted, _⟩ => Granted log slot admitted
  | ⟨.deny _, _⟩ => ∀ key, task.key = some key → Denied log key
  | _ => True

theorem Learned.grows {event : Event Statement Statement.Outcome} (grows : Grows older newer)
    (learned : Learned older task event) : Learned newer task event := by
  obtain ⟨stmt, out⟩ := event
  cases stmt with
  | wasRefused key =>
    cases out with
    | false => trivial
    | true => exact Denied.grows grows learned
  | entry key age =>
    cases out with
    | none => trivial
    | some found => exact grows.attempts _ _ learned
  | readSlot slot =>
    cases out with
    | pending => trivial
    | authorized admitted => exact ⟨grows.attempts _ _ learned.1, learned.2.grows grows⟩
    | denied =>
      obtain ⟨key, sess, att, denied⟩ := learned
      exact ⟨key, sess, grows.attempts _ _ att, denied.grows grows⟩
  | claim key age sess =>
    cases out with
    | none => trivial
    | some slot => exact grows.attempts _ _ learned
  | admitSession slot sess key =>
    cases out with
    | admitted =>
      obtain ⟨answered, known, openedOpen⟩ := learned
      refine ⟨answered.grows grows, ?_, fun entry mem key opened => ?_⟩
      · obtain ⟨att, isAttempt⟩ := isSome_iff_exists.mp known
        rw [grows.attempts slot att isAttempt]
        rfl
      · rcases grows.once entry mem with old | elsewhere
        · exact openedOpen entry old key opened
        · rw [elsewhere slot known] at opened
          cases opened
    | _ => trivial
  | resolve slot session identity =>
    cases out with
    | false => trivial
    | true => exact Answered.grows grows learned
  | grant slot admitted => exact Granted.grows grows learned
  | deny slot => exact fun key isKey => (learned key isKey).grows grows
  | _ => trivial

def mayPerform (task : Task) (history : History Statement.Outcome) :
    Statement → Prop
  | .wasRefused key => task.key = some key
  | .entry key _ => task.key = some key
  | .claim key _ _ => task.key = some key
  | .evict key slot => task.key = some key ∧ ⟨.readSlot slot, .pending⟩ ∈ history ∧
      ∃ maxAge session, ⟨.entry key maxAge, some ⟨session, slot⟩⟩ ∈ history
  | .admitSession slot session key => task.key = some key ∧
      ∃ maxAge, ⟨.claim key maxAge session, some slot⟩ ∈ history
  | .grant slot admitted => task.key = some admitted.key ∧
      (∃ maxAge, ⟨.claim admitted.key maxAge admitted.session, some slot⟩ ∈ history) ∧
      (∃ identity, ⟨.resolve slot admitted.session identity, true⟩ ∈ history) ∧
      ⟨.admitSession slot admitted.session admitted.key, .admitted⟩ ∈ history
  | .deny slot => ∃ key maxAge session, task.key = some key ∧
      ⟨.claim key maxAge session, some slot⟩ ∈ history
  | .evictFailed key slot _ => task.key = some key ∧ ⟨.deny slot, ()⟩ ∈ history ∧
      ∃ maxAge session, ⟨.claim key maxAge session, some slot⟩ ∈ history
  | _ => True

def SlotSound (log : Log) (slot : Nat) : Authorization → Prop
  | .pending => True
  | .authorized admitted =>
    attemptOf log slot = some (admitted.key, admitted.session) ∧ Granted log slot admitted
  | .denied => ∃ key session, attemptOf log slot = some (key, session) ∧ Denied log key

theorem SlotSound.grows {auth : Authorization} (grows : Grows older newer)
    (sound : SlotSound older slot auth) : SlotSound newer slot auth := by
  cases auth with
  | pending => trivial
  | authorized admitted => exact ⟨grows.attempts _ _ sound.1, sound.2.grows grows⟩
  | denied =>
    obtain ⟨key, sess, att, denied⟩ := sound
    exact ⟨key, sess, grows.attempts _ _ att, denied.grows grows⟩

structure StateSound (world : World) (log : Log) : Prop where
  fresh : ∀ slot, world.nextSlot ≤ slot → attemptOf log slot = none
  handles : ∀ entry ∈ world.handles.rows, attemptOf log entry.slot = some (entry.key, entry.session)
  slots : ∀ slot, SlotSound log slot (world.slots slot).authorization
  refusals : ∀ refusal ∈ world.refusals.rows, Denied log refusal.key
  closed : ∀ entry ∈ log, ∀ slot key session, opens slot entry = some (key, session) →
    entry.before.closed session = true → world.closed session = true

theorem StateSound.initial (conds : Conditions) (clock : Nat) :
    StateSound (initial conds clock) [] where
  fresh := fun _ _ => rfl
  handles := fun entry mem => by cases mem
  slots := fun _ => trivial
  refusals := fun refusal mem => by cases mem
  closed := fun entry mem => by cases mem

theorem granted_of_grant (sound : StateSound w log)
    (learned : ∀ event ∈ hist, Learned log task event)
    (ok : mayPerform task hist (.grant slot admitted)) :
    Granted (⟨task, .grant slot admitted, w⟩ :: log) slot admitted := by
  have grows := grows_cons ⟨task, .grant slot admitted, w⟩ sound.fresh
  obtain ⟨isKey, -, ⟨identity, resolved⟩, admits⟩ := ok
  exact ⟨task, identity, isKey, Answered.grows grows (learned _ resolved),
    (learned _ admits).1.grows grows, w, .head _, rfl⟩

theorem StateSound.perform (sound : StateSound w log)
    (learned : ∀ event ∈ hist, Learned log task event) (ok : mayPerform task hist stmt) :
    StateSound (execute stmt w).2 (⟨task, stmt, w⟩ :: log) := by
  have grows := grows_cons ⟨task, stmt, w⟩ sound.fresh
  have effect := effect_execute stmt w
  refine ⟨?_, ?_, ?_, ?_, ?_⟩
  · intro slot later
    have pre := sound.fresh slot (Nat.le_trans effect.nextSlot later)
    rw [attemptOf, findSome?_cons]
    cases opened : opens slot ⟨task, stmt, w⟩ with
    | none => exact pre
    | some att =>
      obtain ⟨age, isClaim, won⟩ := opens_eq_some_iff.mp opened
      have next : slot = w.nextSlot := by grind [opens_eq_none]
      subst next
      exact absurd (effect.opened _ _ _ isClaim won) (Nat.not_lt.mpr later)
  · intro entry mem
    rcases effect.handles entry mem with old | ⟨key, age, sess, isClaim, won, isNew⟩
    · exact grows.attempts _ _ (sound.handles entry old)
    · have opened : opens w.nextSlot ⟨task, stmt, w⟩ = some (key, sess) :=
        opens_eq_some_iff.mpr ⟨age, isClaim, won⟩
      rw [isNew]
      exact attemptOf_cons_of_opens opened
  · intro slot
    rcases effect.authorization slot with same | pending | ⟨admitted, isGrant, stored⟩ |
      ⟨isDeny, stored⟩
    · rw [same]
      exact (sound.slots slot).grows grows
    · rw [pending]
      trivial
    · subst isGrant
      rw [stored]
      obtain ⟨age, claimed⟩ := ok.2.1
      exact ⟨grows.attempts _ _ (learned _ claimed), granted_of_grant sound learned ok⟩
    · subst isDeny
      rw [stored]
      obtain ⟨key, age, sess, isKey, claimed⟩ := ok
      exact ⟨key, sess, grows.attempts _ _ (learned _ claimed), ⟨_, .head _, isKey, slot, rfl⟩⟩
  · intro refusal mem
    rcases effect.refusals refusal mem with old | ⟨slot, isEviction⟩
    · exact (sound.refusals refusal old).grows grows
    · subst isEviction
      exact (learned _ ok.2.1 refusal.key ok.1).grows grows
  · intro entry mem slot key sess opened closed
    rcases mem_cons.mp mem with rfl | old
    · exact effect.closed sess closed
    · exact effect.closed sess (sound.closed entry old slot key sess opened closed)

theorem learned_execute (sound : StateSound w log)
    (learned : ∀ event ∈ hist, Learned log task event) (ok : mayPerform task hist stmt) :
    Learned (⟨task, stmt, w⟩ :: log) task ⟨stmt, (execute stmt w).1⟩ := by
  have grows := grows_cons ⟨task, stmt, w⟩ sound.fresh
  cases stmt with
  | wasRefused key =>
    show Learned _ _ ⟨.wasRefused key, w.wasRefused key⟩
    cases refused : w.wasRefused key with
    | false => trivial
    | true =>
      obtain ⟨refusal, found, -⟩ := (any_eq_true _ _).mp refused
      have denied := sound.refusals refusal (mem_of_find? found)
      rw [show refusal.key = key from key_of_find? found] at denied
      exact denied.grows grows
  | entry key age =>
    show Learned _ _ ⟨.entry key age, (w.entry key age).map _⟩
    cases found : w.entry key age with
    | none => trivial
    | some entry =>
      have stored := (filter_eq_some_iff.mp found).1
      have att := sound.handles entry (mem_of_find? stored)
      rw [show entry.key = key from key_of_find? stored] at att
      exact grows.attempts _ _ att
  | readSlot slot =>
    show Learned _ _ ⟨.readSlot slot, (w.slots slot).authorization⟩
    have slotSound := (sound.slots slot).grows grows
    cases stored : (w.slots slot).authorization with
    | pending => trivial
    | authorized admitted | denied =>
      rw [stored] at slotSound
      exact slotSound
  | claim key age sess =>
    show Learned _ _ ⟨.claim key age sess, (w.claim key age sess).1⟩
    cases claimed : (w.claim key age sess).1 with
    | none => trivial
    | some slot => exact attemptOf_cons_of_opens (opens_eq_some_iff.mpr ⟨age, rfl, claimed⟩)
  | admitSession slot sess key =>
    show Learned _ _ ⟨.admitSession slot sess key,
      if w.closed sess then .userSessionEnded else w.conditions.admits⟩
    cases closed : w.closed sess with
    | true => trivial
    | false =>
      cases admits : w.conditions.admits with
      | admitted =>
        obtain ⟨-, age, claimed⟩ := ok
        refine ⟨⟨w, .head _, ?_⟩, ?_, fun entry mem key opened => ?_⟩
        · show (if w.closed sess then _ else w.conditions.admits) = _
          rw [closed, admits]
          rfl
        · rw [grows.attempts _ _ (learned _ claimed)]
          rfl
        · rcases mem_cons.mp mem with rfl | old
          · cases opened
          · by_contra wasClosed
            have still := sound.closed entry old slot key sess opened (by simpa using wasClosed)
            rw [closed] at still
            cases still
      | _ => trivial
  | resolve slot sess identity =>
    cases answered : (execute (.resolve slot sess identity) w).1 with
    | false => trivial
    | true => exact ⟨w, .head _, answered⟩
  | grant slot admitted => exact granted_of_grant sound learned ok
  | deny slot => exact fun key isKey => ⟨_, .head _, isKey, slot, rfl⟩
  | _ => trivial

def mayAnswer (task : Task) (history : History Statement.Outcome) : Answer → Prop
  | .ok session admitted => ∃ key maxAge slot, task.key = some key ∧
      (⟨.entry key maxAge, some ⟨session, slot⟩⟩ ∈ history ∧
          ⟨.readSlot slot, .authorized admitted⟩ ∈ history ∨
        admitted = ⟨session, key⟩ ∧ ⟨.claim key maxAge session, some slot⟩ ∈ history ∧
          ⟨.admitSession slot session key, .admitted⟩ ∈ history ∧
          ⟨.grant slot admitted, ()⟩ ∈ history)
  | .error .refused => ∃ key, task.key = some key ∧ ⟨.wasRefused key, true⟩ ∈ history
  | .error .joinedDenied => ∃ key maxAge session slot, task.key = some key ∧
      ⟨.entry key maxAge, some ⟨session, slot⟩⟩ ∈ history ∧ ⟨.readSlot slot, .denied⟩ ∈ history
  | .error .unauthorized => ∃ slot, ⟨.deny slot, ()⟩ ∈ history
  | .error (.admission _) => ∃ slot, ⟨.deny slot, ()⟩ ∈ history
  | _ => True

variable {failure : Failure}

/-! ### What the programs have learned -/

section

variable {task : Task} (isKey : task.key = some key)

include isKey

variable {maxAge age : Duration} {session : Nat}

theorem joinSession_follows {found : Found} (looked : ⟨.entry key age, some found⟩ ∈ hist) :
    (joinSession key found).Follows (mayPerform task)
      (fun seen joined => ∀ ans ∈ joined, mayAnswer task seen ans) hist := by
  refine ⟨trivial, fun auth => ?_⟩
  cases auth with
  | authorized admitted =>
    rintro _ ⟨⟩
    exact ⟨key, age, found.slot, isKey, .inl ⟨.tail _ looked, .head _⟩⟩
  | denied =>
    rintro _ ⟨⟩
    exact ⟨key, age, found.session, found.slot, isKey, .tail _ looked, (.head _)⟩
  | pending =>
    refine ⟨⟨isKey, .head _, age, found.session, .tail _ looked⟩, fun _ => ?_⟩
    exact nofun

theorem joinExisting_follows (existing : Option Found) :
    (joinExisting key existing).Follows (mayPerform task)
      (fun seen joined => ∀ ans ∈ joined, mayAnswer task seen ans)
      (⟨.entry key age, existing⟩ :: hist) := by
  cases existing with
  | none => exact nofun
  | some found => exact joinSession_follows isKey (.head _)

theorem failAttempt_follows (claimed : ⟨.claim key maxAge sess, some slot⟩ ∈ history)
    (remembered : Bool)
    (own : ∀ seen, ⟨.deny slot, ()⟩ ∈ seen → mayAnswer task seen (.error failure)) :
    (failAttempt key slot remembered failure).Follows (mayPerform task) (mayAnswer task)
      history := by
  refine ⟨⟨key, maxAge, sess, isKey, claimed⟩, fun _ => ?_⟩
  refine ⟨⟨isKey, .head _, maxAge, sess, .tail _ claimed⟩, fun _ => ?_⟩
  exact ⟨trivial, fun _ =>
    own _ (.tail _ (.tail _ (.head _)))⟩

theorem resolveAttempt_follows (claimed : ⟨.claim key age session, some slot⟩ ∈ history)
    (identity : Identity) :
    (resolveAttempt key identity session slot).Follows (mayPerform task) (mayAnswer task)
      history := by
  simp only [resolveAttempt, Program.act_bind]
  refine ⟨trivial, fun resolved => ?_⟩
  dsimp only
  split
  case isTrue isResolved =>
    subst isResolved
    refine ⟨⟨isKey, age, .tail _ claimed⟩, fun admission => ?_⟩
    dsimp only
    split
    case isTrue isAdmitted =>
      subst isAdmitted
      refine ⟨⟨isKey, ⟨age, .tail _ (.tail _ claimed)⟩, ⟨identity, .tail _ (.head _)⟩, .head _⟩,
        fun _ => ⟨key, age, slot, isKey, .inr ⟨rfl, ?_, ?_, .head _⟩⟩⟩
      · exact .tail _ (.tail _ (.tail _ claimed))
      · exact .tail _ (.head _)
    case isFalse =>
      exact failAttempt_follows isKey (.tail _ (.tail _ claimed)) _
        fun seen denied => ⟨slot, denied⟩
  case isFalse =>
    exact failAttempt_follows isKey (.tail _ claimed) _ fun seen denied => ⟨slot, denied⟩

theorem openSession_follows (identity : Identity) (maxAge : Duration) :
    (openSession key identity maxAge).Follows (mayPerform task)
      (fun seen opened => ∀ ans ∈ opened, mayAnswer task seen ans) history := by
  refine ⟨trivial, fun reg => ?_⟩
  cases reg with
  | none =>
    rintro _ ⟨⟩
    trivial
  | some sess =>
    refine ⟨isKey, fun claimed => ?_⟩
    cases claimed with
    | none => exact nofun
    | some slot =>
      refine (resolveAttempt_follows isKey (.head _) identity).seq fun seen ans answered => ?_
      rintro _ ⟨⟩
      exact answered

theorem correlate_follows (identity : Identity) (age : Duration) (rounds : Nat) :
    (correlate key identity age rounds).Follows (mayPerform task) (mayAnswer task) hist := by
  induction rounds generalizing hist with
  | zero => trivial
  | succ rounds ih =>
    simp only [correlate, Program.act_bind]
    refine ⟨isKey, fun refused => ?_⟩
    dsimp only
    split
    case isTrue wasRefused =>
      subst wasRefused
      exact ⟨key, isKey, .head _⟩
    case isFalse =>
      refine ⟨isKey, fun existing => ?_⟩
      refine (joinExisting_follows isKey existing).seq fun seen joined answers => ?_
      cases joined with
      | some ans => exact answers ans rfl
      | none =>
        refine (openSession_follows isKey identity age).seq fun seen opened answers => ?_
        cases opened with
        | some ans => exact answers ans rfl
        | none => exact ih

end

theorem program_follows (task : Task) :
    task.program.Follows (mayPerform task) (mayAnswer task) [] := by
  cases task with
  | request n key identity rounds =>
    exact ⟨trivial, fun age => correlate_follows rfl identity age rounds⟩
  | _ => exact ⟨trivial, fun _ => trivial⟩

structure Sound (config : Config) : Prop where
  state : StateSound config.state config.log
  learned : ∀ thread ∈ config.threads, ∀ event ∈ thread.history,
    Learned config.log thread.task event

theorem sound_run (conds : Conditions) (clock : Nat) (ms : List (Move Task)) :
    ThreadsFollow mayPerform mayAnswer (reached conds clock ms) ∧
      Sound (reached conds clock ms) := by
  refine run_invariant_of_protocol program_follows (fun _ _ => True) Sound ?_ ?_
    (initial conds clock) ms (along_of_forall _ (fun _ _ => trivial) _ _)
    ⟨StateSound.initial conds clock, fun thread mem => by cases mem⟩
  · intro c task _ sound
    exact ⟨sound.state, forall_threads_start sound.learned fun event seen => by cases seen⟩
  · intro w pre task hist stmt next post log _ _ ok sound
    have own := sound.learned ⟨task, hist, .perform stmt next⟩
      mem_append_cons_self
    have grows := grows_cons ⟨task, stmt, w⟩ sound.state.fresh
    refine ⟨sound.state.perform own ok, ?_⟩
    have grown : ∀ thread ∈ pre ++ ⟨task, hist, .perform stmt next⟩ :: post,
        ∀ event ∈ thread.history, Learned (⟨task, stmt, w⟩ :: log) thread.task event :=
      fun thread mem event seen => (sound.learned thread mem event seen).grows grows
    refine forall_threads_perform grown fun prev event seen => ?_
    rcases mem_cons.mp seen with rfl | old
    · exact learned_execute sound.state own ok
    · exact prev event old

/-! ### What holds of a run -/

def JoinedLive (log : Log) (task : Task) (key : CorrelationKey) (session slot : Nat) : Prop :=
  ∃ entry ∈ log, entry.task = task ∧ ∃ maxAge stored, entry.statement = .entry key maxAge ∧
    entry.before.handles.find? key = some stored ∧
    entry.before.entryIsLive maxAge stored = true ∧ stored.session = session ∧ stored.slot = slot

def Opened (log : Log) (task : Task) (key : CorrelationKey) (session slot : Nat) : Prop :=
  ∃ entry ∈ log, entry.task = task ∧ opens slot entry = some (key, session)

def OpenedLive (log : Log) (task : Task) (key : CorrelationKey) (session slot : Nat) : Prop :=
  ∃ entry ∈ log, entry.task = task ∧ opens slot entry = some (key, session) ∧
    ∀ maxAge, 0 < maxAge →
      entry.before.entryIsLive maxAge (entry.before.newEntry key session) = true

def FoundAbandoned (log : Log) (task : Task) (slot : Nat) : Prop :=
  ∃ entry ∈ log, entry.task = task ∧ entry.statement = .readSlot slot ∧
    (entry.before.slots slot).authorization = .pending ∧
    (entry.before.slots slot).locked = false

def Statement.evicts : Statement → Option (CorrelationKey × Nat)
  | evict key slot => some (key, slot)
  | evictFailed key slot _ => some (key, slot)
  | _ => none

variable {thread : Thread Task Statement Statement.Outcome Answer}

section Logged

variable
  (logged : ∀ event ∈ thread.history, ∃ entry ∈ log, entry.task = thread.task ∧
    event = ⟨entry.statement, (execute entry.statement entry.before).1⟩)

include logged

variable {age : Duration}

theorem joinedLive_of_seen (seen : ⟨.entry key age, some ⟨sess, slot⟩⟩ ∈ thread.history) :
    JoinedLive log thread.task key sess slot := by
  obtain ⟨⟨task, stmt, pre⟩, inLog, isTask, same⟩ := logged _ seen
  obtain ⟨rfl, out⟩ := Sigma.mk.inj same
  have found := eq_of_heq out
  obtain ⟨stored, isEntry, handedOut⟩ := map_eq_some_iff.mp found.symm
  obtain ⟨isStored, live⟩ := filter_eq_some_iff.mp isEntry
  obtain ⟨isSession, isSlot⟩ := Found.mk.inj handedOut
  exact ⟨_, inLog, isTask, age, stored, rfl, isStored, live, isSession, isSlot⟩

theorem opened_of_seen (seen : ⟨.claim key age sess, some slot⟩ ∈ thread.history) :
    Opened log thread.task key sess slot := by
  obtain ⟨⟨task, stmt, pre⟩, inLog, isTask, same⟩ := logged _ seen
  obtain ⟨rfl, out⟩ := Sigma.mk.inj same
  have won := eq_of_heq out
  exact ⟨_, inLog, isTask, opens_eq_some_iff.mpr ⟨age, rfl, won.symm⟩⟩

end Logged

theorem evicts_only {other : CorrelationKey} {stored : SessionEntry}
    (evicts : stmt.evicts = some (key, slot)) (isStored : w.handles.find? other = some stored)
    (gone : (execute stmt w).2.handles.find? other = none) : other = key ∧ stored.slot = slot := by
  have evicted : ((w.evict key slot).handles.find? other) = none := by
    cases stmt with
    | evict evictedKey evictedSlot =>
      cases evicts
      exact gone
    | evictFailed evictedKey evictedSlot remembered =>
      cases evicts
      cases remembered <;> exact gone
    | _ => cases evicts
  rw [evict, find?_delete, isStored, filter_some] at evicted
  split at evicted
  · cases evicted
  case isFalse matched =>
    have both : stored.key = key ∧ stored.slot = slot := by simpa using matched
    exact ⟨(key_of_find? isStored).symm.trans both.1, both.2⟩

theorem one_unresolved (w : World) (key : CorrelationKey) (age : Duration) :
    (w.handles.select fun entry => entry.key = key && w.entryIsLive age entry &&
      (w.slots entry.slot).authorization = .pending).length ≤ 1 := by
  rw [select_of_key _ _ key]
  · grind
  · grind

section Reached

variable (conditions conds : Conditions) (clock : Nat) (moves ms : List (Move Task))

theorem ok_of_reached (mem : thread ∈ (reached conds clock ms).threads)
    (answered : thread.result = some (.ok sess admitted)) :
    thread.task.key = some admitted.key ∧ admitted.session = sess ∧
      ∃ slot, Granted (reached conds clock ms).log slot admitted ∧
        (JoinedLive (reached conds clock ms).log thread.task admitted.key sess slot ∨
          OpenedLive (reached conds clock ms).log thread.task admitted.key sess slot) := by
  obtain ⟨follows, sound⟩ := sound_run conds clock ms
  have logged := run_logged system (initial conds clock) ms thread mem
  have learned := sound.learned thread mem
  have ans := follows thread mem
  rw [Thread.program_of_result answered] at ans
  obtain ⟨key, maxAge, slot, isKey, ⟨looked, read⟩ | ⟨rfl, claimed, admits, grants⟩⟩ := ans
  · have att := learned _ looked
    obtain ⟨ofAdmitted, granted⟩ := learned _ read
    obtain ⟨rfl, rfl⟩ := Prod.mk.inj (some.inj (att.symm.trans ofAdmitted))
    exact ⟨isKey, rfl, slot, granted, .inl (joinedLive_of_seen logged looked)⟩
  · obtain ⟨entry, inLog, isTask, opened⟩ := opened_of_seen logged claimed
    obtain ⟨-, -, stillOpen⟩ := learned _ admits
    refine ⟨isKey, rfl, slot, learned _ grants,
      .inr ⟨entry, inLog, isTask, opened, fun age positive => ?_⟩⟩
    simpa [entryIsLive, newEntry, stillOpen entry inLog key opened] using positive

theorem eviction_of_reached (logged : (reached conds clock ms).log = newer ++ entry :: older)
    (evicts : entry.statement.evicts = some (key, slot)) :
    entry.task.key = some key ∧ ∃ sess, Opened older entry.task key sess slot ∨
      JoinedLive older entry.task key sess slot ∧ FoundAbandoned older entry.task slot := by
  obtain ⟨first, m, isOlder, isBefore, perf⟩ :=
    performed_of_logged system (initial conds clock) ms logged
  obtain ⟨hist, next, mem⟩ := mem_of_performed system perf
  have seen := run_logged system (initial conds clock) first _ mem
  have ok := ((sound_run conds clock first).1 _ mem).1
  rw [isOlder] at seen
  obtain ⟨task, stmt, pre⟩ := entry
  cases stmt with
  | evict evictedKey evictedSlot =>
    cases evicts
    obtain ⟨isKey, read, age, sess, looked⟩ := ok
    refine ⟨isKey, sess, .inr ⟨joinedLive_of_seen seen looked, ?_⟩⟩
    obtain ⟨⟨_, stmt, readIn⟩, inLog, isTask, same⟩ := seen _ read
    obtain ⟨rfl, out⟩ := Sigma.mk.inj same
    have pending := eq_of_heq out
    refine ⟨_, inLog, isTask, rfl, pending.symm, ?_⟩
    obtain ⟨newer', older', split⟩ := append_of_mem inLog
    rw [← isOlder] at split
    obtain ⟨prev, move', -, isRead, performed⟩ :=
      performed_of_logged system (initial conds clock) first split
    have ready := ready_of_performed system performed
    rw [isRead] at ready
    simpa [system, Statement.ready] using ready
  | evictFailed evictedKey evictedSlot remembered =>
    cases evicts
    obtain ⟨isKey, -, age, sess, claimed⟩ := ok
    exact ⟨isKey, sess, .inl (opened_of_seen seen claimed)⟩
  | _ => cases evicts

theorem refusal_of_reached (mem : thread ∈ (reached conds clock ms).threads)
    (answered : thread.result = some (.error failure))
    (isRefusal : failure ≠ .registration) (isKey : thread.task.key = some key) :
    Denied (reached conds clock ms).log key := by
  obtain ⟨follows, sound⟩ := sound_run conds clock ms
  have learned := sound.learned thread mem
  have ans := follows thread mem
  rw [Thread.program_of_result answered] at ans
  cases failure with
  | refused =>
    obtain ⟨refusedKey, isRefused, asked⟩ := ans
    rw [isKey] at isRefused
    obtain rfl := some.inj isRefused
    exact learned _ asked
  | joinedDenied =>
    obtain ⟨joinedKey, age, sess, slot, isJoined, looked, read⟩ := ans
    rw [isKey] at isJoined
    obtain rfl := some.inj isJoined
    obtain ⟨deniedKey, deniedSession, att, denied⟩ := learned _ read
    have same := (learned _ looked).symm.trans att
    obtain ⟨rfl, -⟩ := Prod.mk.inj (some.inj same)
    exact denied
  | unauthorized | admission out =>
    obtain ⟨slot, denies⟩ := ans
    exact learned _ denies key isKey
  | registration => exact absurd rfl isRefusal

/-- Over every run: a key has at most one live entry that is unresolved; a request succeeds only
with a session that a request of its own key was authorized for and admitted to, and whose entry was
live when it was joined or opened; an eviction removes only the entry its own request opened, or one
it joined and found abandoned; and a refusal comes from an attempt of the request's own key. -/
theorem admissions_never_mix :
    (∀ key maxAge,
      ((reached conditions clock moves).state.handles.select fun entry =>
        entry.key = key && (reached conditions clock moves).state.entryIsLive maxAge entry &&
          ((reached conditions clock moves).state.slots entry.slot).authorization =
            .pending).length ≤ 1) ∧
    (∀ thread ∈ (reached conditions clock moves).threads, ∀ session admitted,
      thread.result = some (.ok session admitted) →
      thread.task.key = some admitted.key ∧ admitted.session = session ∧
        ∃ slot, Granted (reached conditions clock moves).log slot admitted ∧
          (JoinedLive (reached conditions clock moves).log thread.task admitted.key session slot ∨
            OpenedLive (reached conditions clock moves).log thread.task admitted.key session
              slot)) ∧
    (∀ newer entry older, (reached conditions clock moves).log = newer ++ entry :: older →
      ∀ key slot, entry.statement.evicts = some (key, slot) →
        (∀ other stored, entry.before.handles.find? other = some stored →
          (execute entry.statement entry.before).2.handles.find? other = none →
          other = key ∧ stored.slot = slot) ∧
        entry.task.key = some key ∧ ∃ session, Opened older entry.task key session slot ∨
          JoinedLive older entry.task key session slot ∧ FoundAbandoned older entry.task slot) ∧
    ∀ thread ∈ (reached conditions clock moves).threads, ∀ failure,
      thread.result = some (.error failure) → failure ≠ .registration →
      ∀ key, thread.task.key = some key → Denied (reached conditions clock moves).log key := by
  refine ⟨fun key maxAge => one_unresolved _ key maxAge, ?_, ?_, ?_⟩
  · grind [ok_of_reached]
  · intro newer entry older logged key slot evicts
    exact ⟨fun other stored isStored gone => evicts_only evicts isStored gone,
      eviction_of_reached conditions clock moves logged evicts⟩
  · grind [refusal_of_reached]

end Reached

def granting : Conditions where
  maxAge := 60000000000
  registers := true
  authorizes := true
  spends := true
  cancels := true
  admits := .admitted

def aliceAt (target : String) : CorrelationKey := ⟨1, target, none, .apiToken 2⟩

def fanOut : List (Move Task) :=
  .start (.request 0 (aliceAt "k8s") .user 1) :: List.replicate 5 (.advance 0) ++
    .start (.request 1 (aliceAt "k8s") .user 1) :: List.replicate 3 (.advance 1) ++
    List.replicate 3 (.advance 0) ++ [.advance 1]

theorem fan_out_shares_session :
    (reached granting 0 fanOut).threads.map Thread.result =
        [some (.ok 0 ⟨0, aliceAt "k8s"⟩), some (.ok 0 ⟨0, aliceAt "k8s"⟩)] ∧
      ∀ thread ∈ (reached granting 0 fanOut).threads, ∀ session admitted,
        thread.result = some (.ok session admitted) → thread.task.key = some admitted.key ∧
          ∃ slot, Granted (reached granting 0 fanOut).log slot admitted := by
  refine ⟨by decide +kernel, fun thread mem session admitted answered => ?_⟩
  obtain ⟨isKey, -, slot, granted, -⟩ :=
    (admissions_never_mix granting 0 fanOut).2.1 thread mem session admitted answered
  exact ⟨isKey, slot, granted⟩

/-- The opening request is dropped before it resolves; the next one joins its entry. -/
def droppedOpener : List (Move Task) :=
  .start (.request 0 (aliceAt "k8s") .user 1) :: List.replicate 5 (.advance 0) ++
    [.start (.abandon 0), .advance 1] ++
    .start (.request 1 (aliceAt "k8s") .user 1) :: List.replicate 5 (.advance 2)

/-- A request evicts the entry of an attempt that it did not open. -/
theorem abandoned_entry_is_evicted_by_joiner :
    ∃ entry older, (reached granting 0 droppedOpener).log = entry :: older ∧
      entry.task = .request 1 (aliceAt "k8s") .user 1 ∧
      entry.statement.evicts = some (aliceAt "k8s", 0) ∧
      (entry.before.handles.find? (aliceAt "k8s")).map SessionEntry.slot = some 0 ∧
      (execute entry.statement entry.before).2.handles.find? (aliceAt "k8s") = none ∧
      (∃ opening ∈ older, opening.task = .request 0 (aliceAt "k8s") .user 1 ∧
        opens 0 opening = some (aliceAt "k8s", 0)) ∧
      ∀ opening ∈ older, opening.task = entry.task → opens 0 opening = none :=
  ⟨_, _, rfl, by decide +kernel⟩

end Warpgate.Kubernetes
