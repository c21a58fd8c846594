/-
This file is about the proxied HTTP requests that are live on a node: none outlives its access.
-/

import Warpgate.Access.Directory
import Warpgate.Concurrent.Rely

namespace Warpgate.Streams

open Concurrent
open Access (Target)

inductive LiveStreamKind
  | roleBased
  | publicBypass
  deriving DecidableEq, Repr

/-! ### Streams -/

structure LiveStream where
  id : Nat
  userId : Uuid
  targetId : Uuid
  kind : LiveStreamKind
  cancelled : Bool
  deriving DecidableEq, Repr

abbrev Subject := Uuid × Uuid × LiveStreamKind

def LiveStream.subject (stream : LiveStream) : Subject :=
  (stream.userId, stream.targetId, stream.kind)

structure World where
  directory : Access.Directory
  clock : OffsetDateTime
  reachable : Bool
  nextId : Nat
  streams : Sql.Table LiveStream LiveStream.id

namespace World

def whenReachable {Result : Type} (world : World) (result : Result) : Option Result :=
  if world.reachable then some result else none

variable (world : World)

def register (userId targetId : Uuid) (kind : LiveStreamKind) : World :=
  { world with
    nextId := world.nextId + 1
    streams := world.streams.upsert ⟨world.nextId, userId, targetId, kind, false⟩ }

def unregister (id : Nat) : World :=
  { world with streams := world.streams.delete fun stream => stream.id = id }

def inUse : List Subject :=
  (world.streams.rows.map LiveStream.subject).dedup

def cancel (userId targetId : Uuid) (kind : LiveStreamKind) : World :=
  { world with
    streams := world.streams.update (fun stream => stream.subject = (userId, targetId, kind))
      (fun stream => { stream with cancelled := true }) fun _ => rfl }

def allows : Subject → Bool
  | (userId, targetId, .roleBased) => world.directory.authorizes userId targetId world.clock
  | (_, targetId, .publicBypass) => world.directory.shares targetId

end World

inductive Statement
  | register (userId targetId : Uuid) (kind : LiveStreamKind)
  | unregister (id : Nat)
  | authorizeTargetById (userId targetId : Uuid)
  | getTargetById (targetId : Uuid)
  | inUse
  | cancel (userId targetId : Uuid) (kind : LiveStreamKind)
  | administer (write : Access.Change)
  | elapse (period : Duration)
  | setReachable (reachable : Bool)
  deriving DecidableEq

@[reducible] def Statement.Outcome : Statement → Type
  | register _ _ _ => Nat
  | authorizeTargetById _ _ => Option Bool
  | getTargetById _ => Option (Option Target)
  | inUse => List Subject
  | _ => Unit

def execute : (statement : Statement) → World → statement.Outcome × World
  | .register userId targetId kind, world =>
    (world.nextId, world.register userId targetId kind)
  | .unregister id, world => ((), world.unregister id)
  | .authorizeTargetById userId targetId, world =>
    (world.whenReachable (world.directory.authorizes userId targetId world.clock), world)
  | .getTargetById targetId, world =>
    (world.whenReachable (world.directory.targets.find? targetId), world)
  | .inUse, world => (world.inUse, world)
  | .cancel userId targetId kind, world => ((), world.cancel userId targetId kind)
  | .administer write, world => ((), { world with directory := write.apply world.directory })
  | .elapse period, world => ((), { world with clock := world.clock + period })
  | .setReachable reachable, world => ((), { world with reachable := reachable })

abbrev Action (Result : Type) := Program Statement Statement.Outcome Result

abbrev act (statement : Statement) : Action statement.Outcome :=
  Program.perform statement Program.done

def stillAuthorised (userId targetId : Uuid) : Action Bool := do
  pure ((← act (.authorizeTargetById userId targetId)).getD false)

def publicTargetStillShared (targetId : Uuid) : Action Bool := do
  match ← act (.getTargetById targetId) with
  | some (some target) => pure target.isShared
  | some none | none => pure false

def admitOrRefuse (id : Nat) (allowed : Bool) : Action (Option Nat) :=
  if allowed then pure (some id)
  else do
    act (.unregister id)
    pure none

def watchLiveStream (userId targetId : Uuid) : Action (Option Nat) := do
  let id ← act (.register userId targetId .roleBased)
  admitOrRefuse id (← stillAuthorised userId targetId)

def watchPublicLiveStream (userId targetId : Uuid) : Action (Option Nat) := do
  let id ← act (.register userId targetId .publicBypass)
  admitOrRefuse id (← publicTargetStillShared targetId)

def reauthorizeEach : List Subject → List (Uuid × Bool) → Action Unit
  | [], _ => pure ()
  | (userId, targetId, .roleBased) :: rest, shared => do
    if ← stillAuthorised userId targetId then reauthorizeEach rest shared
    else
      act (.cancel userId targetId .roleBased)
      reauthorizeEach rest shared
  | (userId, targetId, .publicBypass) :: rest, shared =>
    match shared.lookup targetId with
    | some true => reauthorizeEach rest shared
    | some false => do
      act (.cancel userId targetId .publicBypass)
      reauthorizeEach rest shared
    | none => do
      if ← publicTargetStillShared targetId then reauthorizeEach rest ((targetId, true) :: shared)
      else
        act (.cancel userId targetId .publicBypass)
        reauthorizeEach rest ((targetId, false) :: shared)

def reauthorizeLiveStreams : Action Unit := do
  reauthorizeEach (← act .inUse) []

inductive Task
  | watch (subject : Subject)
  | finish (id : Nat)
  | reauthorizeLiveStreams
  | administer (write : Access.Change)
  | elapse (period : Duration)
  | setReachable (reachable : Bool)
  deriving DecidableEq

def completing (program : Action Unit) : Action (Option Nat) := do
  program
  pure none

def Task.program : Task → Action (Option Nat)
  | .watch (userId, targetId, .roleBased) => watchLiveStream userId targetId
  | .watch (userId, targetId, .publicBypass) => watchPublicLiveStream userId targetId
  | .finish id => completing (act (.unregister id))
  | .reauthorizeLiveStreams => completing Streams.reauthorizeLiveStreams
  | .administer write => completing (act (.administer write))
  | .elapse period => completing (act (.elapse period))
  | .setReachable reachable => completing (act (.setReachable reachable))

def system : System Task Statement Statement.Outcome World (Option Nat) where
  program := Task.program
  execute := execute

abbrev State := Config Task Statement Statement.Outcome World (Option Nat)

open List Sql.Table Config Option Statement

/-! ### What a check says -/

def Subject.check : Subject → Statement
  | (userId, targetId, .roleBased) => .authorizeTargetById userId targetId
  | (_, targetId, .publicBypass) => .getTargetById targetId

def verdict : (statement : Statement) → statement.Outcome → Bool
  | .authorizeTargetById _ _, answer => answer.getD false
  | .getTargetById _, some (some target) => target.isShared
  | _, _ => false

theorem verdict_execute (subj : Subject) (w : World) :
    verdict subj.check (execute subj.check w).1 = (w.reachable && w.allows subj) := by
  obtain ⟨uid, tgt, kind⟩ := subj
  cases kind with
  | roleBased =>
    show (w.whenReachable _).getD false = _
    unfold World.whenReachable
    cases w.reachable <;> rfl
  | publicBypass =>
    show verdict (.getTargetById tgt) (w.whenReachable _) = _
    unfold World.whenReachable
    cases w.reachable with
    | false => rfl
    | true =>
      show _ = (w.directory.targets.find? tgt).any Access.Target.isShared
      cases w.directory.targets.find? tgt <;> rfl

def check (subject : Subject) : Action Bool :=
  Program.perform subject.check fun answer => Program.done (verdict subject.check answer)

variable (uid tgt : Uuid) (w : World) (ms : List (Move Task))

theorem stillAuthorised_eq : stillAuthorised uid tgt = check (uid, tgt, .roleBased) := rfl

theorem publicTargetStillShared_eq :
    publicTargetStillShared tgt = check (uid, tgt, .publicBypass) := by
  unfold publicTargetStillShared
  refine congrArg (Program.perform (getTargetById tgt)) (funext fun ans => ?_)
  rcases ans with - | - | target <;> rfl

theorem program_watch (subj : Subject) :
    Task.program (.watch subj) = act (.register subj.1 subj.2.1 subj.2.2) >>= fun id =>
        check subj >>= admitOrRefuse id := by
  obtain ⟨uid, tgt, kind⟩ := subj
  cases kind with
  | roleBased => rfl
  | publicBypass =>
    show watchPublicLiveStream uid tgt = _
    unfold watchPublicLiveStream
    rw [publicTargetStillShared_eq uid tgt]

/-! ### The registry -/

section

variable (id : Nat) (subject : Subject)

def World.Registered (world : World) : Prop :=
  id < world.nextId ∧ ∀ stream, world.streams.find? id = some stream → stream.subject = subject

def World.NotLive (world : World) : Prop :=
  (world.streams.find? id).all LiveStream.cancelled = true

variable {id subj} {w : World}

theorem find?_cancel (uid tgt : Uuid) (kind : LiveStreamKind) :
    (w.cancel uid tgt kind).streams.find? id = (w.streams.find? id).map fun stream =>
        if decide (stream.subject = (uid, tgt, kind)) = true then
          { stream with cancelled := true } else stream :=
  find?_update w.streams _ (fun stream => { stream with cancelled := true })
    (fun _ => rfl) id

inductive LiveStream.Step (id : Nat) (world : World) :
    Statement → Option LiveStream → Option LiveStream → Prop
  | same (statement : Statement) (stream : Option LiveStream) :
      Step id world statement stream stream
  | registered (userId targetId : Uuid) (kind : LiveStreamKind) (stream : Option LiveStream)
      (fresh : world.nextId = id) :
      Step id world (.register userId targetId kind) stream
        (some ⟨world.nextId, userId, targetId, kind, false⟩)
  | dropped (stream : LiveStream) :
      Step id world (.unregister id) (some stream) none
  | cancelled (userId targetId : Uuid) (kind : LiveStreamKind) (stream : LiveStream)
      (its : stream.subject = (userId, targetId, kind)) :
      Step id world (.cancel userId targetId kind) (some stream)
        (some { stream with cancelled := true })

variable (statement stmt : Statement)

theorem stream_step (w : World) (id : Nat) :
    LiveStream.Step id w stmt (w.streams.find? id) ((execute stmt w).2.streams.find? id) := by
  cases stmt with
  | register uid tgt kind =>
    have later : (execute (.register uid tgt kind) w).2.streams.find? id =
        if w.nextId = id then some ⟨w.nextId, uid, tgt, kind, false⟩
        else w.streams.find? id := find?_upsert w.streams _ id
    rw [later]
    split
    · next fresh => exact .registered uid tgt kind _ fresh
    · exact .same _ _
  | unregister dropped =>
    have later : (execute (.unregister dropped) w).2.streams.find? id =
        (w.streams.find? id).filter fun stream => !decide (stream.id = dropped) :=
      find?_delete w.streams _ id
    rw [later]
    cases found : w.streams.find? id with
    | none => exact .same _ _
    | some stream =>
      have k : stream.id = id := key_of_find? found
      rw [filter_some, k]
      by_cases same : id = dropped
      · subst same
        rw [if_neg (by simp)]
        exact .dropped stream
      · rw [if_pos (by simpa using same)]
        exact .same _ _
  | cancel uid tgt kind =>
    show LiveStream.Step id w _ _ ((w.cancel uid tgt kind).streams.find? id)
    rw [find?_cancel]
    cases found : w.streams.find? id with
    | none => exact .same _ _
    | some stream =>
      rw [map_some]
      split
      · next its => exact .cancelled uid tgt kind stream (of_decide_eq_true its)
      · exact .same _ _
  | _ => exact .same _ _

theorem registered_execute (reg : w.Registered id subj) :
    (execute stmt w).2.Registered id subj := by
  refine ⟨Nat.lt_of_lt_of_le reg.1 (by
    cases stmt <;> first | exact Nat.le_refl _ | exact Nat.le_succ _), ?_⟩
  intro stream found
  have step := stream_step stmt w id
  rw [found] at step
  generalize was : w.streams.find? id = prev at step
  cases step with
  | same => exact reg.2 stream was
  | registered uid tgt kind _ fresh => exact absurd fresh reg.1.ne'
  | cancelled uid tgt kind old its => exact reg.2 old was

theorem ended_execute (given : id < w.nextId) (ended : w.NotLive id) :
    (execute statement w).2.NotLive id := by
  have step := stream_step statement w id
  unfold World.NotLive at ended ⊢
  generalize w.streams.find? id = prev at step ended
  generalize (execute statement w).2.streams.find? id = later at step ⊢
  cases step with
  | same => exact ended
  | registered uid tgt kind _ fresh => exact absurd fresh given.ne'
  | dropped | cancelled => rfl

end

/-! ### A re-check next to other tasks -/

section

variable {id : Nat} {subject subj : Subject} {rest : List Subject} {w : World}
  {hist : History Statement.Outcome}

def Keeps (id : Nat) (subject : Subject) (world later : World) : Prop :=
  world.Registered id subject →
    later.Registered id subject ∧ (world.NotLive id → later.NotLive id)

theorem Keeps.refl (w : World) : Keeps id subj w w := fun reg => ⟨reg, fun ended => ended⟩

theorem Keeps.trans (first second third : World) (pre : Keeps id subj first second)
    (post : Keeps id subj second third) : Keeps id subj first third := by
  grind [Keeps]

theorem keeps_execute (stmt : Statement) (w : World) : Keeps id subject w (execute stmt w).2 :=
  fun registered => ⟨registered_execute stmt registered, ended_execute stmt registered.1⟩

def Pending (id : Nat) (subject : Subject) (rest : List Subject) (world : World) : Prop :=
  world.Registered id subject ∧ (world.NotLive id ∨ subject ∈ rest)

theorem Pending.mono {later : World} (keeps : Keeps id subj w later)
    (pending : Pending id subj rest w) : Pending id subj rest later :=
  ⟨(keeps pending.1).1, pending.2.imp_left (keeps pending.1).2⟩

theorem Pending.skip {turn : Subject} (other : subj ≠ turn)
    (pending : Pending id subj (turn :: rest) w) : Pending id subj rest w :=
  ⟨pending.1, pending.2.imp_right fun mem => (mem_cons.mp mem).resolve_left other⟩

variable {uid tgt : Uuid} {kind : LiveStreamKind}

theorem Pending.cancel (pending : Pending id subj ((uid, tgt, kind) :: rest) w) :
    Pending id subj rest (execute (.cancel uid tgt kind) w).2 := by
  by_cases turn : subj = (uid, tgt, kind)
  · refine ⟨registered_execute _ pending.1, .inl ?_⟩
    show ((w.cancel uid tgt kind).streams.find? id).all LiveStream.cancelled = true
    rw [find?_cancel]
    cases found : w.streams.find? id with
    | none => rfl
    | some stream =>
      rw [map_some, if_pos (decide_eq_true ((pending.1.2 stream found).trans turn))]
      rfl
  · exact (pending.mono (keeps_execute _ w)).skip turn

abbrev RecheckMeets (id : Nat) (subject : Subject) {Result : Type}
    (ensures : History Statement.Outcome → Result → World → Prop)
    (history : History Statement.Outcome) (program : Action Result)
    (world : World) : Prop :=
  program.Meets execute (fun _ later => later.allows subject = false)
    (Contract.relying (Keeps id subject) Keeps.refl Keeps.trans) ensures history world

theorem check_meets (turn : Subject) (pending : Pending id subj (turn :: rest) w) :
    RecheckMeets id subj
      (fun _ ok reached => Pending id subj (turn :: rest) reached ∧
        (ok = true → subj.check ≠ turn.check)) hist (check turn) w := by
  intro later keeps denied
  refine ⟨trivial, (pending.mono keeps).mono (keeps_execute turn.check later), ?_⟩
  intro passed same
  rw [← same, verdict_execute, denied, Bool.and_false] at passed
  cases passed

theorem lookup_ne_some_true {tgt : Uuid} {shared : List (Uuid × Bool)} {ok : Bool}
    (passed : ok = true → subj.check ≠ .getTargetById tgt)
    (isPublic : subj.2.2 = .publicBypass) (cached : shared.lookup subj.2.1 ≠ some true) :
    ((tgt, ok) :: shared).lookup subj.2.1 ≠ some true := by
  rw [lookup_cons]
  split
  · next same =>
    intro favourable
    obtain ⟨uid, target, kind⟩ := subj
    obtain rfl : kind = .publicBypass := isPublic
    obtain rfl : target = tgt := beq_iff_eq.mp same
    exact passed (some.inj favourable) rfl
  · exact cached

theorem cancel_meets {Result : Type} {next : Action Result}
    {ensures : History Outcome → Result → World → Prop}
    (pending : Pending id subj ((uid, tgt, kind) :: rest) w)
    (goesOn : ∀ seen reached, Pending id subj rest reached →
      RecheckMeets id subj ensures seen next reached) :
    RecheckMeets id subj ensures hist (act (.cancel uid tgt kind) >>= fun _ => next) w :=
  fun _ keeps _ => ⟨trivial, goesOn _ _ (pending.mono keeps).cancel⟩

theorem reauthorizeEach_meets (rest : List Subject) (shared : List (Uuid × Bool))
    (pending : Pending id subj rest w)
    (cached : subj.2.2 = .publicBypass → shared.lookup subj.2.1 ≠ some true) :
    RecheckMeets id subj (fun _ _ reached => Pending id subj [] reached) hist
      (reauthorizeEach rest shared) w := by
  induction rest generalizing shared w hist with
  | nil => exact pending
  | cons turn rest ih =>
    obtain ⟨uid, tgt, kind⟩ := turn
    cases kind with
    | roleBased =>
      unfold reauthorizeEach
      rw [stillAuthorised_eq]
      refine (check_meets _ pending).seq fun seen ok reached checked => ?_
      cases ok with
      | true =>
        have other := checked.2 rfl
        exact ih shared (checked.1.skip fun same => other (same ▸ rfl)) cached
      | false =>
        exact cancel_meets checked.1 fun seen reached still => ih shared still cached
    | publicBypass =>
      unfold reauthorizeEach
      split
      · next passed =>
        refine ih shared (pending.skip ?_) cached
        rintro rfl
        exact cached rfl passed
      · exact cancel_meets pending fun seen reached still => ih shared still cached
      · rw [publicTargetStillShared_eq uid]
        refine (check_meets _ pending).seq fun seen ok reached checked => ?_
        cases ok with
        | true =>
          have other := checked.2 rfl
          refine ih _ (checked.1.skip fun same => other (same ▸ rfl)) ?_
          exact fun isPublic => lookup_ne_some_true checked.2 isPublic (cached isPublic)
        | false =>
          refine cancel_meets checked.1 fun seen reached still => ih _ still ?_
          exact fun isPublic => lookup_ne_some_true checked.2 isPublic (cached isPublic)

theorem reauthorizeLiveStreams_meets (reg : w.Registered id subj) :
    RecheckMeets id subj (fun _ _ reached => Pending id subj [] reached) hist
      (Task.program .reauthorizeLiveStreams) w := by
  have loop : RecheckMeets id subj (fun _ _ reached => Pending id subj [] reached) hist
      Streams.reauthorizeLiveStreams w := by
    intro later keeps _
    have stillRegistered := (keeps reg).1
    refine ⟨trivial, reauthorizeEach_meets _ [] ⟨stillRegistered, ?_⟩ fun _ no => by cases no⟩
    show later.NotLive id ∨ subj ∈ later.inUse
    cases found : later.streams.find? id with
    | none => exact .inl (by rw [World.NotLive, found]; rfl)
    | some stream =>
      refine .inr (mem_dedup.mpr (mem_map.mpr ⟨stream, ?_⟩))
      exact ⟨mem_of_find? found, stillRegistered.2 stream found⟩
  exact loop.seq fun _ _ _ settled => settled

end

/-! ### Why a stream is cancelled -/

section

variable {hist : History Statement.Outcome}

def SawFailing (seen : History Statement.Outcome) (subject : Subject) : Prop :=
  ∃ answer, ⟨subject.check, answer⟩ ∈ seen ∧ verdict subject.check answer = false

def CancelsForCause (seen : History Statement.Outcome) (statement : Statement) :
    Prop :=
  ∀ userId targetId kind, statement = .cancel userId targetId kind →
    SawFailing seen (userId, targetId, kind)

def Task.Ensures (task : Task) (seen : History Statement.Outcome)
    (result : Option Nat) : Prop :=
  ∀ subject id, task = .watch subject → result = some id →
    ∃ answer, verdict subject.check answer = true ∧
      seen = [⟨subject.check, answer⟩, ⟨.register subject.1 subject.2.1 subject.2.2, id⟩]

theorem cancelsForCause_check (subj : Subject) : CancelsForCause hist subj.check := by
  obtain ⟨uid, tgt, kind⟩ := subj
  cases kind <;> exact fun _ _ _ no => by cases no

theorem SawFailing.cons {subj : Subject} (ev : Event Statement Outcome)
    (saw : SawFailing hist subj) : SawFailing (ev :: hist) subj := by
  obtain ⟨ans, mem, failed⟩ := saw
  exact ⟨ans, .tail _ mem, failed⟩

theorem watch_follows (subj : Subject) :
    (Task.program (.watch subj)).Follows CancelsForCause (Task.Ensures (.watch subj)) [] := by
  rw [program_watch]
  refine ⟨fun _ _ _ no => (by cases no), fun id => ⟨cancelsForCause_check subj, ?_⟩⟩
  intro ans
  show Program.Follows _ _ _ (admitOrRefuse id (verdict subj.check ans))
  cases passed : verdict subj.check ans with
  | true =>
    rintro other admitted ⟨⟩ ⟨⟩
    exact ⟨ans, passed, rfl⟩
  | false => exact ⟨fun _ _ _ no => (by cases no), fun _ _ _ _ no => by cases no⟩

theorem check_follows (subj : Subject) :
    (check subj).Follows CancelsForCause
      (fun seen ok => (∃ ev, seen = ev :: hist) ∧ (ok = false → SawFailing seen subj)) hist :=
  ⟨cancelsForCause_check subj, fun ans =>
    ⟨⟨_, rfl⟩, fun failed => ⟨ans, .head _, failed⟩⟩⟩

theorem reauthorizeEach_follows (rest : List Subject) (shared : List (Uuid × Bool))
    (cached : ∀ uid tgt, shared.lookup tgt = some false →
      SawFailing hist (uid, tgt, .publicBypass)) :
    (reauthorizeEach rest shared).Follows CancelsForCause (fun _ _ => True) hist := by
  induction rest generalizing shared hist with
  | nil => trivial
  | cons turn rest ih =>
    obtain ⟨uid, tgt, kind⟩ := turn
    have cancels : ∀ (shared : List (Uuid × Bool)) (seen : History Outcome),
        SawFailing seen (uid, tgt, kind) →
        (∀ uid tgt, shared.lookup tgt = some false → SawFailing seen (uid, tgt, .publicBypass)) →
        (act (.cancel uid tgt kind) >>= fun _ => reauthorizeEach rest shared).Follows
          CancelsForCause (fun _ _ => True) seen := by
      intro shared seen failed cached
      refine ⟨?_, fun _ => ih shared fun uid tgt found => (cached uid tgt found).cons _⟩
      rintro _ _ _ ⟨⟩
      exact failed
    cases kind with
    | roleBased =>
      unfold reauthorizeEach
      rw [stillAuthorised_eq]
      refine (check_follows _).seq fun seen ok checked => ?_
      obtain ⟨⟨ev, rfl⟩, failed⟩ := checked
      have still := fun uid tgt found => (cached uid tgt found).cons ev
      cases ok with
      | true => exact ih shared still
      | false => exact cancels shared _ (failed rfl) still
    | publicBypass =>
      unfold reauthorizeEach
      split
      · exact ih shared cached
      · next failed => exact cancels shared _ (cached uid tgt failed) cached
      · rw [publicTargetStillShared_eq uid]
        refine (check_follows _).seq fun seen ok checked => ?_
        obtain ⟨⟨ev, rfl⟩, failed⟩ := checked
        have still : ∀ user target, ((tgt, ok) :: shared).lookup target = some false →
            SawFailing (ev :: hist) (user, target, .publicBypass) := by
          intro user target found
          rw [lookup_cons] at found
          split at found
          · next same =>
            obtain rfl : target = tgt := beq_iff_eq.mp same
            exact failed (some.inj found)
          · exact (cached user target found).cons ev
        cases ok with
        | true => exact ih _ still
        | false => exact cancels _ _ (failed rfl) still

theorem Task.program_follows (t : Task) : t.program.Follows CancelsForCause t.Ensures [] := by
  cases t with
  | watch subj => exact watch_follows subj
  | reauthorizeLiveStreams =>
    have loop : Streams.reauthorizeLiveStreams.Follows CancelsForCause (fun _ _ => True) [] :=
      ⟨fun _ _ _ no => (by cases no), fun rest =>
        reauthorizeEach_follows rest [] fun _ _ no => by cases no⟩
    exact loop.seq fun _ _ _ _ _ no => by cases no
  | _ => exact ⟨fun _ _ _ no => (by cases no), fun _ _ _ no => by cases no⟩

end

abbrev Follows (config : State) : Prop :=
  Config.ThreadsFollow (fun _ => CancelsForCause) Task.Ensures config

variable {subject subj : Subject}

theorem admitted_before_denial {c : State} {ms : List (Move Task)}
    (along : Along system
      (fun reached _ => reached.state.allows subj = false ∧ Follows reached) c ms) :
    ∀ th ∈ (c.run system ms).threads, th.task = .watch subj →
      ∀ id, th.result = some (some id) → th ∈ c.threads := by
  refine run_invariant _ (fun reached => ∀ th ∈ reached.threads, th.task = .watch subj →
      ∀ id, th.result = some (some id) → th ∈ c.threads) ?_ ?_ c ms along (fun th mem _ _ _ => mem)
  · intro reached t _ held
    refine forall_threads_start held ?_
    rintro rfl id fin
    rw [Thread.result, show system.program (.watch subj) = _ from program_watch subj] at fin
    cases fin
  · intro s pre t hist stmt next post log perm _ _ held
    refine forall_threads_perform held fun _ isWatch id fin => ?_
    exfalso
    obtain rfl : t = .watch subj := isWatch
    have follows := (perm.2 _ mem_append_cons_self).2 (execute stmt s).1
    have last : next (execute stmt s).1 = .done (some id) := Thread.program_of_result fin
    rw [last] at follows
    obtain ⟨ans, passed, seen⟩ := follows subj id rfl rfl
    have ev := (cons.inj seen).1
    simp only [Sigma.mk.injEq] at ev
    obtain ⟨rfl, sameAnswer⟩ := ev
    rw [← eq_of_heq sameAnswer, verdict_execute, perm.1, Bool.and_false] at passed
    cases passed

/-- The registration was made and has been dropped: the request is over. -/
def Over (id : Nat) (config : State) : Prop :=
  ∃ entry ∈ config.log, entry.statement = .unregister id ∧ id < entry.before.nextId

/-- Every id handed out is still the subject's, and in the registry until its request is over. -/
def IdsKept (config : State) : Prop :=
  ∀ entry ∈ config.log, ∀ userId targetId kind,
    entry.statement = .register userId targetId kind →
      config.state.Registered entry.before.nextId (userId, targetId, kind) ∧
        (Over entry.before.nextId config ∨
          (config.state.streams.find? entry.before.nextId).isSome = true)

theorem idsKept_run : IdsKept ((initial w).run system ms) := by
  refine run_invariant (fun _ _ => True) IdsKept (fun _ _ _ held => held) ?_ _ ms
    (along_of_forall _ (fun _ _ => trivial) _ _) (fun _ none => by cases none)
  intro s pre t hist stmt next post log _ _ _ held e mem uid tgt kind registers
  rcases mem_cons.mp mem with rfl | old
  · obtain rfl : stmt = .register uid tgt kind := registers
    have later : (s.register uid tgt kind).streams.find? s.nextId =
        some ⟨s.nextId, uid, tgt, kind, false⟩ :=
      (find?_upsert s.streams _ s.nextId).trans (if_pos rfl)
    refine ⟨⟨Nat.lt_succ_self _, fun stream found => ?_⟩, .inr (isSome_of_eq_some later)⟩
    obtain rfl := some.inj (later.symm.trans found)
    rfl
  · obtain ⟨registered, kept⟩ := held e old uid tgt kind registers
    refine ⟨registered_execute stmt registered, ?_⟩
    rcases kept with ⟨dropping, logged, drops⟩ | found
    · exact .inl ⟨dropping, .tail _ logged, drops⟩
    have step := stream_step stmt s e.before.nextId
    show _ ∨ ((execute stmt s).2.streams.find? e.before.nextId).isSome = true
    generalize s.streams.find? e.before.nextId = prev at step found
    generalize (execute stmt s).2.streams.find? e.before.nextId = later at step ⊢
    cases step with
    | same => exact .inr found
    | registered | cancelled => exact .inr rfl
    | dropped => exact .inl ⟨_, .head _, rfl, registered.1⟩

theorem registered_of_admitted {th : Thread Task Statement Outcome (Option Nat)}
    (mem : th ∈ ((initial w : State).run system ms).threads)
    (isWatch : th.task = .watch subj) {id : Nat} (admitted : th.result = some (some id)) :
    ((initial w : State).run system ms).state.Registered id subj ∧
      (Over id ((initial w).run system ms) ∨
        (((initial w : State).run system ms).state.streams.find? id).isSome = true) := by
  have follows := run_follows _ _ Task.program_follows w ms th mem
  rw [Thread.program_of_result admitted] at follows
  obtain ⟨ans, -, seen⟩ := follows subj id isWatch rfl
  obtain ⟨⟨t, stmt, pre⟩, logged, -, same⟩ := run_logged system w ms th mem
      ⟨.register subj.1 subj.2.1 subj.2.2, id⟩ (by rw [seen]; simp)
  simp only [Sigma.mk.injEq] at same
  obtain ⟨rfl, given⟩ := same
  obtain rfl := eq_of_heq given
  exact idsKept_run w ms _ logged _ _ _ rfl

def passesChecks (subject : Subject) (config : State) (_ : Task) (statement : Statement) : Prop :=
  statement = subject.check → (config.state.reachable && config.state.allows subject) = true

instance (subject : Subject) (config : State) (task : Task) (statement : Statement) :
    Decidable (passesChecks subject config task statement) :=
  inferInstanceAs (Decidable (_ → _))

def World.Untouched (subject : Subject) (world : World) : Prop :=
  ∀ id stream, world.streams.find? id = some stream → stream.subject = subject →
    stream.cancelled = false

theorem untouched_execute {stmt : Statement} {w : World}
    (others : stmt ≠ .cancel subj.1 subj.2.1 subj.2.2)
    (untouched : w.Untouched subj) : (execute stmt w).2.Untouched subj := by
  intro id stream found its
  have step := stream_step stmt w id
  rw [found] at step
  generalize was : w.streams.find? id = prev at step
  cases step with
  | same => exact untouched id stream was its
  | registered => rfl
  | cancelled uid tgt kind old oldIts =>
    have same : (uid, tgt, kind) = subj := oldIts.symm.trans its
    exact absurd (same ▸ rfl) others

theorem untouched_run (untouched : w.Untouched subj) (ms : List (Move Task))
    (passes : Along system (Performing system (passesChecks subj))
      (initial w) ms) : ((initial w : State).run system ms).state.Untouched subj := by
  refine (run_invariant_of_protocol Task.program_follows (Performing system (passesChecks subj))
    (fun c => c.state.Untouched subj ∧ ∀ th ∈ c.threads,
      ∀ ans, ⟨subj.check, ans⟩ ∈ th.history → verdict subj.check ans = true)
    ?_ ?_ w ms passes ⟨untouched, fun _ none => by cases none⟩).2.1
  · intro c t _ held
    exact ⟨held.1, forall_threads_start held.2 fun _ none => by cases none⟩
  · intro s pre t hist stmt next post log perm perf cause held
    refine ⟨untouched_execute ?_ held.1, forall_threads_perform held.2 ?_⟩
    · rintro rfl
      obtain ⟨ans, seen, failed⟩ := cause _ _ _ rfl
      rw [held.2 _ mem_append_cons_self ans seen] at failed
      cases failed
    · intro prev ans seen
      rcases mem_cons.mp seen with same | old
      · simp only [Sigma.mk.injEq] at same
        obtain ⟨rfl, sameAnswer⟩ := same
        rw [eq_of_heq sameAnswer]
        exact (verdict_execute subj s).trans (perm.admits _ perf rfl)
      · exact prev ans old

/-- Once a re-check that began after the access was gone has finished, every request of the subject
was refused by its own check, or is over, or is in the registry with its token fired; and no request
of a subject whose checks pass is cancelled. -/
theorem live_streams_end_with_their_access (world : World) (empty : world.streams.rows = [])
    (first rest : List (Move Task)) :
    let reached : State := (Config.initial world).run system first
    let begun := reached.step system (.start .reauthorizeLiveStreams)
    let later := begun.run system rest
    (∀ subject, Config.Along system (fun c _ => c.state.allows subject = false) begun rest →
      (later.threads[reached.threads.length]?.bind Thread.result).isSome = true →
      ∀ th ∈ later.threads, th.task = .watch subject → ∀ ans, th.result = some ans →
          ans = none ∨ ∃ id, ans = some id ∧ (Over id later ∨ ∃ stream,
            later.state.streams.find? id = some stream ∧ stream.cancelled = true)) ∧
    ∀ subject,
      Config.Along system (Config.Performing system (passesChecks subject)) (Config.initial world)
        (first ++ .start .reauthorizeLiveStreams :: rest) →
      ∀ stream ∈ later.state.streams.rows, stream.subject = subject → stream.cancelled = false := by
  intro reached begun later
  have whole : (Config.initial world : State).run system
      (first ++ .start .reauthorizeLiveStreams :: rest) = later := run_append _ _ _ _
  constructor
  · intro subject denied fin th mem isWatch ans hasResult
    rcases ans with - | id
    · exact .inl rfl
    have known : ∀ moves, Config.Along system
        (fun c _ => c.state.allows subject = false) begun moves →
        Follows (begun.run system moves) := by
      intro moves _
      have follows : Follows ((Config.initial world).run system
          (first ++ .start .reauthorizeLiveStreams :: moves)) :=
        run_follows _ _ Task.program_follows world _
      rwa [run_append] at follows
    have early : th ∈ reached.threads := by
      have among := admitted_before_denial (along_and_invariant _ known rest denied) th
        mem isWatch id hasResult
      rcases mem_append.mp among with old | new
      · exact old
      · rw [mem_singleton.mp new] at isWatch
        cases isWatch
    have reg := (registered_of_admitted world first early isWatch hasResult).1
    have kept := (registered_of_admitted world _ (whole ▸ mem) isWatch hasResult).2
    rw [whole] at kept
    obtain ⟨res, isResult⟩ := isSome_iff_exists.mp fin
    obtain ⟨-, -, settled⟩ := run_ensures Keeps.refl Keeps.trans
      (fun _ _ _ _ keeps => Pending.mono keeps) reached .reauthorizeLiveStreams rest
      (fun c _ => c.state.allows subject = false)
      (fun c _ _ stmt _ _ _ => keeps_execute stmt c.state)
      (fun _ _ _ isDenied _ => isDenied) denied (reauthorizeLiveStreams_meets reg) isResult
    refine .inr ⟨id, rfl, kept.imp_right fun found => ?_⟩
    obtain ⟨stream, isStream⟩ := isSome_iff_exists.mp found
    have fired := settled.2.resolve_right not_mem_nil
    rw [World.NotLive, isStream] at fired
    exact ⟨stream, isStream, fired⟩
  · intro subject passes stream mem its
    have untouched : world.Untouched subject := by
      intro id stream found
      have stored := mem_of_find? found
      rw [empty] at stored
      cases stored
    have still := untouched_run world untouched _ passes
    rw [whole] at still
    exact still stream.id stream (find?_of_mem mem) its

def site : Access.Target where
  id := 5
  name := "site"
  protocol := .http
  isPublic := true
  requireApproval := false

def oneUser : World where
  directory :=
    { users := (Sql.Table.empty.insert ⟨7, "alice"⟩).2
      targets := (Sql.Table.empty.insert site).2
      userRoles := (Sql.Table.empty.insert ⟨7, 3, none, none⟩).2
      targetRoles := [⟨5, 3⟩] }
  clock := 0
  reachable := true
  nextId := 0
  streams := .empty

def requestsBeforeRevocation : List (Move Task) :=
  [.start (.watch (7, 5, .roleBased)), .advance 0, .advance 0,
   .start (.watch (7, 5, .publicBypass)), .advance 1, .advance 1,
   .start (.watch (7, 5, .roleBased)), .advance 2,
   .start (.administer (.removeUserRole 7 3)), .advance 3]

def recheckAfterRevocation : List (Move Task) :=
  [.advance 4, .advance 2, .advance 2, .advance 4, .advance 4, .advance 4]

theorem live_streams_end_with_their_access_by_role :
    let reached : State := (Config.initial oneUser).run system requestsBeforeRevocation
    let begun := reached.step system (.start .reauthorizeLiveStreams)
    let later := begun.run system recheckAfterRevocation
    reached.threads.map Thread.result = [some (some 0), some (some 1), none, some none] ∧
      [0, 1].map (fun id => (later.state.streams.find? id).map LiveStream.cancelled) =
        [some true, some false] ∧
      (∀ th ∈ later.threads, th.task = .watch (7, 5, .roleBased) → ∀ ans, th.result = some ans →
          ans = none ∨ ∃ id, ans = some id ∧ (Over id later ∨ ∃ stream,
            later.state.streams.find? id = some stream ∧ stream.cancelled = true)) ∧
      ∀ stream ∈ later.state.streams.rows, stream.subject = (7, 5, .publicBypass) →
        stream.cancelled = false :=
  ⟨by decide +kernel, by decide +kernel,
    (live_streams_end_with_their_access oneUser rfl requestsBeforeRevocation
      recheckAfterRevocation).1 (7, 5, .roleBased) (by decide +kernel) (by decide +kernel),
    (live_streams_end_with_their_access oneUser rfl requestsBeforeRevocation
      recheckAfterRevocation).2 (7, 5, .publicBypass) (by decide +kernel)⟩

end Warpgate.Streams
