/-
This file models the storage of browser sessions, for the rows that back one user session.
-/

import Mathlib.Algebra.Order.Ring.Int
import Warpgate.Basic
import Warpgate.Concurrent.Locks
import Warpgate.Concurrent.Rely
import Warpgate.Sql.Table

namespace Warpgate.Storage

open Concurrent

section

inductive Backend
  | sqlite
  | postgres
  | mysql
  deriving DecidableEq, Repr

/-! ### Rows and statements -/

structure Row where
  id : String
  updated : OffsetDateTime
  expires : Option OffsetDateTime
  deriving DecidableEq, Repr

namespace Row

def isExpired (now : OffsetDateTime) (maxAge : Duration) (row : Row) : Bool :=
  row.expires.any (· < now) ∨ row.updated < now - maxAge

def touch (now : OffsetDateTime) (row : Row) : Row := { row with updated := now }

def replacing (row stored : Row) : Row := { row with id := stored.id }

end Row

abbrev Rows := Sql.Table Row Row.id

structure State where
  rows : Rows
  committed : Rows
  ended : Bool
  locked : Bool
  dirty : Bool
  stored : Bool
  rotated : List String
  clock : OffsetDateTime

def State.quiet (rows : Rows) (ended : Bool) (clock : OffsetDateTime) : State where
  rows := rows
  committed := rows
  ended := ended
  locked := false
  dirty := false
  stored := false
  rotated := []
  clock := clock

inductive Note
  | plain
  | rotated (newId : String)
  | writtenBack (newId : String)
  deriving DecidableEq, Repr

inductive Statement
  | now
  | elapse (period : Duration)
  | expired (now : OffsetDateTime) (maxAge : Duration)
  | lookup (id : String)
  | snapshot (id : String)
  | lock
  | reread (id : String)
  | isEnded
  | delete (id : String)
  | drop (id : String)
  | count
  | markEnded
  | put (loaded : Bool) (row : Row)
  | commit (note : Note)
  | touch (now : OffsetDateTime)
  deriving DecidableEq, Repr

@[reducible] def Statement.Outcome : Statement → Type
  | now => OffsetDateTime
  | expired _ _ => List Row
  | lookup _ => Option Row
  | snapshot _ => Rows
  | reread _ => Option Row
  | isEnded => Bool
  | count => Nat
  | _ => Unit

variable (backend : Backend)

def Statement.ready : Statement → State → Bool
  | lock, state => !state.locked
  | touch _, state =>
    match backend with
    | .sqlite => !state.locked
    | .postgres | .mysql => !state.dirty
  | _, _ => true

def Note.apply (rotated : List String) : Note → List String
  | .plain => rotated
  | .rotated newId => rotated ++ [newId]
  | .writtenBack newId => rotated.erase newId

namespace State

def delete (state : State) (id : String) : State :=
  { state with rows := state.rows.delete fun row => row.id = id, dirty := true }

def put (state : State) (loaded : Bool) (row : Row) : State :=
  { state with
    rows :=
      if loaded then
        state.rows.update (fun stored => stored.id = row.id) row.replacing fun _ => rfl
      else state.rows.upsert row
    dirty := true
    stored := true }

def commit (state : State) (note : Note) : State :=
  { state with
    committed := state.rows
    locked := false
    dirty := false
    stored := false
    rotated := note.apply state.rotated }

def touch (state : State) (now : OffsetDateTime) : State :=
  { state with
    rows := state.rows.update (fun _ => true) (Row.touch now) fun _ => rfl
    committed := state.committed.update (fun _ => true) (Row.touch now) fun _ => rfl }

end State

def Statement.execute : (statement : Statement) → State → statement.Outcome × State
  | now, state => (state.clock, state)
  | elapse period, state => ((), { state with clock := state.clock + period })
  | expired moment maxAge, state => (state.committed.select (Row.isExpired moment maxAge), state)
  | lookup id, state => (state.committed.find? id, state)
  | snapshot _, state => (state.committed, state)
  | lock, state => ((), { state with locked := true })
  | reread id, state => (state.rows.find? id, state)
  | isEnded, state => (state.ended, state)
  | delete id, state => ((), state.delete id)
  | drop id, state => ((), state.delete id)
  | count, state => (state.rows.rows.length, state)
  | markEnded, state => ((), { state with ended := true })
  | put loaded row, state => ((), state.put loaded row)
  | commit note, state => ((), state.commit note)
  | touch stamp, state => ((), state.touch stamp)

abbrev Action (Result : Type) := Program Statement Statement.Outcome Result

abbrev act (statement : Statement) : Action statement.Outcome :=
  Program.perform statement Program.done

/-! ### Programs -/

def endLast (remaining : Nat) : Action Unit :=
  if remaining = 0 then do
    act .markEnded
    act (.commit .plain)
  else act (.commit .plain)

variable (id : String)

/-- A view is counted without the row. InnoDB still counts the row there if another transaction has
deleted it since the snapshot, which is left out here. -/
def removeRow (view : Option Rows) : Action Unit := do
  act (.delete id)
  match view with
  | some view => endLast (view.delete fun row => row.id = id).rows.length
  | none => endLast (← act .count)

variable (onlyIfExpired : Option (OffsetDateTime × Duration))

def removeCurrent (view : Option Rows) : Option Row → Action Unit
  | none => act (.commit .plain)
  | some row =>
    if onlyIfExpired.any fun limit => !row.isExpired limit.1 limit.2 then act (.commit .plain)
    else removeRow id view

def removeLocked : Option Rows → Action Unit
  | some view => removeCurrent id onlyIfExpired (some view) (view.find? id)
  | none => do removeCurrent id onlyIfExpired none (← act (.reread id))

def removeStoredRow : Action Unit :=
  match backend with
  | .sqlite => do
    match ← act (.lookup id) with
    | none => pure ()
    | some _ =>
      act .lock
      match ← act (.reread id) with
      | none => act (.commit .plain)
      | some _ => removeLocked id onlyIfExpired none
  | .postgres => do
    match ← act (.lookup id) with
    | none => pure ()
    | some _ =>
      act .lock
      removeLocked id onlyIfExpired none
  | .mysql => do
    let view ← act (.snapshot id)
    match view.find? id with
    | none => pure ()
    | some _ =>
      act .lock
      removeLocked id onlyIfExpired (some view)

def updateSession (loaded : Bool) (expires : Option Duration) (note : Note) : Action Unit := do
  let now ← act .now
  act .lock
  if ← act .isEnded then act (.commit note)
  else
    act (.put loaded ⟨id, now, expires.map (now + ·)⟩)
    act (.commit note)

def rotateSession (id newId : String) (expires : Option Duration) : Action Unit := do
  act .lock
  act (.drop id)
  act (.commit (.rotated newId))
  removeStoredRow backend id none
  updateSession newId false expires (.writtenBack newId)

def removeExpired (backend : Backend) (now : OffsetDateTime) (maxAge : Duration) :
    List Row → Action Unit
  | [] => pure ()
  | row :: rows => do
    removeStoredRow backend row.id (some (now, maxAge))
    removeExpired backend now maxAge rows

def gc (maxAge : Duration) : Action Unit := do
  let now ← act .now
  removeExpired backend now maxAge (← act (.expired now maxAge))

def touch : Action Unit := do
  act (.touch (← act .now))

inductive Task
  | gc (maxAge : Duration)
  | removeSession (id : String)
  | updateSession (id : String) (loaded : Bool) (expires : Option Duration)
  | rotateSession (id newId : String) (expires : Option Duration)
  | touch
  | elapse (period : Duration)
  deriving DecidableEq, Repr

def Task.program : Task → Action Unit
  | gc maxAge => Storage.gc backend maxAge
  | removeSession id => removeStoredRow backend id none
  | updateSession id loaded expires => Storage.updateSession id loaded expires .plain
  | rotateSession id newId expires => Storage.rotateSession backend id newId expires
  | touch => Storage.touch
  | elapse period => act (.elapse period)

def system : System Task Statement Statement.Outcome State Unit where
  program := Task.program backend
  execute := Statement.execute
  ready := Statement.ready backend

abbrev Reached := Config Task Statement Statement.Outcome State Unit

abbrev runFrom (rows : Rows) (ended : Bool) (clock : OffsetDateTime)
    (moves : List (Move Task)) : Reached :=
  (Config.initial (State.quiet rows ended clock)).run (system backend) moves

abbrev Running := Thread Task Statement Statement.Outcome Unit

abbrev Seen := Event Statement Statement.Outcome

/-! ### The lock on a parent -/

def parentLock : Lock Statement State where
  takes statement :=
    match statement with
    | .lock => true
    | _ => false
  gives statement :=
    match statement with
    | .commit _ => true
    | _ => false
  needs statement :=
    match statement with
    | .reread _ | .isEnded | .delete _ | .drop _ | .count | .markEnded | .put _ _ => true
    | _ => false
  taken := State.locked

abbrev holds (history : List Seen) : Bool := holding parentLock.takes parentLock.gives history

variable {history hist : List Seen} {stmt : Statement}

theorem requires_lock (free : holds hist = false) : parentLock.requires hist .lock := by
  refine ⟨fun _ => free, ?_⟩
  rintro (given | needed)
  · cases given
  · cases needed

theorem requires_held (other : parentLock.takes stmt = false) (held : holds hist = true) :
    parentLock.requires hist stmt := by
  refine ⟨fun taken => ?_, fun _ => held⟩
  rw [other] at taken
  cases taken

theorem requires_plain (untaken : parentLock.takes stmt = false)
    (kept : parentLock.gives stmt = false) (free : parentLock.needs stmt = false) :
    parentLock.requires hist stmt := by
  refine ⟨fun taken => ?_, ?_⟩
  · rw [untaken] at taken
    cases taken
  · grind

section Follows

variable {history hist : List Seen}

theorem commit_follows (note : Note) (held : holds hist = true) :
    (act (.commit note)).Follows parentLock.requires parentLock.ensures hist :=
  ⟨requires_held rfl held, fun _ => rfl⟩

theorem endLast_follows (remaining : Nat) (held : holds hist = true) :
    (endLast remaining).Follows parentLock.requires parentLock.ensures hist := by
  rw [endLast]
  split
  · exact ⟨requires_held rfl held, fun _ => commit_follows .plain held⟩
  · exact commit_follows .plain held

variable (backend : Backend) (id : String) (onlyIfExpired lim : Option (OffsetDateTime × Duration))
  (view : Option Rows)

theorem removeRow_follows (held : holds hist = true) :
    (removeRow id view).Follows parentLock.requires parentLock.ensures hist := by
  refine ⟨requires_held rfl held, fun _ => ?_⟩
  cases view with
  | some view => exact endLast_follows _ held
  | none => exact ⟨requires_held rfl held, fun remaining => endLast_follows remaining held⟩

theorem removeCurrent_follows (current : Option Row) (held : holds history = true) :
    (removeCurrent id onlyIfExpired view current).Follows parentLock.requires parentLock.ensures
      history := by
  cases current with
  | none => exact commit_follows .plain held
  | some row => grind [removeCurrent, commit_follows, removeRow_follows]

theorem removeLocked_follows (held : holds hist = true) :
    (removeLocked id lim view).Follows parentLock.requires parentLock.ensures hist := by
  cases view with
  | some view => exact removeCurrent_follows id lim _ _ held
  | none =>
    exact ⟨requires_held rfl held, fun cur => removeCurrent_follows id lim none cur held⟩

theorem removeStoredRow_follows (free : holds history = false) :
    (removeStoredRow backend id lim).Follows parentLock.requires parentLock.ensures history := by
  cases backend with
  | sqlite =>
    refine ⟨requires_plain rfl rfl rfl, fun found => ?_⟩
    cases found with
    | none => exact free
    | some r =>
      refine ⟨requires_lock free, fun _ => ⟨requires_held rfl rfl, fun initial => ?_⟩⟩
      cases initial with
      | none => exact commit_follows .plain rfl
      | some r => exact removeLocked_follows id lim none rfl
  | postgres =>
    refine ⟨requires_plain rfl rfl rfl, fun found => ?_⟩
    cases found with
    | none => exact free
    | some r => exact ⟨requires_lock free, fun _ => removeLocked_follows id lim none rfl⟩
  | mysql =>
    refine ⟨requires_plain rfl rfl rfl, fun view => ?_⟩
    show (match Sql.Table.find? view id with
      | none => pure ()
      | some _ => act .lock >>= fun _ => removeLocked id lim (some view)).Follows _ _ _
    cases view.find? id with
    | none => exact free
    | some r => exact ⟨requires_lock free, fun _ => removeLocked_follows id lim (some view) rfl⟩

theorem updateSession_follows (loaded : Bool) (expires : Option Duration) (note : Note)
    (free : holds history = false) :
    (updateSession id loaded expires note).Follows parentLock.requires parentLock.ensures
      history := by
  refine ⟨requires_plain rfl rfl rfl, fun now => ⟨requires_lock free, fun _ => ?_⟩⟩
  refine ⟨requires_held rfl rfl, fun ended => ?_⟩
  cases ended with
  | true => exact commit_follows note rfl
  | false => exact ⟨requires_held rfl rfl, fun _ => commit_follows note rfl⟩

theorem removeExpired_follows (now : OffsetDateTime) (maxAge : Duration) (rows : List Row)
    (free : holds history = false) :
    (removeExpired backend now maxAge rows).Follows parentLock.requires parentLock.ensures
      history := by
  induction rows generalizing history with
  | nil => exact free
  | cons row rows ih => exact (removeStoredRow_follows backend row.id _ free).seq fun _ _ => ih

theorem program_follows (task : Task) :
    (task.program backend).Follows parentLock.requires parentLock.ensures [] := by
  cases task with
  | gc maxAge =>
    refine ⟨requires_plain rfl rfl rfl, fun now => ⟨requires_plain rfl rfl rfl, fun rows => ?_⟩⟩
    exact removeExpired_follows backend now maxAge rows rfl
  | removeSession id => exact removeStoredRow_follows backend id none rfl
  | updateSession id loaded expires => exact updateSession_follows id loaded expires .plain rfl
  | rotateSession id newId expires =>
    refine ⟨requires_lock rfl, fun _ => ⟨requires_held rfl rfl, fun _ => ?_⟩⟩
    refine ⟨requires_held rfl rfl, fun _ => ?_⟩
    refine (removeStoredRow_follows backend id none rfl).seq fun _ _ free => ?_
    exact updateSession_follows newId false expires (.writtenBack newId) free
  | touch =>
    exact ⟨requires_plain rfl rfl rfl, fun now => ⟨requires_plain rfl rfl rfl, fun _ => rfl⟩⟩
  | elapse period => exact ⟨requires_plain rfl rfl rfl, fun _ => rfl⟩

end Follows

theorem parentLock_guards (be : Backend) : parentLock.Guards (system be) where
  programs := program_follows be
  waits stmt state taken ready := by
    cases stmt with
    | lock => exact (Bool.not_eq_true' _).mp ready
    | _ => cases taken
  takes stmt state taken := by
    cases stmt with
    | lock => rfl
    | _ => cases taken
  gives stmt state given := by
    cases stmt with
    | commit note => rfl
    | _ => cases given
  keeps stmt state untaken kept := by
    cases stmt with
    | lock => cases untaken
    | commit note => cases kept
    | _ => rfl

end

open List Sql.Table Config Option Statement

/-! ### Removals next to other tasks -/

def deciding : List Seen → Bool
  | [] => false
  | ⟨.commit _, _⟩ :: _ => false
  | ⟨.reread _, row⟩ :: earlier => Option.isSome row || deciding earlier
  | ⟨.snapshot id, view⟩ :: _ => (Sql.Table.find? view id).isSome
  | _ :: earlier => deciding earlier

def deleted : List Seen → Option String
  | [] => none
  | ⟨.lock, _⟩ :: _ => none
  | ⟨.delete id, _⟩ :: _ => some id
  | _ :: earlier => deleted earlier

def Task.isGc : Task → Bool
  | .gc _ => true
  | _ => false

def disturbs (state : State) (task : Task) : Statement → Bool
  | .commit _ => state.stored
  | .touch _ => task.isGc
  | _ => false

def isDeciding (thread : Running) : Bool := thread.program.head.isSome && deciding thread.history

def isDelete : Statement → Bool
  | .delete _ => true
  | _ => false

def Orderly (backend : Backend) (reached : Reached) (move : Move Task) : Prop :=
  Config.Against (system backend) (fun thread _ statement =>
      isDeciding thread = true → disturbs reached.state thread.task statement = false)
    reached move ∧
  Config.Performing (system backend) (fun reached _ statement =>
      isDelete statement = true → reached.state.rotated = []) reached move

instance Orderly.decidable (backend : Backend) (reached : Reached) (move : Move Task) :
    Decidable (Orderly backend reached move) :=
  inferInstanceAs (Decidable (_ ∧ _))

structure Tidy (state : State) : Prop where
  clean : state.locked = false → state.dirty = false
  same : state.dirty = false → state.rows = state.committed
  fewer : state.stored = false → ∀ row ∈ state.rows.rows, row ∈ state.committed.rows

variable {hist : List Seen} {be : Backend} {s : State} {stmt : Statement} {t : Task}
  {pre post : State}

theorem Tidy.delete (tidy : Tidy s) (locked : s.locked = true) (id : String) :
    Tidy (s.delete id) := by
  refine ⟨fun free => ?_, nofun, fun unstored r mem => ?_⟩
  · rw [show s.locked = false from free] at locked
    cases locked
  · exact tidy.fewer unstored r (mem_delete mem)

theorem Tidy.put (locked : s.locked = true) (loaded : Bool) (r : Row) : Tidy (s.put loaded r) := by
  refine ⟨fun free => ?_, nofun, nofun⟩
  rw [show s.locked = false from free] at locked
  cases locked

theorem Tidy.touch (tidy : Tidy s) (clean : s.dirty = false) (now : OffsetDateTime) :
    Tidy (s.touch now) := by
  refine ⟨fun _ => clean, fun _ => ?_, fun _ r mem => ?_⟩
  · rw [State.touch]
    dsimp only
    rw [tidy.same clean]
  · rw [State.touch] at mem ⊢
    dsimp only at mem ⊢
    rwa [tidy.same clean] at mem

theorem clean_of_ready {now : OffsetDateTime} (tidy : Tidy s)
    (ready : ready be (.touch now) s = true) : s.dirty = false := by
  cases be with
  | sqlite => exact tidy.clean ((Bool.not_eq_true' _).mp ready)
  | postgres | mysql => exact (Bool.not_eq_true' _).mp ready

theorem Tidy.execute (tidy : Tidy s) (ready : ready be stmt s = true)
    (locked : parentLock.needs stmt = true → s.locked = true) : Tidy (stmt.execute s).2 := by
  cases stmt with
  | delete id | drop id => exact tidy.delete (locked rfl) id
  | put loaded r => exact Tidy.put (locked rfl) loaded r
  | commit note => exact ⟨fun _ => rfl, fun _ => rfl, fun _ _ mem => mem⟩
  | touch now => exact tidy.touch (clean_of_ready tidy ready) now
  | lock => exact ⟨nofun, tidy.same, tidy.fewer⟩
  | elapse period | markEnded => exact ⟨tidy.clean, tidy.same, tidy.fewer⟩
  | _ => exact tidy

structure Steady (task : Task) (history : List Seen) (before after : State) : Prop where
  clock : before.clock ≤ after.clock
  held : holds history = true → after.dirty = before.dirty ∧ after.rotated = before.rotated ∧
    after.rows.rows.map Row.id = before.rows.rows.map Row.id
  frozen : holds history = true → before.dirty = true →
    after.rows = before.rows ∧ after.committed = before.committed
  decided : holds history = true → deciding history = true → task.isGc = true →
    after.rows = before.rows
  window : holds history = false → deciding history = true → ∀ row ∈ after.committed.rows,
    ∃ old ∈ before.committed.rows, old.id = row.id ∧ (task.isGc = true → old = row)

theorem Steady.of_same (clock : pre.clock ≤ post.clock) (dirty : post.dirty = pre.dirty)
    (rotated : post.rotated = pre.rotated) (rows : post.rows = pre.rows)
    (committed : post.committed = pre.committed) : Steady t hist pre post where
  clock := clock
  held _ := ⟨dirty, rotated, by rw [rows]⟩
  frozen _ _ := ⟨rows, committed⟩
  decided _ _ _ := rows
  window _ _ r mem := ⟨r, committed ▸ mem, rfl, fun _ => rfl⟩

theorem Steady.refl (t : Task) (hist : List Seen) (s : State) : Steady t hist s s :=
  Steady.of_same (le_refl _) rfl rfl rfl rfl

theorem Steady.trans {first second third : State} (steady : Steady t hist first second)
    (steady' : Steady t hist second third) : Steady t hist first third where
  clock := steady.clock.trans steady'.clock
  held isHeld := by
    obtain ⟨dirty, rotated, ids⟩ := steady.held isHeld
    obtain ⟨dirty', rotated', ids'⟩ := steady'.held isHeld
    exact ⟨dirty'.trans dirty, rotated'.trans rotated, ids'.trans ids⟩
  frozen isHeld isDirty := by
    obtain ⟨rows, committed⟩ := steady.frozen isHeld isDirty
    obtain ⟨rows', committed'⟩ := steady'.frozen isHeld ((steady.held isHeld).1.trans isDirty)
    exact ⟨rows'.trans rows, committed'.trans committed⟩
  decided isHeld isDeciding isGc :=
    (steady'.decided isHeld isDeciding isGc).trans (steady.decided isHeld isDeciding isGc)
  window free isDeciding r mem := by
    obtain ⟨between, isBetween, sameId, same⟩ := steady'.window free isDeciding r mem
    obtain ⟨old, isOld, sameId', same'⟩ := steady.window free isDeciding between isBetween
    exact ⟨old, isOld, sameId'.trans sameId, fun isGc => (same' isGc).trans (same isGc)⟩

theorem steady_execute (tidy : Tidy s) (ready : ready be stmt s = true)
    (apart : holds hist = true → parentLock.gives stmt = false ∧ parentLock.needs stmt = false)
    (undisturbed : deciding hist = true → disturbs s t stmt = false) :
    Steady t hist s (stmt.execute s).2 := by
  -- a statement that writes the rows needs the lock, and shows nothing before its commit
  have writes : ∀ {rows : Rows} {stored : Bool}, parentLock.needs stmt = true →
      Steady t hist s { s with rows := rows, dirty := true, stored := stored } := by
    intro rows stored needs
    have unheld : ¬ holds hist = true := fun isHeld => by
      rw [(apart isHeld).2] at needs
      cases needs
    exact ⟨le_refl _, fun isHeld => absurd isHeld unheld, fun isHeld => absurd isHeld unheld,
      fun isHeld => absurd isHeld unheld, fun _ _ r mem => ⟨r, mem, rfl, fun _ => rfl⟩⟩
  cases stmt with
  | delete id | drop id | put loaded r => exact writes rfl
  | elapse period =>
    refine Steady.of_same ?_ rfl rfl rfl rfl
    exact le_add_of_nonneg_right (Int.natCast_nonneg period)
  | lock | markEnded => exact Steady.of_same (le_refl _) rfl rfl rfl rfl
  | commit note =>
    have unheld : ¬ holds hist = true := fun isHeld => by cases (apart isHeld).1
    refine ⟨le_refl _, fun isHeld => absurd isHeld unheld, fun isHeld => absurd isHeld unheld,
      fun isHeld => absurd isHeld unheld, fun _ isDeciding r mem => ?_⟩
    exact ⟨r, tidy.fewer (undisturbed isDeciding) r mem, rfl, fun _ => rfl⟩
  | touch now =>
    have clean := clean_of_ready tidy ready
    refine ⟨le_refl _, fun _ => ⟨rfl, rfl, map_map⟩, fun _ isDirty => ?_,
      fun _ isDeciding isGc => ?_, fun _ isDeciding r mem => ?_⟩
    · rw [clean] at isDirty
      cases isDirty
    · rw [show t.isGc = false from undisturbed isDeciding] at isGc
      cases isGc
    · obtain ⟨old, isOld, rfl⟩ := mem_map.mp mem
      refine ⟨old, isOld, rfl, fun isGc => ?_⟩
      rw [show t.isGc = false from undisturbed isDeciding] at isGc
      cases isGc
  | _ => exact Steady.refl t hist s

def remover (task : Task) : Contract Statement Statement.Outcome State where
  rely history _ := Steady task history
  requires history statement state :=
    match statement with
    | .markEnded => state.rows.rows = [] ∧ state.rotated = []
    | .commit _ => ∀ maxAge, task = .gc maxAge → ∀ id, deleted history = some id →
        ∀ row, state.committed.find? id = some row → row.isExpired state.clock maxAge = true
    | _ => True
  refl history _ := Steady.refl task history
  trans _ _ _ _ _ := Steady.trans

structure Assumed (backend : Backend) (statement : Statement) (state : State) : Prop where
  tidy : Tidy state
  ready : Statement.ready backend statement state = true
  alone : isDelete statement = true → state.rotated = []

variable {age : Duration}

theorem isExpired_mono {r : Row} {now later : OffsetDateTime}
    (ord : now ≤ later) (expired : r.isExpired now age = true) : r.isExpired later age = true := by
  simp only [Row.isExpired, decide_eq_true_eq, Option.any_eq_true] at expired ⊢
  rcases expired with ⟨exp, isExpires, past⟩ | old
  · exact .inl ⟨exp, isExpires, lt_of_lt_of_le past ord⟩
  · exact .inr (lt_of_lt_of_le old (Int.sub_le_sub_right ord _))

def Doomed (task : Task) (id : String) (state : State) : Prop :=
  ∀ maxAge, task = .gc maxAge → ∀ row, state.rows.find? id = some row →
    row.isExpired state.clock maxAge = true

def Covered (view : Option Rows) (state : State) : Prop :=
  ∀ rows ∈ view, ∀ row ∈ state.rows.rows, row.id ∈ rows.rows.map Row.id

theorem Doomed.steady {id : String} (doomed : Doomed t id pre) (held : holds hist = true)
    (decided : deciding hist = true) (steady : Steady t hist pre post) : Doomed t id post := by
  intro age isGc r found
  rw [steady.decided held decided (by rw [isGc]; rfl)] at found
  exact isExpired_mono steady.clock (doomed age isGc r found)

theorem Covered.steady {view : Option Rows} (covered : Covered view pre)
    (held : holds hist = true) (steady : Steady t hist pre post) : Covered view post := by
  intro rows isView r mem
  have listed : r.id ∈ post.rows.rows.map Row.id := mem_map_of_mem mem
  rw [(steady.held held).2.2] at listed
  obtain ⟨old, isOld, sameId⟩ := mem_map.mp listed
  rw [← sameId]
  exact covered rows isView old isOld

section Meets

variable {t : Task} {s : State} {since : OffsetDateTime}

def Between (since : OffsetDateTime) (history : List Seen) (_ : Unit) (state : State) : Prop :=
  holds history = false ∧ since ≤ state.clock

abbrev Removes (backend : Backend) (task : Task) {Result : Type} (program : Action Result)
    (ensures : List Seen → Result → State → Prop) : List Seen → State → Prop :=
  fun history state =>
    program.Meets Statement.execute (Assumed backend) (remover task) ensures history state

theorem commit_meets (note : Note) (past : since ≤ s.clock)
    (expired : ∀ age, t = .gc age → ∀ id, deleted hist = some id →
      s.dirty = true ∧ holds hist = true ∧
      ∀ r, s.committed.find? id = some r → r.isExpired s.clock age = true) :
    Removes be t (act (.commit note)) (Between since) hist s := by
  intro later relied _
  refine ⟨fun age isGc id isDeleted r found => ?_, rfl, past.trans relied.clock⟩
  obtain ⟨isDirty, held, isExpired⟩ := expired age isGc id isDeleted
  rw [(relied.frozen held isDirty).2] at found
  exact isExpired_mono relied.clock (isExpired r found)

theorem endLast_meets {remaining : Nat} (held : holds hist = true) (isDirty : s.dirty = true)
    (past : since ≤ s.clock) (alone : s.rotated = []) (last : remaining = 0 → s.rows.rows = [])
    (expired : ∀ age, t = .gc age → ∀ id, deleted hist = some id →
      ∀ r, s.committed.find? id = some r → r.isExpired s.clock age = true) :
    Removes be t (endLast remaining) (Between since) hist s := by
  rw [endLast]
  split
  case isTrue isLast =>
    intro later relied _
    obtain ⟨rows, committed⟩ := relied.frozen held isDirty
    obtain ⟨sameDirty, sameRotated, -⟩ := relied.held held
    refine ⟨⟨?_, sameRotated.trans alone⟩, ?_⟩
    · rw [rows]
      exact last isLast
    · refine commit_meets .plain (past.trans relied.clock) fun age isGc id isDeleted => ?_
      refine ⟨sameDirty.trans isDirty, held, fun r found => ?_⟩
      have found' : later.committed.find? id = some r := found
      rw [committed] at found'
      exact isExpired_mono relied.clock (expired age isGc id isDeleted r found')
  case isFalse => grind [commit_meets]

variable {view : Option Rows}

theorem removeRow_meets {id : String} (held : holds hist = true)
    (decided : deciding hist = true) (clean : s.dirty = false) (past : since ≤ s.clock)
    (doomed : Doomed t id s) (covered : Covered view s) :
    Removes be t (removeRow id view) (Between since) hist s := by
  intro first relied here
  refine ⟨trivial, ?_⟩
  have wasClean : first.dirty = false := (relied.held held).1.trans clean
  have expired : ∀ age, t = .gc age → ∀ r, first.committed.find? id = some r →
      r.isExpired first.clock age = true := by
    rw [← here.tidy.same wasClean]
    exact doomed.steady held decided relied
  have rest := covered.steady held relied
  have pastFirst := past.trans relied.clock
  cases view with
  | some view =>
    refine endLast_meets held rfl pastFirst (here.alone rfl) ?_ ?_
    · intro isLast
      refine eq_nil_iff_forall_not_mem.mpr fun r mem => ?_
      obtain ⟨stored, others⟩ := mem_filter.mp mem
      obtain ⟨old, isOld, sameId⟩ := mem_map.mp (rest view rfl r stored)
      have kept : old ∈ (view.delete fun r => r.id = id).rows := by
        refine mem_filter.mpr ⟨isOld, ?_⟩
        show (!decide (old.id = id)) = true
        rw [sameId]
        exact others
      rw [length_eq_zero_iff.mp isLast] at kept
      cases kept
    · rintro age isGc _ ⟨⟩ r found
      exact expired age isGc r found
  | none =>
    intro second relied' here'
    refine ⟨trivial, ?_⟩
    obtain ⟨rows, committed⟩ := relied'.frozen held rfl
    obtain ⟨sameDirty, sameRotated, -⟩ := relied'.held held
    refine endLast_meets held sameDirty (pastFirst.trans relied'.clock)
      (sameRotated.trans (here.alone rfl)) (fun isLast => length_eq_zero_iff.mp isLast) ?_
    rintro age isGc _ ⟨⟩ r found
    have found' : second.committed.find? id = some r := found
    rw [committed] at found'
    exact isExpired_mono relied'.clock (expired age isGc r found')

def Read (task : Task) (id : String) (current : Option Row) (state : State) : Prop :=
  task.isGc = true → ∀ row, state.rows.find? id = some row → current = some row

def Limits (task : Task) (onlyIfExpired : Option (OffsetDateTime × Duration))
    (since : OffsetDateTime) : Prop :=
  ∀ maxAge, task = .gc maxAge → onlyIfExpired = some (since, maxAge)

variable {id : String} {lim : Option (OffsetDateTime × Duration)}

theorem removeCurrent_meets {cur : Option Row} (held : holds hist = true)
    (undeleted : deleted hist = none) (decided : cur.isSome = true → deciding hist = true)
    (clean : s.dirty = false) (past : since ≤ s.clock)
    (limits : Limits t lim since) (read : Read t id cur s) (covered : Covered view s) :
    Removes be t (removeCurrent id lim view cur) (Between since) hist s := by
  have leaves : Removes be t (act (.commit .plain)) (Between since) hist s := by
    refine commit_meets .plain past fun _ _ id isDeleted => ?_
    rw [undeleted] at isDeleted
    cases isDeleted
  cases cur with
  | none => exact leaves
  | some r =>
    rw [removeCurrent]
    split
    case isTrue => exact leaves
    case isFalse wanted =>
      refine removeRow_meets held (decided rfl) clean past (fun age isGc stored found => ?_) covered
      obtain rfl := some.inj (read (by rw [isGc]; rfl) stored found)
      rw [limits age isGc] at wanted
      exact isExpired_mono past (by simpa using wanted)

theorem removeLocked_meets (held : holds hist = true) (undeleted : deleted hist = none)
    (clean : s.dirty = false) (past : since ≤ s.clock) (limits : Limits t lim since) :
    Removes be t (removeLocked id lim none) (Between since) hist s := by
  intro later relied _
  refine ⟨trivial, removeCurrent_meets held undeleted ?_ ((relied.held held).1.trans clean)
    (past.trans relied.clock) limits (fun _ _ found => found) nofun⟩
  intro isSome
  exact Bool.or_eq_true_iff.mpr (.inl isSome)

theorem removeStoredRow_meets (free : holds hist = false) (past : since ≤ s.clock)
    (limits : Limits t lim since) :
    Removes be t (removeStoredRow be id lim) (Between since) hist s := by
  cases be with
  | sqlite =>
    intro first relied _
    refine ⟨trivial, ?_⟩
    have pastFirst := past.trans relied.clock
    cases (Statement.lookup id).execute first |>.1 with
    | none => exact ⟨free, pastFirst⟩
    | some r =>
      intro second relied' here
      refine ⟨trivial, ?_⟩
      have clean := here.tidy.clean ((Bool.not_eq_true' _).mp here.ready)
      intro third relied'' _
      refine ⟨trivial, ?_⟩
      have cleanThird := (relied''.held rfl).1.trans clean
      have pastThird := (pastFirst.trans relied'.clock).trans relied''.clock
      cases (Statement.reread id).execute third |>.1 with
      | none => exact commit_meets .plain pastThird nofun
      | some r => exact removeLocked_meets rfl rfl cleanThird pastThird limits
  | postgres =>
    intro first relied _
    refine ⟨trivial, ?_⟩
    have pastFirst := past.trans relied.clock
    cases (Statement.lookup id).execute first |>.1 with
    | none => exact ⟨free, pastFirst⟩
    | some r =>
      intro second relied' here
      have clean := here.tidy.clean ((Bool.not_eq_true' _).mp here.ready)
      exact ⟨trivial, removeLocked_meets rfl rfl clean (pastFirst.trans relied'.clock) limits⟩
  | mysql =>
    intro first relied _
    refine ⟨trivial, ?_⟩
    have pastFirst := past.trans relied.clock
    simp only [Program.bind]
    cases found : find? ((Statement.snapshot id).execute first).1 id with
    | none => exact ⟨free, pastFirst⟩
    | some r =>
      have decided : deciding (⟨.snapshot id, first.committed⟩ :: hist) = true :=
        congrArg isSome found
      intro second relied' here
      refine ⟨trivial, ?_⟩
      have clean := here.tidy.clean ((Bool.not_eq_true' _).mp here.ready)
      have window := relied'.window free decided
      rw [← here.tidy.same clean] at window
      refine removeCurrent_meets rfl rfl (fun _ => decided) clean (pastFirst.trans relied'.clock)
        limits ?_ ?_
      · intro isGc stored isStored
        obtain ⟨old, isOld, -, same⟩ := window stored (mem_of_find? isStored)
        obtain rfl := same isGc
        rw [← show old.id = id from key_of_find? isStored]
        exact find?_of_mem isOld
      · rintro _ ⟨⟩ stored isStored
        obtain ⟨old, isOld, sameId, -⟩ := window stored isStored
        rw [← sameId]
        exact mem_map_of_mem isOld

theorem removal_meets (other : t.isGc = false) (free : holds hist = false) :
    Removes be t (removeStoredRow be id none) (Between s.clock) hist s := by
  refine removeStoredRow_meets free (le_refl _) ?_
  rintro age rfl
  cases other

theorem updateSession_meets {loaded : Bool} {exp : Option Duration} {note : Note}
    (other : t.isGc = false) :
    Removes be t (updateSession id loaded exp note) (fun _ _ _ => True) hist s := by
  have commits : ∀ seen reached,
      Removes be t (act (.commit note)) (fun _ _ _ => True) seen reached := by
    refine fun seen reached later _ _ => ⟨?_, trivial⟩
    rintro age rfl
    cases other
  intro first _ _
  refine ⟨trivial, fun second _ _ => ⟨trivial, fun third _ _ => ⟨trivial, ?_⟩⟩⟩
  cases (isEnded.execute third).1 with
  | true => exact commits _ _
  | false => exact fun fourth _ _ => ⟨trivial, commits _ _⟩

theorem removeExpired_meets (rows : List Row) (free : holds hist = false) (past : since ≤ s.clock) :
    Removes be (.gc age) (removeExpired be since age rows) (fun _ _ _ => True) hist s := by
  induction rows generalizing hist s with
  | nil => trivial
  | cons r rows ih =>
    have limits : Limits (.gc age) (some (since, age)) since := by
      rintro _ ⟨⟩
      rfl
    refine (removeStoredRow_meets free past limits).seq fun seen _ reached between => ?_
    exact ih between.1 between.2

theorem program_meets (be : Backend) (t : Task) (s : State) :
    Removes be t (t.program be) (fun _ _ _ => True) [] s := by
  cases t with
  | gc age =>
    intro first _ _
    refine ⟨trivial, fun second relied _ => ⟨trivial, ?_⟩⟩
    exact removeExpired_meets _ rfl relied.clock
  | removeSession id => exact (removal_meets rfl rfl).imp fun _ _ _ _ => trivial
  | updateSession id loaded exp => exact updateSession_meets rfl
  | rotateSession id newId exp =>
    refine fun first _ _ => ⟨trivial, fun second _ _ => ⟨trivial, fun third _ _ => ⟨nofun, ?_⟩⟩⟩
    exact (removal_meets rfl rfl).seq fun _ _ _ _ => updateSession_meets rfl
  | touch => exact fun _ _ _ => ⟨trivial, fun _ _ _ => ⟨trivial, trivial⟩⟩
  | elapse period => exact fun _ _ _ => ⟨trivial, trivial⟩

end Meets

section Runs

variable {rows : Rows} {ended : Bool} {clock : OffsetDateTime}

theorem run_exclusive (be : Backend) (rows : Rows) (ended : Bool) (clock : OffsetDateTime)
    (ms : List (Move Task)) : parentLock.Exclusive (runFrom be rows ended clock ms) :=
  (parentLock_guards be).run_exclusive rfl ms

theorem run_tidy (be : Backend) (rows : Rows) (ended : Bool) (clock : OffsetDateTime)
    (ms : List (Move Task)) : Tidy (runFrom be rows ended clock ms).state := by
  have along := along_and_invariant (system be)
    (fun ms _ => run_exclusive be rows ended clock ms) ms
    (along_of_forall (system be) (fun _ _ => trivial) _ _)
  refine run_invariant _ (fun reached => Tidy reached.state) (fun _ _ _ tidy => tidy) ?_ _
    ms along ⟨fun _ => rfl, fun _ => rfl, fun _ _ mem => mem⟩
  intro s pre t hist stmt next post log perm _ ready tidy
  refine tidy.execute ready fun needs => ?_
  have held := perm.2.holds (.inr needs)
  exact perm.2.taken mem_append_cons_self held

structure Settled (backend : Backend) (reached : Reached) (move : Move Task) : Prop where
  orderly : Orderly backend reached move
  exclusive : parentLock.Exclusive reached
  tidy : Tidy reached.state

theorem along_settled (ms : List (Move Task))
    (along : Along (system be) (Orderly be) (initial (State.quiet rows ended clock)) ms) :
    Along (system be) (Settled be) (initial (State.quiet rows ended clock)) ms := by
  have excluding := along_and_invariant (system be)
    (fun ms _ => run_exclusive be rows ended clock ms) ms along
  have known : Along (system be) (fun reached m =>
      (Orderly be reached m ∧ parentLock.Exclusive reached) ∧ Tidy reached.state)
      (initial (State.quiet rows ended clock)) ms :=
    along_and_invariant (system be) (fun ms _ => run_tidy be rows ended clock ms) ms excluding
  exact along_imp (system be) (fun _ _ known => ⟨known.1.1, known.1.2, known.2⟩) known

theorem run_removers (ms : List (Move Task))
    (along : Along (system be) (Orderly be) (initial (State.quiet rows ended clock)) ms) :
    ThreadsMeet (system be) (Assumed be) remover (fun _ _ => True)
      (runFrom be rows ended clock ms) := by
  refine (run_meets_under (fun _ => True) remover (fun _ _ => True)
    (fun t s _ => program_meets be t s) (Settled be) ?_
    (fun _ _ _ _ _ _ _ _ _ => trivial) (fun _ _ _ _ _ _ _ _ _ _ => trivial) ?_ _ ms
    (along_settled ms along) trivial).2
  · intro s pre t hist stmt next post log settled ready _
    refine ⟨settled.tidy, ready, ?_⟩
    exact Performing.admits _ settled.orderly.2 (performed_at _ ready)
  · intro s pre t hist stmt next post log settled ready _ other mem _ waiting head
    refine ⟨trivial, steady_execute settled.tidy ready (fun held => ?_) fun decided => ?_⟩
    · exact settled.exclusive.apart mem held
    · refine Against.admits _ settled.orderly.1 ready other mem ?_
      rw [isDeciding, head, decided]
      rfl

/-- The sweep removes only what is expired at its commit, and the login ends only when no row backs
it and no rotated session is yet to be written back. -/
theorem removals_spare_what_is_used (backend : Backend) (rows : Rows) (ended : Bool)
    (clock : OffsetDateTime) (moves : List (Move Task))
    (orderly : Config.Along (system backend) (Orderly backend)
      (Config.initial (State.quiet rows ended clock)) moves) :
    ∀ thread ∈ (runFrom backend rows ended clock moves).threads,
      (∀ maxAge note id row, thread.task = .gc maxAge →
        thread.program.head = some (.commit note) → deleted thread.history = some id →
        (runFrom backend rows ended clock moves).state.committed.find? id = some row →
        row.isExpired (runFrom backend rows ended clock moves).state.clock maxAge = true) ∧
      (thread.program.head = some .markEnded →
        (runFrom backend rows ended clock moves).state.rows.rows = [] ∧
        (runFrom backend rows ended clock moves).state.rotated = []) := by
  intro thread mem
  have tidy := run_tidy backend rows ended clock moves
  have meets := run_removers moves orderly thread mem trivial
  generalize runFrom backend rows ended clock moves = reached at tidy meets ⊢
  obtain ⟨task, history, prog⟩ := thread
  cases prog with
  | done res => exact ⟨nofun, nofun⟩
  | perform statement next =>
    have required := meets reached.state (Steady.refl task history reached.state)
    constructor
    · rintro maxAge note id row rfl head isDeleted found
      obtain rfl : statement = .commit note := some.inj head
      exact (required ⟨tidy, rfl, nofun⟩).1 maxAge rfl id isDeleted row found
    · intro head
      obtain rfl : statement = .markEnded := some.inj head
      exact (required ⟨tidy, rfl, nofun⟩).1

end Runs

def stored (id : String) : Row := ⟨id, 0, none⟩

def alone : Rows := ⟨[stored "a"], by decide⟩

def pair : Rows := ⟨[stored "a", stored "b"], by decide⟩

def sweeps : List (Move Task) := [.start (.gc 10)] ++ advances 0 7

theorem expired_row_is_removed :
    (Row.isExpired 100 10 (stored "a") = true ∧
      (runFrom .postgres alone false 100 sweeps).state.rows.rows = []) ∧
    (runFrom .postgres alone false 100 (sweeps ++ advances 0 2)).state.committed.rows = [] ∧
    (runFrom .postgres alone false 100 (sweeps ++ advances 0 2)).state.ended = true := by
  have orderly : Config.Along (system .postgres) (Orderly .postgres)
      (Config.initial (State.quiet alone false 100)) (sweeps ++ advances 0 1) := by decide +kernel
  have ending : ∃ th, (runFrom .postgres alone false 100 sweeps).threads[0]? = some th ∧
      th.program.head = some .markEnded := ⟨_, rfl, rfl⟩
  have committing : ∃ th,
      (runFrom .postgres alone false 100 (sweeps ++ advances 0 1)).threads[0]? = some th ∧
      th.task = .gc 10 ∧ th.program.head = some (.commit .plain) ∧
      deleted th.history = some "a" := ⟨_, rfl, rfl, rfl, rfl⟩
  refine ⟨⟨?_, ?_⟩, by decide +kernel, by decide +kernel⟩
  · obtain ⟨th, found, isGc, head, isDeleted⟩ := committing
    exact (removals_spare_what_is_used .postgres alone false 100 _ orderly th
      (mem_of_getElem? found)).1 10 .plain "a" (stored "a") isGc head isDeleted rfl
  · grind [along_append, removals_spare_what_is_used]

def touchesLate : List (Move Task) :=
  [.start (.gc 10), .start .touch] ++ advances 0 5 ++ advances 1 2 ++ advances 0 3

def rotates : List (Move Task) :=
  [.start (.rotateSession "a" "c" none), .start (.removeSession "b")] ++ advances 0 3 ++
    advances 1 6

def storesLate : List (Move Task) :=
  [.start (.removeSession "a"), .start (.updateSession "b" false none)] ++ advances 0 1 ++
    advances 1 5 ++ advances 0 2

def next (reached : Reached) (index : Nat) : Option (Statement × Option String) :=
  reached.threads[index]?.bind fun thread =>
    thread.program.head.map fun statement => (statement, deleted thread.history)

theorem used_logins_are_ended :
    (next (runFrom .postgres alone false 100 touchesLate) 0 = some (.commit .plain, some "a") ∧
      (runFrom .postgres alone false 100 touchesLate).state.committed.find? "a" =
        some ⟨"a", 100, none⟩ ∧
      Row.isExpired 100 10 ⟨"a", 100, none⟩ = false ∧
      (runFrom .postgres alone false 100 (touchesLate ++ advances 0 1)).state.ended = true) ∧
    (next (runFrom .sqlite pair false 100 rotates) 1 = some (.markEnded, some "b") ∧
      (runFrom .sqlite pair false 100 rotates).state.rotated = ["c"] ∧
      (runFrom .sqlite pair false 100 (rotates ++ advances 1 2)).state.ended = true) ∧
    (next (runFrom .mysql alone false 100 storesLate) 0 = some (.markEnded, some "a") ∧
      (runFrom .mysql alone false 100 storesLate).state.rows.rows = [⟨"b", 100, none⟩] ∧
      (runFrom .mysql alone false 100 (storesLate ++ advances 0 2)).state.ended = true) := by
  decide +kernel

end Warpgate.Storage
