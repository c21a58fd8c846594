/-
This file is about the stretch of a program between a read and the write that acts on it, and
about locks that threads take and give back with statements.
-/

import Warpgate.Concurrent.Run

namespace Concurrent

open List Bool Config

section

variable {Task Statement : Type} {Outcome : Statement → Type} {Answer : Type}

def Thread.inside (opens closes : Event Statement Outcome → Bool)
    (thread : Thread Task Statement Outcome Answer) : Bool :=
  thread.program.head.isSome && thread.history.any opens && !thread.history.any closes

section Inside

variable {opens closes : Event Statement Outcome → Bool} {hist : History Outcome} {stmt : Statement}
  {next : Outcome stmt → Program Statement Outcome Answer} {t : Task}

theorem Thread.inside_perform :
    (⟨t, hist, .perform stmt next⟩ :
        Thread Task Statement Outcome Answer).inside opens closes = true ↔
      hist.any opens = true ∧ hist.any closes = false := by
  simp [Thread.inside]

theorem Thread.inside_after {out : Outcome stmt}
    (inside : (⟨t, ⟨stmt, out⟩ :: hist, next out⟩ :
      Thread Task Statement Outcome Answer).inside opens closes = true) :
    closes ⟨stmt, out⟩ = false ∧
      (opens ⟨stmt, out⟩ = true ∨ (⟨t, hist, .perform stmt next⟩ :
          Thread Task Statement Outcome Answer).inside opens closes = true) := by
  grind [Thread.inside, Thread.inside_perform]

end Inside

variable {pre post : List (Thread Task Statement Outcome Answer)}
  {opens closes : Event Statement Outcome → Bool}

theorem Config.alone_of_countP {property : Thread Task Statement Outcome Answer → Bool}
    {performing : Thread Task Statement Outcome Answer}
    (once : (pre ++ performing :: post).countP property ≤ 1) (holds : property performing = true) :
    ∀ th, th ∈ pre ∨ th ∈ post → property th = false := by
  rw [countP_append, countP_cons_of_pos holds] at once
  have none_before : pre.countP property = 0 := by omega
  have none_after : post.countP property = 0 := by omega
  rintro th (mem | mem)
  · exact eq_false_iff.mpr (countP_eq_zero.mp none_before th mem)
  · exact eq_false_iff.mpr (countP_eq_zero.mp none_after th mem)

theorem Config.inside_perform {guarded guarded' : Prop} {t : Task}
    {hist : History Outcome} {stmt : Statement}
    {next : Outcome stmt → Program Statement Outcome Answer} {out : Outcome stmt}
    (holds : ∀ th ∈ pre ++ ⟨t, hist, .perform stmt next⟩ :: post,
      th.inside opens closes = true → guarded) (opened : opens ⟨stmt, out⟩ = true → guarded')
    (keeps : (guarded → guarded') ∨ closes ⟨stmt, out⟩ = true ∧
      ∀ th, th ∈ pre ∨ th ∈ post → th.inside opens closes = false) :
    ∀ th ∈ pre ++ ⟨t, ⟨stmt, out⟩ :: hist, next out⟩ :: post,
      th.inside opens closes = true → guarded' := by
  intro th mem inside
  have others : th ∈ pre ∨ th ∈ post → guarded' := by grind
  rcases mem_append.mp mem with old | new
  · exact others (.inl old)
  · rcases mem_cons.mp new with rfl | old
    · obtain ⟨unclosed, opening | prev⟩ := Thread.inside_after inside
      · exact opened opening
      · grind
    · exact others (.inr old)

theorem Config.inside_start {guarded : Prop} {threads : List (Thread Task Statement Outcome Answer)}
    {t : Task} {prog : Program Statement Outcome Answer}
    (holds : ∀ th ∈ threads, th.inside opens closes = true → guarded) :
    ∀ th ∈ threads ++ [⟨t, [], prog⟩], th.inside opens closes = true → guarded := by
  refine forall_threads_start holds fun inside => ?_
  simp [Thread.inside] at inside

end

variable {Task Statement : Type} {Outcome : Statement → Type} {State Answer : Type}

def holding (takes gives : Statement → Bool) : History Outcome → Bool
  | [] => false
  | event :: earlier =>
    if takes event.1 then true else if gives event.1 then false else holding takes gives earlier

/-- Which statements take, give back and need it, and whether a state has it taken. -/
structure Lock (Statement State : Type) where
  takes : Statement → Bool
  gives : Statement → Bool
  needs : Statement → Bool
  taken : State → Bool

namespace Lock

variable (lock : Lock Statement State)

def requires (history : History Outcome) (statement : Statement) : Prop :=
  (lock.takes statement = true → holding lock.takes lock.gives history = false) ∧
    (lock.gives statement = true ∨ lock.needs statement = true →
      holding lock.takes lock.gives history = true)

def ensures (history : History Outcome) (_ : Answer) : Prop :=
  holding lock.takes lock.gives history = false

def heldBy (thread : Thread Task Statement Outcome Answer) : Bool :=
  holding lock.takes lock.gives thread.history

/-- Programs keep to the lock, and a statement that takes it waits until it is free. -/
structure Guards (system : System Task Statement Outcome State Answer) : Prop where
  programs : ∀ task, (system.program task).Follows lock.requires lock.ensures []
  waits : ∀ statement state, lock.takes statement = true → system.ready statement state = true →
    lock.taken state = false
  takes : ∀ statement state, lock.takes statement = true →
    lock.taken (system.execute statement state).2 = true
  gives : ∀ statement state, lock.gives statement = true →
    lock.taken (system.execute statement state).2 = false
  keeps : ∀ statement state, lock.takes statement = false → lock.gives statement = false →
    lock.taken (system.execute statement state).2 = lock.taken state

/-- At most one thread has it. -/
structure Exclusive (config : Config Task Statement Outcome State Answer) : Prop where
  follows : Config.ThreadsFollow (fun _ => lock.requires) (fun _ => lock.ensures) config
  count : config.threads.countP lock.heldBy = (lock.taken config.state).toNat

variable {lock} {pre post : List (Thread Task Statement Outcome Answer)} {stmt : Statement}
  {next : Outcome stmt → Program Statement Outcome Answer} {hist : History Outcome} {s : State}
  {log : List (Entry Task Statement State)} {other : Thread Task Statement Outcome Answer}

theorem Exclusive.holds {t : Task}
    (exclusive : lock.Exclusive ⟨s, pre ++ ⟨t, hist, .perform stmt next⟩ :: post, log⟩)
    (needs : lock.gives stmt = true ∨ lock.needs stmt = true) :
    holding lock.takes lock.gives hist = true :=
  (exclusive.follows _ mem_append_cons_self).1.2 needs

theorem Exclusive.alone {performing : Thread Task Statement Outcome Answer}
    (exclusive : lock.Exclusive ⟨s, pre ++ performing :: post, log⟩)
    (mem : other ∈ pre ++ post) (held : lock.heldBy other = true) :
    lock.heldBy performing = false := by
  cases holds : lock.heldBy performing with
  | false => rfl
  | true =>
    have once : (pre ++ performing :: post).countP lock.heldBy ≤ 1 := by
      rw [exclusive.count]
      exact toNat_le _
    have free := alone_of_countP once holds other (mem_append.mp mem)
    rw [held] at free
    cases free

theorem Exclusive.apart {t : Task}
    (exclusive : lock.Exclusive ⟨s, pre ++ ⟨t, hist, .perform stmt next⟩ :: post, log⟩)
    (mem : other ∈ pre ++ post) (held : lock.heldBy other = true) :
    lock.gives stmt = false ∧ lock.needs stmt = false := by
  have free := eq_false_iff.mp (exclusive.alone mem held)
  constructor
  · exact eq_false_iff.mpr fun gives => free (exclusive.holds (.inl gives))
  · exact eq_false_iff.mpr fun needs => free (exclusive.holds (.inr needs))

theorem Exclusive.taken {c : Config Task Statement Outcome State Answer}
    (exclusive : lock.Exclusive c) {th : Thread Task Statement Outcome Answer}
    (mem : th ∈ c.threads) (held : lock.heldBy th = true) : lock.taken c.state = true := by
  have some_held := countP_pos_iff.mpr ⟨th, mem, held⟩
  rw [exclusive.count] at some_held
  cases taken : lock.taken c.state with
  | true => rfl
  | false =>
    rw [taken] at some_held
    cases some_held

theorem Guards.run_exclusive {sys : System Task Statement Outcome State Answer}
    (guards : lock.Guards sys) (free : lock.taken s = false) (ms : List (Move Task)) :
    lock.Exclusive ((initial s).run sys ms) := by
  have start : lock.Exclusive (initial s : Config Task Statement Outcome State Answer) :=
    ⟨nofun, by rw [show (initial s : Config Task Statement Outcome State
      Answer).state = s from rfl, free]; rfl⟩
  refine run_invariant (fun _ _ => True) lock.Exclusive ?_ ?_ _ ms
    (along_of_forall sys (fun _ _ => trivial) _ _) start
  · intro c t _ exclusive
    refine ⟨forall_threads_start exclusive.follows (guards.programs t), ?_⟩
    rw [countP_append, exclusive.count, countP_singleton]
    rfl
  · intro s pre t hist stmt next post log _ _ ready exclusive
    have follows := exclusive.follows
    have required := (follows _ mem_append_cons_self).1
    refine ⟨forall_threads_perform follows fun follows => follows.2 _, ?_⟩
    have count := exclusive.count
    rw [countP_append, countP_cons] at count ⊢
    have was : lock.heldBy ⟨t, hist, .perform stmt next⟩ = holding lock.takes lock.gives hist := rfl
    by_cases takes : lock.takes stmt = true
    · have holds : lock.heldBy (⟨t, ⟨stmt, (sys.execute stmt s).1⟩ :: hist,
          next (sys.execute stmt s).1⟩ : Thread Task Statement Outcome Answer) = true :=
        if_pos takes
      rw [was, required.1 takes, guards.waits stmt s takes ready] at count
      rw [holds, guards.takes stmt s takes]
      simp only [false_eq_true, if_false, if_true, toNat_false, toNat_true] at count ⊢
      omega
    · have untaken := eq_false_iff.mpr takes
      by_cases gives : lock.gives stmt = true
      · have holds : lock.heldBy (⟨t, ⟨stmt, (sys.execute stmt s).1⟩ :: hist,
            next (sys.execute stmt s).1⟩ : Thread Task Statement Outcome Answer) =
            false := (if_neg (eq_false_iff.mp untaken)).trans (if_pos gives)
        rw [was, required.2 (.inl gives)] at count
        rw [holds, guards.gives stmt s gives]
        have bound := toNat_le (lock.taken s)
        simp only [if_true, false_eq_true, if_false, toNat_false] at count ⊢
        omega
      · have kept := eq_false_iff.mpr gives
        have holds : lock.heldBy (⟨t, ⟨stmt, (sys.execute stmt s).1⟩ :: hist,
            next (sys.execute stmt s).1⟩ : Thread Task Statement Outcome Answer) =
            holding lock.takes lock.gives hist :=
          (if_neg (eq_false_iff.mp untaken)).trans (if_neg gives)
        rw [was] at count
        rw [holds, guards.keeps stmt s untaken kept]
        exact count

end Lock

end Concurrent
