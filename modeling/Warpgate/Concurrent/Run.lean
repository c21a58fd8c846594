/-
This file defines programs made of atomic statements, the interleavings of any number of them over
one shared state, and the rules by which facts about every interleaving are proved.
-/

import Mathlib.Data.List.Basic
import Mathlib.Data.List.Induction

namespace Concurrent

open List

/-! ### Programs -/

/-- A program performs a statement and goes on with its outcome, or is done. -/
inductive Program (Statement : Type) (Outcome : Statement → Type) (Result : Type) : Type
  | done (result : Result)
  | perform (statement : Statement)
      (next : Outcome statement → Program Statement Outcome Result)

namespace Program

variable {Statement : Type} {Outcome : Statement → Type} {First Second Result : Type}

def bind : Program Statement Outcome First →
    (First → Program Statement Outcome Second) → Program Statement Outcome Second
  | done result, continuation => continuation result
  | perform statement next, continuation =>
    perform statement fun outcome => (next outcome).bind continuation

instance : Monad (Program Statement Outcome) where
  pure := done
  bind := bind

@[simp] theorem pure_eq (res : Result) :
    (pure res : Program Statement Outcome Result) = done res := rfl

@[simp] theorem done_bind (res : First) (cont : First → Program Statement Outcome Second) :
    (done res : Program Statement Outcome First) >>= cont = cont res := rfl

variable (statement stmt : Statement)

@[simp] theorem perform_bind (next : Outcome stmt → Program Statement Outcome First)
    (cont : First → Program Statement Outcome Second) :
    perform stmt next >>= cont = perform stmt fun out => next out >>= cont := rfl

def single (statement : Statement) : Program Statement Outcome (Outcome statement) :=
  perform statement done

@[simp] theorem single_bind (cont : Outcome stmt → Program Statement Outcome Second) :
    single stmt >>= cont = perform stmt cont := rfl

theorem act_bind (cont : Outcome stmt → Program Statement Outcome Second) :
    perform stmt done >>= cont = perform stmt cont := rfl

def eval {State : Type} (execute : (statement : Statement) → State → Outcome statement × State) :
    Program Statement Outcome Result → State → Result × State
  | done result, state => (result, state)
  | perform statement next, state =>
    (next (execute statement state).1).eval execute (execute statement state).2

def head : Program Statement Outcome Result → Option Statement
  | done _ => none
  | perform statement _ => some statement

@[simp] theorem head_done (res : Result) :
    (done res : Program Statement Outcome Result).head = none := rfl

@[simp] theorem head_perform (next : Outcome stmt → Program Statement Outcome Result) :
    (perform stmt next).head = some stmt := rfl

end Program

/-! ### Protocols of a program -/

abbrev Event (Statement : Type) (Outcome : Statement → Type) : Type :=
  (statement : Statement) × Outcome statement

abbrev History {Statement : Type} (Outcome : Statement → Type) := List (Event Statement Outcome)

namespace Program

variable {Statement : Type} {Outcome : Statement → Type} {First Second Result : Type}

/-- Whatever the outcomes, each statement is allowed by what was seen before it, and so is the
result. -/
def Follows (requires : History Outcome → Statement → Prop)
    (ensures : History Outcome → Result → Prop) :
    History Outcome → Program Statement Outcome Result → Prop
  | history, done result => ensures history result
  | history, perform statement next =>
    requires history statement ∧
      ∀ outcome, (next outcome).Follows requires ensures (⟨statement, outcome⟩ :: history)

variable {requires : History Outcome → Statement → Prop} {hist : History Outcome}
  {ensures : History Outcome → Result → Prop} {prog : Program Statement Outcome Result}
  {cont : First → Program Statement Outcome Second} {ok : Statement → Prop}
  {known : History Outcome → Prop}

@[simp] theorem follows_done (res : Result) :
    (done res).Follows requires ensures hist ↔ ensures hist res := Iff.rfl

variable (statement stmt : Statement) (next : Outcome stmt → Program Statement Outcome Result)

@[simp] theorem follows_perform :
    (perform stmt next).Follows requires ensures hist ↔ requires hist stmt ∧
        ∀ out, (next out).Follows requires ensures (⟨stmt, out⟩ :: hist) :=
  Iff.rfl

@[simp] theorem follows_single {ensures : History Outcome → Outcome stmt → Prop} :
    (single stmt).Follows requires ensures hist ↔
      requires hist stmt ∧ ∀ out, ensures (⟨stmt, out⟩ :: hist) out :=
  Iff.rfl

theorem follows_bind {ensures : History Outcome → Second → Prop}
    (prog : Program Statement Outcome First) (cont : First → Program Statement Outcome Second) :
    (prog >>= cont).Follows requires ensures hist ↔ prog.Follows requires
        (fun seen res => (cont res).Follows requires ensures seen) hist := by
  induction prog generalizing hist with
  | done res => exact Iff.rfl
  | perform stmt next ih => exact and_congr_right fun _ => forall_congr' fun out => ih out

theorem follows_true (prog : Program Statement Outcome Result) :
    prog.Follows (fun _ _ => True) (fun _ _ => True) hist := by
  induction prog generalizing hist with
  | done res => trivial
  | perform stmt next ih => exact ⟨trivial, fun out => ih out⟩

theorem Follows.imp {weaker : History Outcome → Statement → Prop}
    {first second : History Outcome → Result → Prop} (follows : prog.Follows requires first hist)
    (requirement : ∀ seen stmt, requires seen stmt → weaker seen stmt)
    (conclusion : ∀ seen res, first seen res → second seen res) :
    prog.Follows weaker second hist := by
  induction prog generalizing hist with
  | done res => exact conclusion hist res follows
  | perform stmt next ih =>
    exact ⟨requirement hist stmt follows.1, fun out => ih out (follows.2 out)⟩

theorem Follows.seq {ensures : History Outcome → Second → Prop}
    {between : History Outcome → First → Prop}
    {prog : Program Statement Outcome First} (first : prog.Follows requires between hist)
    (second : ∀ seen res, between seen res → (cont res).Follows requires ensures seen) :
    (prog >>= cont).Follows requires ensures hist := by
  rw [follows_bind]
  exact first.imp (fun _ _ ok => ok) second

/-- All statements are of an allowed kind. -/
def Performs (allowed : Statement → Prop) : Program Statement Outcome Result → Prop
  | done _ => True
  | perform statement next => allowed statement ∧ ∀ outcome, (next outcome).Performs allowed

@[simp] theorem performs_perform :
    (perform stmt next).Performs ok ↔ ok stmt ∧ ∀ out, (next out).Performs ok := Iff.rfl

theorem performs_true (prog : Program Statement Outcome Result) : prog.Performs fun _ => True := by
  induction prog with
  | done res => trivial
  | perform stmt next ih => exact ⟨trivial, ih⟩

theorem Performs.imp {ok weaker : Statement → Prop} (perf : prog.Performs ok)
    (stmts : ∀ stmt, ok stmt → weaker stmt) : prog.Performs weaker := by
  induction prog with
  | done res => trivial
  | perform stmt next ih =>
    exact ⟨stmts stmt perf.1, fun out => ih out (perf.2 out)⟩

theorem Performs.bind {prog : Program Statement Outcome First} (first : prog.Performs ok)
    (second : ∀ res, (cont res).Performs ok) : (prog >>= cont).Performs ok := by
  induction prog with
  | done res => exact second res
  | perform stmt next ih => exact ⟨first.1, fun out => ih out (first.2 out)⟩

theorem Performs.follows (perf : prog.Performs ok)
    (requirement : ∀ seen stmt, ok stmt → requires seen stmt)
    (conclusion : ∀ seen res, ensures seen res) : prog.Follows requires ensures hist := by
  induction prog generalizing hist with
  | done res => exact conclusion hist res
  | perform stmt next ih =>
    exact ⟨requirement hist stmt perf.1, fun out => ih out (perf.2 out)⟩

theorem Performs.follows_keeping (perf : prog.Performs ok)
    (requirement : ∀ seen stmt, ok stmt → requires seen stmt)
    (keeps : ∀ seen ev, ok ev.1 → known seen → known (ev :: seen))
    (holds : known hist) : prog.Follows requires (fun seen _ => known seen) hist := by
  induction prog generalizing hist with
  | done res => exact holds
  | perform stmt next ih =>
    exact ⟨requirement hist stmt perf.1, fun out => ih out (perf.2 out) (keeps hist _ perf.1 holds)⟩

/-! ### Programs on their own -/

section

variable {State Other : Type} {exec : (stmt : Statement) → State → Outcome stmt × State}

theorem eval_bind (prog : Program Statement Outcome First)
    (cont : First → Program Statement Outcome Second) (s : State) :
    (prog >>= cont).eval exec s = (cont (prog.eval exec s).1).eval exec (prog.eval exec s).2 := by
  induction prog generalizing s with
  | done res => rfl
  | perform stmt next ih => exact ih _ _

variable {prog : Program Statement Outcome Result} {ok : Statement → Prop}

theorem Performs.eval_keeps (perf : prog.Performs ok) (kept : State → Prop)
    (keeps : ∀ stmt s, ok stmt → kept s → kept (exec stmt s).2)
    {s : State} (holds : kept s) : kept (prog.eval exec s).2 := by
  induction prog generalizing s with
  | done res => exact holds
  | perform stmt next ih => exact ih _ (perf.2 _) (keeps stmt s perf.1 holds)

theorem Performs.eval_simulates {related : State → Other → Prop}
    {simulated : (stmt : Statement) → Other → Outcome stmt × Other} (perf : prog.Performs ok)
    (simulates : ∀ stmt s other, ok stmt → related s other →
      (exec stmt s).1 = (simulated stmt other).1 ∧
        related (exec stmt s).2 (simulated stmt other).2) {s : State}
    {other : Other} (holds : related s other) :
    (prog.eval exec s).1 = (prog.eval simulated other).1 ∧
      related (prog.eval exec s).2 (prog.eval simulated other).2 := by
  induction prog generalizing s other with
  | done res => exact ⟨rfl, holds⟩
  | perform stmt next ih =>
    obtain ⟨same, later⟩ := simulates stmt s other perf.1 holds
    rw [eval, eval, same]
    exact ih _ (perf.2 _) later

end

end Program

/-! ### Interleavings -/

/-- What each task runs, what each statement does, and when it does not have to wait. -/
structure System (Task Statement : Type) (Outcome : Statement → Type) (State Answer : Type) where
  program : Task → Program Statement Outcome Answer
  execute : (statement : Statement) → State → Outcome statement × State
  ready : Statement → State → Bool := fun _ _ => true

structure Thread (Task Statement : Type) (Outcome : Statement → Type) (Answer : Type) where
  task : Task
  history : History Outcome
  program : Program Statement Outcome Answer

def Thread.result {Task Statement : Type} {Outcome : Statement → Type} {Answer : Type}
    (thread : Thread Task Statement Outcome Answer) : Option Answer :=
  match thread.program with
  | .done answer => some answer
  | .perform _ _ => none

theorem Thread.program_of_result {Task Statement : Type} {Outcome : Statement → Type}
    {Answer : Type} {th : Thread Task Statement Outcome Answer} {ans : Answer}
    (fin : th.result = some ans) : th.program = .done ans := by
  obtain ⟨t, hist, prog⟩ := th
  cases prog with
  | done res => exact congrArg Program.done (Option.some.inj fin)
  | perform stmt next => cases fin

structure Entry (Task Statement State : Type) where
  task : Task
  statement : Statement
  before : State

/-- The state, every thread with what it has seen, and what was performed, newest first. -/
structure Config (Task Statement : Type) (Outcome : Statement → Type) (State Answer : Type) where
  state : State
  threads : List (Thread Task Statement Outcome Answer)
  log : List (Entry Task Statement State)

inductive Move (Task : Type)
  | start (task : Task)
  | advance (index : Nat)

def advances {Task : Type} (index count : Nat) : List (Move Task) :=
  List.replicate count (.advance index)

section Runs

variable {Task Statement : Type} {Outcome : Statement → Type} {State Answer : Type}

def Config.initial (state : State) : Config Task Statement Outcome State Answer where
  state := state
  threads := []
  log := []

namespace Config

variable (system sys : System Task Statement Outcome State Answer)

variable (config : Config Task Statement Outcome State Answer)

def performed : Move Task → Option (Task × Statement)
  | .start _ => none
  | .advance index =>
    match config.threads[index]? with
    | some ⟨task, _, .perform statement _⟩ =>
      if system.ready statement config.state then some (task, statement) else none
    | _ => none

/-- A thread that has to wait, or is done, stays where it is. -/
def step : Move Task → Config Task Statement Outcome State Answer
  | .start task => { config with threads := config.threads ++ [⟨task, [], system.program task⟩] }
  | .advance index =>
    match config.threads[index]? with
    | some ⟨task, history, .perform statement next⟩ =>
      if system.ready statement config.state then
        { state := (system.execute statement config.state).2
          threads := config.threads.set index
            ⟨task, ⟨statement, (system.execute statement config.state).1⟩ :: history,
              next (system.execute statement config.state).1⟩
          log := ⟨task, statement, config.state⟩ :: config.log }
      else config
    | _ => config

def run (moves : List (Move Task)) : Config Task Statement Outcome State Answer :=
  moves.foldl (step system) config

open Config

@[simp] theorem run_nil (c : Config Task Statement Outcome State Answer) : c.run sys [] = c := rfl

theorem run_cons (c : Config Task Statement Outcome State Answer) (m : Move Task)
    (ms : List (Move Task)) : c.run sys (m :: ms) = (c.step sys m).run sys ms := rfl

theorem run_append (c : Config Task Statement Outcome State Answer)
    (first second : List (Move Task)) :
    c.run sys (first ++ second) = (c.run sys first).run sys second :=
  foldl_append

variable {pre post : List (Thread Task Statement Outcome Answer)} {task t : Task}
  {statement stmt : Statement} {next : Outcome stmt → Program Statement Outcome Answer}
  {hist : History Outcome} {state s : State} {log : List (Entry Task Statement State)}
  {move m : Move Task} {c : Config Task Statement Outcome State Answer}
  {property : Thread Task Statement Outcome Answer → Prop}
  {ok : Config Task Statement Outcome State Answer → Move Task → Prop} {ms : List (Move Task)}
  {first second : Config Task Statement Outcome State Answer → Move Task → Prop}

theorem performed_at (ready : sys.ready stmt s = true) :
    performed sys ⟨s, pre ++ ⟨t, hist, .perform stmt next⟩ :: post, log⟩
      (.advance pre.length) = some (t, stmt) := by
  simp [performed, ready]

theorem step_cases (c : Config Task Statement Outcome State Answer) (m : Move Task) :
    (c.performed sys m = none ∧ c.step sys m = c) ∨
      (∃ t, m = .start t ∧ c.step sys m =
          { c with threads := c.threads ++ [⟨t, [], sys.program t⟩] }) ∨
      ∃ pre t hist stmt next post,
        m = .advance pre.length ∧ c.performed sys m = some (t, stmt) ∧
        sys.ready stmt c.state = true ∧
        c.threads = pre ++ ⟨t, hist, .perform stmt next⟩ :: post ∧
        c.step sys m =
          { state := (sys.execute stmt c.state).2
            threads := pre ++
              ⟨t, ⟨stmt, (sys.execute stmt c.state).1⟩ :: hist,
                next (sys.execute stmt c.state).1⟩ :: post
            log := ⟨t, stmt, c.state⟩ :: c.log } := by
  cases m with
  | start t => exact .inr (.inl ⟨t, rfl, rfl⟩)
  | advance i =>
    cases found : c.threads[i]? with
    | none => exact .inl (by simp only [performed, step, found, and_self])
    | some th =>
      obtain ⟨t, hist, prog⟩ := th
      cases prog with
      | done res => exact .inl (by simp only [performed, step, found, and_self])
      | perform stmt next =>
        by_cases ready : sys.ready stmt c.state = true
        · obtain ⟨inRange, atIndex⟩ := List.getElem?_eq_some_iff.mp found
          refine .inr (.inr ⟨c.threads.take i, t, hist, stmt, next,
            c.threads.drop (i + 1), ?_, ?_, ready, ?_, ?_⟩)
          · rw [List.length_take_of_le (Nat.le_of_lt inRange)]
          · simp only [performed, found, if_pos ready]
          · rw [← atIndex, List.getElem_cons_drop, List.take_append_drop]
          · simp only [step, found, if_pos ready]
            rw [List.set_eq_take_append_cons_drop, if_pos inRange]
        · exact .inl (by simp only [performed, step, found, if_neg ready, and_self])

theorem performed_cases (perf : c.performed sys m = some (t, stmt)) :
    sys.ready stmt c.state = true ∧ (c.step sys m).state = (sys.execute stmt c.state).2 ∧
      ∃ hist next, ⟨t, hist, .perform stmt next⟩ ∈ c.threads := by
  rcases step_cases sys c m with
    ⟨idle, -⟩ | ⟨started, isStart, -⟩ | ⟨_, _, hist, _, next, _, -, performs', ready, threads, step⟩
  · rw [idle] at perf
    cases perf
  · rw [isStart] at perf
    cases perf
  · grind

theorem state_step (perf : c.performed sys m = some (t, stmt)) :
    (c.step sys m).state = (sys.execute stmt c.state).2 :=
  (performed_cases sys perf).2.1

theorem state_step_of_idle (idle : c.performed sys m = none) : (c.step sys m).state = c.state := by
  rcases step_cases sys c m with
    ⟨-, same⟩ | ⟨t, -, next⟩ | ⟨_, _, _, _, _, _, -, perf, -⟩
  · rw [same]
  · rw [next]
  · rw [idle] at perf
    cases perf

theorem mem_of_performed (perf : c.performed sys m = some (t, stmt)) :
    ∃ hist next, ⟨t, hist, .perform stmt next⟩ ∈ c.threads :=
  (performed_cases sys perf).2.2

theorem ready_of_performed (perf : c.performed sys m = some (t, stmt)) :
    sys.ready stmt c.state = true :=
  (performed_cases sys perf).1

/-! ### Conditions along a run -/

/-- Each move is allowed where it is made. -/
def Along (allowed : Config Task Statement Outcome State Answer → Move Task → Prop) :
    Config Task Statement Outcome State Answer → List (Move Task) → Prop
  | _, [] => True
  | config, move :: moves =>
    allowed config move ∧ Along allowed (config.step system move) moves

instance Along.decidable (allowed : Config Task Statement Outcome State Answer → Move Task → Prop)
    [∀ config move, Decidable (allowed config move)] :
    ∀ (config : Config Task Statement Outcome State Answer) (moves : List (Move Task)),
      Decidable (Along system allowed config moves)
  | _, [] => inferInstanceAs (Decidable True)
  | config, move :: moves =>
    haveI := Along.decidable allowed (config.step system move) moves
    inferInstanceAs (Decidable (_ ∧ _))

def Performing (admits : Config Task Statement Outcome State Answer → Task → Statement → Prop)
    (config : Config Task Statement Outcome State Answer) (move : Move Task) : Prop :=
  match config.performed system move with
  | none => True
  | some (task, statement) => admits config task statement

instance Performing.decidable
    (admits : Config Task Statement Outcome State Answer → Task → Statement → Prop)
    [∀ config task statement, Decidable (admits config task statement)]
    (config : Config Task Statement Outcome State Answer) (move : Move Task) :
    Decidable (Performing system admits config move) := by
  unfold Performing
  split <;> infer_instance

theorem Performing.admits
    {admits : Config Task Statement Outcome State Answer → Task → Statement → Prop}
    (ok : Performing sys admits c m) (perf : c.performed sys m = some (t, stmt)) :
    admits c t stmt := by
  unfold Performing at ok
  rw [perf] at ok
  exact ok

def beside : Move Task → List (Thread Task Statement Outcome Answer)
  | .start _ => config.threads
  | .advance index => config.threads.eraseIdx index

def Against (admits : Thread Task Statement Outcome Answer → Task → Statement → Prop)
    (config : Config Task Statement Outcome State Answer) (move : Move Task) : Prop :=
  Performing system (fun config task statement =>
    ∀ thread ∈ config.beside move, admits thread task statement) config move

instance Against.decidable (admits : Thread Task Statement Outcome Answer → Task → Statement → Prop)
    [∀ thread task statement, Decidable (admits thread task statement)]
    (config : Config Task Statement Outcome State Answer) (move : Move Task) :
    Decidable (Against system admits config move) :=
  Performing.decidable system _ config move

theorem Against.admits {admits : Thread Task Statement Outcome Answer → Task → Statement → Prop}
    (ok : Against sys admits ⟨s, pre ++ ⟨t, hist, .perform stmt next⟩ :: post, log⟩
      (.advance pre.length)) (ready : sys.ready stmt s = true) :
    ∀ th ∈ pre ++ post, admits th t stmt := by
  have others := Performing.admits sys ok (performed_at sys ready)
  rwa [beside, eraseIdx_append_of_length_le (Nat.le_refl _), Nat.sub_self,
    eraseIdx_cons_zero] at others

def Advancing (admits : State → Thread Task Statement Outcome Answer → Prop)
    (config : Config Task Statement Outcome State Answer) : Move Task → Prop
  | .start _ => True
  | .advance index => ∀ thread ∈ config.threads[index]?, admits config.state thread

instance Advancing.decidable (admits : State → Thread Task Statement Outcome Answer → Prop)
    [∀ state thread, Decidable (admits state thread)]
    (config : Config Task Statement Outcome State Answer) (move : Move Task) :
    Decidable (Advancing admits config move) :=
  match move with
  | .start _ => inferInstanceAs (Decidable True)
  | .advance index =>
    inferInstanceAs (Decidable (∀ thread ∈ config.threads[index]?, admits config.state thread))

theorem Advancing.admits {admits : State → Thread Task Statement Outcome Answer → Prop}
    {th : Thread Task Statement Outcome Answer}
    (ok : Advancing admits ⟨s, pre ++ th :: post, log⟩ (.advance pre.length)) : admits s th :=
  ok th (by simp)

theorem forall_threads_start {threads : List (Thread Task Statement Outcome Answer)}
    {started : Thread Task Statement Outcome Answer} (holds : ∀ th ∈ threads, property th)
    (fresh : property started) : ∀ th ∈ threads ++ [started], property th := by
  intro th mem
  rcases mem_append.mp mem with old | new
  · exact holds th old
  · rw [mem_singleton.mp new]
    exact fresh

theorem forall_threads_perform {performing performed : Thread Task Statement Outcome Answer}
    (holds : ∀ th ∈ pre ++ performing :: post, property th)
    (keeps : property performing → property performed) :
    ∀ th ∈ pre ++ performed :: post, property th := by
  grind

theorem run_invariant {sys : System Task Statement Outcome State Answer}
    (ok : Config Task Statement Outcome State Answer → Move Task → Prop)
    (invariant : Config Task Statement Outcome State Answer → Prop)
    (starts : ∀ c t, ok c (.start t) → invariant c →
      invariant { c with threads := c.threads ++ [⟨t, [], sys.program t⟩] })
    (perf : ∀ s pre t hist stmt next post log,
      ok ⟨s, pre ++ ⟨t, hist, .perform stmt next⟩ :: post, log⟩ (.advance pre.length) →
      performed sys ⟨s, pre ++ ⟨t, hist, .perform stmt next⟩ :: post, log⟩
        (.advance pre.length) = some (t, stmt) →
      sys.ready stmt s = true →
      invariant ⟨s, pre ++ ⟨t, hist, .perform stmt next⟩ :: post, log⟩ →
      invariant ⟨(sys.execute stmt s).2, pre ++ ⟨t, ⟨stmt, (sys.execute stmt s).1⟩ :: hist,
          next (sys.execute stmt s).1⟩ :: post,
        ⟨t, stmt, s⟩ :: log⟩)
    (c : Config Task Statement Outcome State Answer) (ms : List (Move Task))
    (along : Along sys ok c ms) (holds : invariant c) : invariant (c.run sys ms) := by
  induction ms generalizing c with
  | nil => exact holds
  | cons m ms ih =>
    rw [run_cons]
    refine ih _ along.2 ?_
    rcases step_cases sys c m with
      ⟨-, same⟩ | ⟨t, started, next⟩ | ⟨pre, t, hist, stmt, rest, post,
        isMove, performs', ready, threads, next⟩
    · rw [same]
      exact holds
    · rw [next]
      exact starts c t (started ▸ along.1) holds
    · rw [next]
      obtain ⟨s, _, log⟩ := c
      subst threads isMove
      exact perf s pre t hist stmt rest post log along.1 performs' ready holds

theorem along_of_forall (always : ∀ c m, ok c m)
    (c : Config Task Statement Outcome State Answer) (ms : List (Move Task)) :
    Along sys ok c ms := by
  induction ms generalizing c with
  | nil => trivial
  | cons m ms ih => exact ⟨always c m, ih _⟩

theorem run_state_invariant {sys : System Task Statement Outcome State Answer}
    (invariant : State → Prop) (keeps : ∀ stmt s, invariant s → invariant (sys.execute stmt s).2)
    (c : Config Task Statement Outcome State Answer) (ms : List (Move Task))
    (holds : invariant c.state) : invariant (c.run sys ms).state :=
  run_invariant (fun _ _ => True) (fun reached => invariant reached.state) (fun _ _ _ held => held)
    (fun s _ _ _ stmt _ _ _ _ _ _ held => keeps stmt s held) c ms
    (along_of_forall sys (fun _ _ => trivial) c ms) holds

theorem along_advances (c : Config Task Statement Outcome State Answer) (i count : Nat) :
    Along sys (fun _ m => m = .advance i) c (advances i count) := by
  induction count generalizing c with
  | zero => trivial
  | succ count ih => exact ⟨rfl, ih _⟩

theorem along_append (c : Config Task Statement Outcome State Answer)
    (first second : List (Move Task)) :
    Along sys ok c (first ++ second) ↔ Along sys ok c first ∧
        Along sys ok (c.run sys first) second := by
  induction first generalizing c with
  | nil => simp [Along]
  | cons m ms ih => grind [Along, run_cons]

theorem along_imp (weaker : ∀ c m, first c m → second c m)
    (along : Along sys first c ms) : Along sys second c ms := by
  induction ms generalizing c with
  | nil => trivial
  | cons m ms ih => exact ⟨weaker c m along.1, ih along.2⟩

theorem along_and (along : Along sys first c ms) (along' : Along sys second c ms) :
    Along sys (fun reached m => first reached m ∧ second reached m) c ms := by
  induction ms generalizing c with
  | nil => trivial
  | cons m ms ih => exact ⟨⟨along.1, along'.1⟩, ih along.2 along'.2⟩

theorem along_and_invariant {invariant : Config Task Statement Outcome State Answer → Prop}
    (holds : ∀ ms, Along sys ok c ms → invariant (c.run sys ms))
    (ms : List (Move Task)) (along : Along sys ok c ms) :
    Along sys (fun reached m => ok reached m ∧ invariant reached) c ms := by
  induction ms using reverseRecOn with
  | nil => trivial
  | append_singleton ms m ih =>
    obtain ⟨pre, last⟩ := (along_append sys c ms [m]).mp along
    exact (along_append sys c ms [m]).mpr ⟨ih pre, ⟨last.1, holds ms pre⟩, trivial⟩

/-! ### Invariants of a run -/

def ThreadsFollow (requires : Task → History Outcome → Statement → Prop)
    (ensures : Task → History Outcome → Answer → Prop)
    (config : Config Task Statement Outcome State Answer) : Prop :=
  ∀ thread ∈ config.threads,
    thread.program.Follows (requires thread.task) (ensures thread.task) thread.history

theorem run_invariant_of_protocol {sys : System Task Statement Outcome State Answer}
    {requires : Task → History Outcome → Statement → Prop}
    {ensures : Task → History Outcome → Answer → Prop}
    (protocol : ∀ t, (sys.program t).Follows (requires t) (ensures t) [])
    (ok : Config Task Statement Outcome State Answer → Move Task → Prop)
    (invariant : Config Task Statement Outcome State Answer → Prop)
    (starts : ∀ c t, ok c (.start t) → invariant c →
      invariant { c with threads := c.threads ++ [⟨t, [], sys.program t⟩] })
    (perf : ∀ s pre t hist stmt next post log,
      ok ⟨s, pre ++ ⟨t, hist, .perform stmt next⟩ :: post, log⟩ (.advance pre.length) →
      performed sys ⟨s, pre ++ ⟨t, hist, .perform stmt next⟩ :: post, log⟩
        (.advance pre.length) = some (t, stmt) →
      requires t hist stmt →
      invariant ⟨s, pre ++ ⟨t, hist, .perform stmt next⟩ :: post, log⟩ →
      invariant ⟨(sys.execute stmt s).2, pre ++ ⟨t, ⟨stmt, (sys.execute stmt s).1⟩ :: hist,
          next (sys.execute stmt s).1⟩ :: post,
        ⟨t, stmt, s⟩ :: log⟩)
    (s : State) (ms : List (Move Task)) (along : Along sys ok (initial s) ms)
    (holds : invariant (initial s)) :
    ThreadsFollow requires ensures ((initial s).run sys ms) ∧
      invariant ((initial s).run sys ms) := by
  refine run_invariant ok (fun c => ThreadsFollow requires ensures c ∧ invariant c)
    ?_ ?_ (initial s) ms along ⟨fun th mem => (by cases mem), holds⟩
  · rintro c t perm ⟨follows, kept⟩
    exact ⟨forall_threads_start follows (protocol t), starts c t perm kept⟩
  · rintro s pre t hist stmt next post log perm performs' - ⟨follows, kept⟩
    refine ⟨forall_threads_perform follows fun follows => follows.2 _, ?_⟩
    have required := (follows ⟨t, hist, .perform stmt next⟩ mem_append_cons_self).1
    exact perf s pre t hist stmt next post log perm performs' required kept

theorem run_follows {sys : System Task Statement Outcome State Answer}
    (requires : Task → History Outcome → Statement → Prop)
    (ensures : Task → History Outcome → Answer → Prop)
    (protocol : ∀ t, (sys.program t).Follows (requires t) (ensures t) [])
    (s : State) (ms : List (Move Task)) : ThreadsFollow requires ensures ((initial s).run sys ms) :=
  (run_invariant_of_protocol protocol (fun _ _ => True) (fun _ => True)
    (fun _ _ _ holds => holds) (fun _ _ _ _ _ _ _ _ _ _ _ holds => holds) s ms
    (along_of_forall sys (fun _ _ => trivial) _ _) trivial).1

theorem run_events {sys : System Task Statement Outcome State Answer}
    (fact : Task → Event Statement Outcome → Prop)
    (established : ∀ c t stmt m, ok c m → performed sys c m = some (t, stmt) →
      fact t ⟨stmt, (sys.execute stmt c.state).1⟩) (s : State)
    (ms : List (Move Task)) (along : Along sys ok (initial s) ms) :
    ∀ th ∈ ((initial s).run sys ms).threads, ∀ ev ∈ th.history, fact th.task ev := by
  refine run_invariant ok (fun c => ∀ th ∈ c.threads, ∀ ev ∈ th.history, fact th.task ev)
    ?_ ?_ (initial s) ms along (fun th mem => by cases mem)
  · grind
  · intro s pre t hist stmt next post log perm perf _ holds
    refine forall_threads_perform holds fun prev ev seen => ?_
    rcases mem_cons.mp seen with rfl | old
    · exact established _ t stmt _ perm perf
    · exact prev ev old

theorem run_logged (sys : System Task Statement Outcome State Answer) (s : State)
    (ms : List (Move Task)) :
    ∀ th ∈ ((initial s).run sys ms).threads, ∀ ev ∈ th.history,
      ∃ e ∈ ((initial s).run sys ms).log, e.task = th.task ∧
        ev = ⟨e.statement, (sys.execute e.statement e.before).1⟩ := by
  refine run_invariant (fun _ _ => True) (fun c => ∀ th ∈ c.threads, ∀ ev ∈ th.history,
      ∃ e ∈ c.log, e.task = th.task ∧ ev = ⟨e.statement, (sys.execute e.statement e.before).1⟩)
    ?_ ?_ (initial s) ms (along_of_forall sys (fun _ _ => trivial) _ _) (fun th mem => by cases mem)
  · grind
  · intro s pre t hist stmt next post log _ _ _ holds
    have logged : ∀ th ∈ pre ++ ⟨t, hist, .perform stmt next⟩ :: post,
        ∀ ev ∈ th.history, ∃ e ∈ ⟨t, stmt, s⟩ :: log, e.task = th.task ∧
            ev = ⟨e.statement, (sys.execute e.statement e.before).1⟩ := by
      intro th mem ev seen
      obtain ⟨e, inLog, same⟩ := holds th mem ev seen
      exact ⟨e, .tail _ inLog, same⟩
    refine forall_threads_perform logged fun prev ev seen => ?_
    rcases mem_cons.mp seen with rfl | old
    · exact ⟨⟨t, stmt, s⟩, .head _, rfl, rfl⟩
    · exact prev ev old

theorem performed_of_logged (sys : System Task Statement Outcome State Answer) (s : State)
    (ms : List (Move Task)) {newer older : List (Entry Task Statement State)}
    {e : Entry Task Statement State} (logged : ((initial s).run sys ms).log = newer ++ e :: older) :
    ∃ first m, ((initial s).run sys first).log = older ∧
      ((initial s).run sys first).state = e.before ∧
      ((initial s).run sys first).performed sys m = some (e.task, e.statement) := by
  induction ms using reverseRecOn generalizing newer with
  | nil =>
    rw [run_nil] at logged
    exact absurd logged.symm (append_ne_nil_of_right_ne_nil newer (cons_ne_nil _ _))
  | append_singleton ms m ih =>
    rw [run_append, run_cons, run_nil] at logged
    rcases step_cases sys ((initial s).run sys ms) m with
      ⟨-, same⟩ | ⟨t, -, next⟩ | ⟨_, t, _, stmt, _, _, -, perf, -, -, next⟩
    · rw [same] at logged
      exact ih logged
    · rw [next] at logged
      exact ih logged
    · rw [next] at logged
      cases newer with
      | nil => grind
      | cons latest newer => exact ih (cons.inj logged).2

end Config

end Runs

end Concurrent
