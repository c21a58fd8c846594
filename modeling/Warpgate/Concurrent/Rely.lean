/-
This file is about programs that count on what the others do, and on what they owe.
-/

import Warpgate.Concurrent.Run

namespace Concurrent

open List Config

/-! ### Contracts -/

/-- What others may do before a statement, and what then holds for it. -/
structure Contract (Statement : Type) (Outcome : Statement → Type) (State : Type) where
  rely : History Outcome → Statement → State → State → Prop
  requires : History Outcome → Statement → State → Prop
  refl : ∀ history statement state, rely history statement state state
  trans : ∀ history statement first second third, rely history statement first second →
    rely history statement second third → rely history statement first third

namespace Program

section Meets

variable {Statement : Type} {Outcome : Statement → Type} {State First Second Result : Type}
  (execute : (statement : Statement) → State → Outcome statement × State)
  (assumed : Statement → State → Prop) (contract : Contract Statement Outcome State)

/-- Each statement finds what it requires, after any steps of others that it relies on. -/
def Meets (ensures : History Outcome → Result → State → Prop) :
    History Outcome → Program Statement Outcome Result → State → Prop
  | history, done result, state => ensures history result state
  | history, perform statement next, state =>
    ∀ later, contract.rely history statement state later → assumed statement later →
      contract.requires history statement later ∧
        (next (execute statement later).1).Meets ensures
          (⟨statement, (execute statement later).1⟩ :: history) (execute statement later).2

variable {execute exec assumed asm contract} {history hist : History Outcome}
  {state s : State} {ensures : History Outcome → Result → State → Prop}
  {first second : History Outcome → Result → State → Prop}
  {program prog : Program Statement Outcome Result}

theorem meets_bind {ensures : History Outcome → Second → State → Prop}
    (prog : Program Statement Outcome First) (cont : First → Program Statement Outcome Second) :
    (prog >>= cont).Meets exec asm contract ensures hist s ↔ prog.Meets exec asm contract
        (fun seen res reached => (cont res).Meets exec asm contract ensures seen reached)
        hist s := by
  induction prog generalizing hist s with
  | done res => exact Iff.rfl
  | perform stmt next ih =>
    refine forall_congr' fun later => forall_congr' fun _ => forall_congr' fun _ => ?_
    exact and_congr_right fun _ => ih _

theorem Meets.imp (meets : prog.Meets exec asm contract first hist s)
    (conclusion : ∀ seen res reached, first seen res reached → second seen res reached) :
    prog.Meets exec asm contract second hist s := by
  induction prog generalizing hist s with
  | done res => exact conclusion hist res s meets
  | perform stmt next ih =>
    intro later relied kept
    obtain ⟨required, goesOn⟩ := meets later relied kept
    exact ⟨required, ih _ goesOn⟩

theorem Meets.and (meets : program.Meets execute assumed contract first history state)
    (meets' : program.Meets execute assumed contract second history state) :
    program.Meets execute assumed contract
      (fun seen result reached => first seen result reached ∧ second seen result reached) history
      state := by
  induction program generalizing history state with
  | done result => exact ⟨meets, meets'⟩
  | perform statement next ih =>
    intro later relied kept
    obtain ⟨required, goesOn⟩ := meets later relied kept
    exact ⟨required, ih _ goesOn (meets' later relied kept).2⟩

theorem Meets.seq {ensures : History Outcome → Second → State → Prop}
    {between : History Outcome → First → State → Prop}
    {prog : Program Statement Outcome First} {cont : First → Program Statement Outcome Second}
    (first : prog.Meets exec asm contract between hist s)
    (second : ∀ seen res reached, between seen res reached →
      (cont res).Meets exec asm contract ensures seen reached) :
    (prog >>= cont).Meets exec asm contract ensures hist s := by
  rw [meets_bind]
  exact first.imp second

theorem Meets.stable {stmt : Statement}
    {next : Outcome stmt → Program Statement Outcome Result} {later : State}
    (meets : (perform stmt next).Meets exec asm contract ensures hist s)
    (relied : contract.rely hist stmt s later) :
    (perform stmt next).Meets exec asm contract ensures hist later :=
  fun last onwards => meets last (contract.trans hist stmt s later last relied onwards)

theorem meets_of_follows
    (follows : prog.Follows (fun seen stmt => ∀ reached, asm stmt reached →
        contract.requires seen stmt reached)
      (fun seen res => ∀ reached, ensures seen res reached) hist) :
    prog.Meets exec asm contract ensures hist s := by
  induction prog generalizing hist s with
  | done res => exact follows s
  | perform stmt next ih => exact fun later _ kept => ⟨follows.1 later kept, ih _ (follows.2 _)⟩

theorem Performs.meets_keeping {ok : Statement → Prop}
    {keeps : History Outcome → State → Prop} (perf : program.Performs ok)
    (requirement : ∀ seen stmt reached, ok stmt → keeps seen reached →
      contract.requires seen stmt reached)
    (own : ∀ seen stmt reached, ok stmt → assumed stmt reached → keeps seen reached →
      keeps (⟨stmt, (execute stmt reached).1⟩ :: seen) (execute stmt reached).2)
    (others : ∀ seen stmt reached later, ok stmt →
      contract.rely seen stmt reached later → keeps seen reached → keeps seen later)
    (holds : keeps hist state) :
    program.Meets execute assumed contract (fun seen _ reached => keeps seen reached) hist
      state := by
  induction program generalizing hist state with
  | done result => exact holds
  | perform stmt next ih =>
    intro later relied here
    have still := others hist stmt state later perf.1 relied holds
    exact ⟨requirement hist stmt later perf.1 still,
      ih _ (perf.2 _) (own hist stmt later perf.1 here still)⟩

theorem Performs.meets
    (perf : prog.Performs fun stmt =>
      ∀ seen reached, asm stmt reached → contract.requires seen stmt reached)
    (conclusion : ∀ seen res reached, ensures seen res reached) :
    prog.Meets exec asm contract ensures hist s :=
  meets_of_follows (perf.follows (fun seen _ ok => ok seen) conclusion)

end Meets

end Program

namespace Config

variable {Task Statement : Type} {Outcome : Statement → Type} {State Answer : Type}

def ThreadsMeet (system : System Task Statement Outcome State Answer)
    (assumed : Statement → State → Prop) (contract : Task → Contract Statement Outcome State)
    (watched : List (Entry Task Statement State) → Thread Task Statement Outcome Answer → Prop)
    (config : Config Task Statement Outcome State Answer) : Prop :=
  ∀ thread ∈ config.threads, watched config.log thread →
    thread.program.Meets system.execute assumed (contract thread.task) (fun _ _ _ => True)
      thread.history config.state

theorem run_meets_under {sys : System Task Statement Outcome State Answer} (holds : State → Prop)
    {asm : Statement → State → Prop} (contract : Task → Contract Statement Outcome State)
    (watched : List (Entry Task Statement State) → Thread Task Statement Outcome Answer → Prop)
    (programs : ∀ t s, holds s →
      (sys.program t).Meets sys.execute asm (contract t) (fun _ _ _ => True) [] s)
    (ok : Config Task Statement Outcome State Answer → Move Task → Prop)
    (assumes : ∀ s pre t hist stmt next post log,
      ok ⟨s, pre ++ ⟨t, hist, .perform stmt next⟩ :: post, log⟩ (.advance pre.length) →
      sys.ready stmt s = true → holds s → asm stmt s)
    (keeps : ∀ s log t hist stmt next, holds s → sys.ready stmt s = true →
      (watched log ⟨t, hist, .perform stmt next⟩ → (contract t).requires hist stmt s) →
      holds (sys.execute stmt s).2)
    (own : ∀ s pre t hist stmt next post log,
      ok ⟨s, pre ++ ⟨t, hist, .perform stmt next⟩ :: post, log⟩ (.advance pre.length) →
      watched (⟨t, stmt, s⟩ :: log) ⟨t, ⟨stmt, (sys.execute stmt s).1⟩ :: hist,
          next (sys.execute stmt s).1⟩ → watched log ⟨t, hist, .perform stmt next⟩)
    (others : ∀ s pre t hist stmt next post log,
      ok ⟨s, pre ++ ⟨t, hist, .perform stmt next⟩ :: post, log⟩ (.advance pre.length) →
      sys.ready stmt s = true → holds s →
      ∀ other ∈ pre ++ post, watched (⟨t, stmt, s⟩ :: log) other →
        ∀ waiting, other.program.head = some waiting →
          watched log other ∧ (contract other.task).rely other.history waiting s
            (sys.execute stmt s).2) (s : State) (ms : List (Move Task))
    (along : Along sys ok (initial s) ms) (initially : holds s) :
    holds ((initial s).run sys ms).state ∧
      ThreadsMeet sys asm contract watched ((initial s).run sys ms) := by
  refine run_invariant ok (fun c => holds c.state ∧ ThreadsMeet sys asm contract watched c)
    ?_ ?_ (initial s) ms along ⟨initially, fun th mem => by cases mem⟩
  · rintro c t - ⟨kept, meet⟩
    refine ⟨kept, forall_threads_start meet fun _ => ?_⟩
    exact programs t c.state kept
  · rintro s pre t hist stmt next post log perm - ready ⟨kept, meet⟩
    have performing := meet _ mem_append_cons_self
    have here := assumes s pre t hist stmt next post log perm ready kept
    have finds : watched log ⟨t, hist, .perform stmt next⟩ →
        (contract t).requires hist stmt s := fun isWatched =>
      (performing isWatched s ((contract t).refl hist stmt s) here).1
    refine ⟨keeps s log t hist stmt next kept ready finds, ?_⟩
    -- the performing thread goes on from its own step, the others past a step they rely on
    have waiting : ∀ other ∈ pre ++ post, watched (⟨t, stmt, s⟩ :: log) other →
        other.program.Meets sys.execute asm (contract other.task) (fun _ _ _ => True)
          other.history (sys.execute stmt s).2 := by
      intro other mem isWatched
      have relies := others s pre t hist stmt next post log perm ready kept other mem isWatched
      have among : other ∈ pre ++ ⟨t, hist, .perform stmt next⟩ :: post := by
        simp only [mem_append, mem_cons] at mem ⊢
        tauto
      obtain ⟨otherTask, otherHistory, prog⟩ := other
      cases prog with
      | done res => trivial
      | perform cur cont =>
        obtain ⟨wasWatched, relied⟩ := relies cur rfl
        exact (meet _ among wasWatched).stable relied
    intro th mem isWatched
    rcases mem_append.mp mem with early | late
    · exact waiting th (mem_append_left _ early) isWatched
    · rcases mem_cons.mp late with rfl | late
      · have wasWatched := own s pre t hist stmt next post log perm isWatched
        exact (performing wasWatched s ((contract t).refl _ _ _) here).2
      · exact waiting th (mem_append_right _ late) isWatched

end Config

/-! ### One thread among others -/

section

variable {Task Statement : Type} {Outcome : Statement → Type} {State Answer : Type}

def Contract.relying (rely : State → State → Prop) (refl : ∀ state, rely state state)
    (trans : ∀ first second third, rely first second → rely second third → rely first third) :
    Contract Statement Outcome State where
  rely := fun _ _ => rely
  requires := fun _ _ _ => True
  refl := fun _ _ => refl
  trans := fun _ _ => trans

variable {rely : State → State → Prop}
  {trans : ∀ first second third, rely first second → rely second third → rely first third}
  {asm : Statement → State → Prop}
  {ensures : History Outcome → Answer → State → Prop}
  {prog : Program Statement Outcome Answer}
  {exec : (statement : Statement) → State → Outcome statement × State}
  {hist : History Outcome} {s : State}
  {sys : System Task Statement Outcome State Answer}

open Contract

theorem Program.Meets.after {refl : ∀ s, rely s s}
    (stable : ∀ hist res s later, rely s later → ensures hist res s →
      ensures hist res later) {s later : State}
    (meets : prog.Meets exec asm (relying rely refl trans) ensures hist s) (relied : rely s later) :
    prog.Meets exec asm (relying rely refl trans) ensures hist later := by
  cases prog with
  | done res => exact stable hist res s later relied meets
  | perform stmt next => exact meets.stable relied

variable (ok : Statement → Prop) (refl : ∀ s, rely s s)

theorem Program.Performs.meets_keeps_seen {refl : ∀ s, rely s s}
    (keeps : History Outcome → State → Prop)
    (own : ∀ seen stmt s, ok stmt → asm stmt s → keeps seen s →
      keeps (⟨stmt, (exec stmt s).1⟩ :: seen) (exec stmt s).2)
    (others : ∀ seen s later, rely s later → keeps seen s → keeps seen later)
    (perf : prog.Performs ok) (holds : keeps hist s) :
    prog.Meets exec asm (relying rely refl trans)
      (fun seen _ reached => keeps seen reached) hist s :=
  perf.meets_keeping (fun _ _ _ _ _ => trivial) own
    (fun seen _ s later _ => others seen s later) holds

theorem Program.Performs.meets_keeps {refl : ∀ s, rely s s} (keeps : State → Prop)
    (own : ∀ stmt s, ok stmt → asm stmt s → keeps s → keeps (exec stmt s).2)
    (others : ∀ s later, rely s later → keeps s → keeps later)
    (perf : prog.Performs ok) (holds : keeps s) :
    prog.Meets exec asm (relying rely refl trans) (fun _ _ reached => keeps reached) hist s :=
  perf.meets_keeps_seen ok (fun _ => keeps) (fun _ => own) (fun _ => others) holds

theorem Program.Meets.weaken {rely less : State → State → Prop} {refl : ∀ s, rely s s}
    {trans : ∀ first second third, rely first second → rely second third → rely first third}
    {refl' : ∀ s, less s s}
    {trans' : ∀ first second third, less first second → less second third → less first third}
    {asm narrower : Statement → State → Prop} (kept : State → Prop)
    (narrows : ∀ stmt s, kept s → narrower stmt s → asm stmt s)
    (relies : ∀ s later, kept s → less s later → kept later ∧ rely s later)
    (own : ∀ stmt s, kept s → kept (exec stmt s).2)
    (meets : prog.Meets exec asm (relying rely refl trans) ensures hist s) (holds : kept s) :
    prog.Meets exec narrower (relying less refl' trans')
      (fun seen res reached => ensures seen res reached ∧ kept reached) hist s := by
  induction prog generalizing hist s with
  | done res => exact ⟨meets, holds⟩
  | perform stmt next ih =>
    intro later relied here
    obtain ⟨still, wasRelied⟩ := relies s later holds relied
    obtain ⟨-, goesOn⟩ := meets later wasRelied (narrows stmt later still here)
    exact ⟨trivial, ih _ goesOn (own stmt later still)⟩

theorem Config.run_meets_at
    (trans : ∀ first second third, rely first second → rely second third → rely first third)
    (stable : ∀ hist res s later, rely s later → ensures hist res s →
      ensures hist res later) (i : Nat)
    (ok : Config Task Statement Outcome State Answer → Move Task → Prop)
    (others : ∀ c m t stmt, ok c m → m ≠ .advance i → c.performed sys m = some (t, stmt) →
      rely c.state (sys.execute stmt c.state).2)
    (own : ∀ c t stmt, ok c (.advance i) → c.performed sys (.advance i) = some (t, stmt) →
      asm stmt c.state) (c : Config Task Statement Outcome State Answer)
    (ms : List (Move Task)) (along : Along sys ok c ms)
    (th : Thread Task Statement Outcome Answer) (found : c.threads[i]? = some th)
    (meets : th.program.Meets sys.execute asm (relying rely refl trans) ensures
      th.history c.state) :
    ∃ later, (c.run sys ms).threads[i]? = some later ∧ later.task = th.task ∧
      later.program.Meets sys.execute asm (relying rely refl trans) ensures
        later.history (c.run sys ms).state := by
  induction ms generalizing c th with
  | nil => exact ⟨th, found, rfl, meets⟩
  | cons m ms ih =>
    have stepped : ∃ later, (c.step sys m).threads[i]? = some later ∧ later.task = th.task ∧
        later.program.Meets sys.execute asm (relying rely refl trans) ensures
          later.history (c.step sys m).state := by
      cases m with
      | start t =>
        obtain ⟨inRange, -⟩ := List.getElem?_eq_some_iff.mp found
        refine ⟨th, ?_, rfl, meets⟩
        show (c.threads ++ [_])[i]? = some th
        rw [List.getElem?_append_left inRange, found]
      | advance other =>
        cases atOther : c.threads[other]? with
        | none =>
          have idle : c.step sys (.advance other) = c := by simp only [step, atOther]
          rw [idle]
          exact ⟨th, found, rfl, meets⟩
        | some acting =>
          obtain ⟨t, hist, prog⟩ := acting
          cases prog with
          | done res =>
            have idle : c.step sys (.advance other) = c := by simp only [step, atOther]
            rw [idle]
            exact ⟨th, found, rfl, meets⟩
          | perform stmt next =>
            by_cases ready : sys.ready stmt c.state = true
            · have perf : c.performed sys (.advance other) = some (t, stmt) := by
                simp only [performed, atOther, if_pos ready]
              simp only [step, atOther, if_pos ready]
              by_cases same : other = i
              · subst same
                obtain rfl := Option.some.inj (atOther.symm.trans found)
                obtain ⟨inRange, -⟩ := List.getElem?_eq_some_iff.mp found
                refine ⟨_, List.getElem?_set_self inRange, rfl, ?_⟩
                exact (meets c.state (refl _) (own c t stmt along.1 perf)).2
              · refine ⟨th, ?_, rfl, meets.after stable ?_⟩
                · rw [List.getElem?_set_ne same, found]
                · exact others c (.advance other) t stmt along.1
                    (fun isIndex => same (Move.advance.inj isIndex)) perf
            · have idle : c.step sys (.advance other) = c := by
                simp only [step, atOther, if_neg ready]
              rw [idle]
              exact ⟨th, found, rfl, meets⟩
    obtain ⟨between, atIndex, sameTask, meetsThen⟩ := stepped
    obtain ⟨later, atEnd, same, meetsLater⟩ := ih (c.step sys m) along.2 between atIndex meetsThen
    exact ⟨later, atEnd, same.trans sameTask, meetsLater⟩

theorem Program.Meets.of_result {refl : ∀ s, rely s s} {th : Thread Task Statement Outcome Answer}
    (meets : th.program.Meets exec asm (relying rely refl trans) ensures
      th.history s) {ans : Answer} (fin : th.result = some ans) : ensures th.history ans s := by
  obtain ⟨t, hist, prog⟩ := th
  cases prog with
  | done res =>
    obtain rfl := Option.some.inj fin
    exact meets
  | perform stmt next => cases fin

theorem Config.run_ensures
    (trans : ∀ first second third, rely first second → rely second third → rely first third)
    (stable : ∀ hist res s later, rely s later → ensures hist res s →
      ensures hist res later) (c : Config Task Statement Outcome State Answer)
    (t : Task) (ms : List (Move Task))
    (ok : Config Task Statement Outcome State Answer → Move Task → Prop)
    (others : ∀ reached m other stmt, ok reached m → m ≠ .advance c.threads.length →
      reached.performed sys m = some (other, stmt) →
      rely reached.state (sys.execute stmt reached.state).2)
    (own : ∀ reached other stmt, ok reached (.advance c.threads.length) →
      reached.performed sys (.advance c.threads.length) = some (other, stmt) →
      asm stmt reached.state) (along : Along sys ok (c.step sys (.start t)) ms)
    (meets : (sys.program t).Meets sys.execute asm (relying rely refl trans)
      ensures [] c.state) {ans : Answer}
    (fin : ((c.step sys (.start t)).run sys ms).threads[
      c.threads.length]?.bind Thread.result = some ans) :
    ∃ th, ((c.step sys (.start t)).run sys ms).threads[c.threads.length]? = some th ∧
      ensures th.history ans ((c.step sys (.start t)).run sys ms).state := by
  have found : (c.step sys (.start t)).threads[c.threads.length]? =
      some ⟨t, [], sys.program t⟩ := by
    show (c.threads ++ [_])[c.threads.length]? = _
    rw [getElem?_concat_length]
  obtain ⟨last, atIndex, -, still⟩ := run_meets_at refl trans stable c.threads.length
    ok others own _ ms along _ found meets
  rw [atIndex] at fin
  exact ⟨last, atIndex, still.of_result fin⟩

end

namespace Program

variable {Statement Local : Type} {Outcome : Statement → Type} {LocalOutcome : Local → Type}
  {First Second Result : Type}

/-! ### Programs within a larger system -/

def lift : Program Statement Outcome Result →
    Program (Statement ⊕ Local) (Sum.elim Outcome LocalOutcome) Result
  | done result => done result
  | perform statement next => perform (.inl statement) fun outcome => (next outcome).lift

theorem lift_bind (prog : Program Statement Outcome First)
    (cont : First → Program Statement Outcome Second) :
    (prog >>= cont).lift =
      (prog.lift >>= fun res => (cont res).lift :
        Program (Statement ⊕ Local) (Sum.elim Outcome LocalOutcome) Second) := by
  induction prog with
  | done res => rfl
  | perform stmt next ih => exact congrArg (perform (Sum.inl stmt)) (funext ih)

theorem Performs.lift {allowed : Statement ⊕ Local → Prop} {prog : Program Statement Outcome Result}
    (perf : prog.Performs fun stmt => allowed (.inl stmt)) :
    (prog.lift : Program (Statement ⊕ Local) (Sum.elim Outcome LocalOutcome) Result).Performs
      allowed := by
  induction prog with
  | done res => trivial
  | perform stmt next ih => exact ⟨perf.1, fun out => ih out (perf.2 out)⟩

def liftEvent (event : Event Statement Outcome) :
    Event (Statement ⊕ Local) (Sum.elim Outcome LocalOutcome) :=
  ⟨.inl event.1, event.2⟩

section Lift

variable {State Whole : Type} {exec : (statement : Statement) → State → Outcome statement × State}
  {executeAll : (statement : Statement ⊕ Local) → Whole →
    Sum.elim Outcome LocalOutcome statement × Whole}
  (view : Whole → State) (frame : Whole → Prop) {asm : Statement → State → Prop}
  {assumedAll : Statement ⊕ Local → Whole → Prop} {contract : Contract Statement Outcome State}
  {contractAll : Contract (Statement ⊕ Local) (Sum.elim Outcome LocalOutcome) Whole}
  {ensures : History Outcome → Result → State → Prop}
  {base : List (Event (Statement ⊕ Local) (Sum.elim Outcome LocalOutcome))}

theorem Meets.lift
    (outs : ∀ stmt whole, (executeAll (.inl stmt) whole).1 = (exec stmt (view whole)).1)
    (views : ∀ stmt whole, view (executeAll (.inl stmt) whole).2 = (exec stmt (view whole)).2)
    (keepsFrame : ∀ stmt whole, frame whole → frame (executeAll (.inl stmt) whole).2)
    (relies : ∀ (own : History Outcome) stmt before after, frame before →
      contractAll.rely (own.map liftEvent ++ base) (.inl stmt) before after →
      assumedAll (.inl stmt) after →
      contract.rely own stmt (view before) (view after) ∧ asm stmt (view after) ∧ frame after)
    (requirement : ∀ (own : History Outcome) stmt whole, frame whole →
      contract.requires own stmt (view whole) →
      contractAll.requires (own.map liftEvent ++ base) (.inl stmt) whole)
    {prog : Program Statement Outcome Result} {own : History Outcome}
    {whole : Whole} (meets : prog.Meets exec asm contract ensures own (view whole))
    (framed : frame whole) :
    prog.lift.Meets executeAll assumedAll contractAll
      (fun seen res reached => ∃ own : History Outcome,
        seen = own.map liftEvent ++ base ∧ ensures own res (view reached) ∧ frame reached)
      (own.map liftEvent ++ base) whole := by
  induction prog generalizing own whole with
  | done res => exact ⟨own, rfl, meets, framed⟩
  | perform stmt next ih =>
    intro later relied kept
    obtain ⟨reliedPart, keptPart, framedLater⟩ := relies own stmt whole later framed relied kept
    obtain ⟨required, goesOn⟩ := meets (view later) reliedPart keptPart
    refine ⟨requirement own stmt later framedLater required, ?_⟩
    rw [← views] at goesOn
    have continued := ih _ goesOn (keepsFrame stmt later framedLater)
    rw [← outs] at continued
    exact continued

end Lift

variable {Statement : Type} {Outcome : Statement → Type} {First Second Result Duty : Type}

/-! ### Duties -/

/-- On every path the duty is discharged, or the result releases from it. -/
def Owes (discharges : Event Statement Outcome → Prop) (released : Result → Prop) :
    Program Statement Outcome Result → Prop
  | done result => released result
  | perform statement next =>
    ∀ outcome, discharges ⟨statement, outcome⟩ ∨ (next outcome).Owes discharges released

section Owes

variable {discharges : Event Statement Outcome → Prop}

theorem owes_true (prog : Program Statement Outcome Result) :
    prog.Owes discharges fun _ => True := by
  induction prog with
  | done res => trivial
  | perform stmt next ih => exact fun out => .inr (ih out)

theorem Owes.imp {weaker : Event Statement Outcome → Prop} {first second : Result → Prop}
    {prog : Program Statement Outcome Result} (owes : prog.Owes discharges first)
    (events : ∀ ev, discharges ev → weaker ev)
    (results : ∀ res, first res → second res) : prog.Owes weaker second := by
  induction prog with
  | done res => exact results res owes
  | perform stmt next ih => exact fun out => (owes out).imp (events _) (ih out)

variable {released : Second → Prop} {prog : Program Statement Outcome First}
  {cont : First → Program Statement Outcome Second}

theorem Owes.seq {between : First → Prop} (first : prog.Owes discharges between)
    (second : ∀ res, between res → (cont res).Owes discharges released) :
    (prog >>= cont).Owes discharges released := by
  induction prog with
  | done res => exact second res first
  | perform stmt next ih => exact fun out => (first out).imp_right (ih out)

theorem Owes.bind (owes : prog.Owes discharges fun _ => False) :
    (prog >>= cont).Owes discharges released :=
  owes.seq fun _ impossible => impossible.elim

theorem owes_bind (owes : ∀ res, (cont res).Owes discharges released) :
    (prog >>= cont).Owes discharges released :=
  (owes_true prog).seq fun res _ => owes res

end Owes

/-- A program that incurs a duty owes it from then on. -/
def Honours (incurs discharges : Duty → Event Statement Outcome → Prop) :
    Program Statement Outcome Result → Prop
  | done _ => True
  | perform statement next =>
    ∀ outcome,
      (∀ duty, incurs duty ⟨statement, outcome⟩ →
        (next outcome).Owes (discharges duty) fun _ => False) ∧
      (next outcome).Honours incurs discharges

section Honours

variable {incurs discharges : Duty → Event Statement Outcome → Prop}

theorem Honours.bind {prog : Program Statement Outcome First}
    {cont : First → Program Statement Outcome Second} (first : prog.Honours incurs discharges)
    (second : ∀ res, (cont res).Honours incurs discharges) :
    (prog >>= cont).Honours incurs discharges := by
  induction prog with
  | done res => exact second res
  | perform stmt next ih =>
    intro out
    obtain ⟨owes, honours⟩ := first out
    exact ⟨fun duty incurred => (owes duty incurred).bind, ih out honours⟩

theorem Performs.honours {ok : Statement → Prop}
    {prog : Program Statement Outcome Result} (perf : prog.Performs ok)
    (nothing : ∀ stmt out duty, ok stmt → ¬ incurs duty ⟨stmt, out⟩) :
    prog.Honours incurs discharges := by
  induction prog with
  | done res => trivial
  | perform stmt next ih =>
    intro out
    refine ⟨fun duty incurred => ?_, ih out (perf.2 out)⟩
    exact absurd incurred (nothing stmt out duty perf.1)

end Honours

end Program

namespace Config

variable {Task Statement : Type} {Outcome : Statement → Type} {State Answer Duty : Type}

/-- A thread has incurred the duty and has yet to discharge it. -/
def Held (incurs discharges : Duty → Event Statement Outcome → Prop) (duty : Duty)
    (config : Config Task Statement Outcome State Answer) : Prop :=
  ∃ thread ∈ config.threads, (∃ event ∈ thread.history, incurs duty event) ∧
    thread.program.Owes (discharges duty) fun _ => False

theorem not_held_of_finished {incurs discharges : Duty → Event Statement Outcome → Prop}
    {duty : Duty} {c : Config Task Statement Outcome State Answer}
    (fin : ∀ th ∈ c.threads, th.result ≠ none) : ¬ c.Held incurs discharges duty := by
  rintro ⟨⟨t, hist, prog⟩, mem, -, owes⟩
  cases prog with
  | done res => exact owes
  | perform stmt next => exact fin _ mem rfl

section Rule

variable {sys : System Task Statement Outcome State Answer}
  {incurs discharges : Duty → Event Statement Outcome → Prop}

theorem held_perform {duty : Duty} {s : State}
    {pre post : List (Thread Task Statement Outcome Answer)} {t : Task}
    {hist : History Outcome} {stmt : Statement}
    {next : Outcome stmt → Program Statement Outcome Answer}
    {log : List (Entry Task Statement State)}
    (held : Held incurs discharges duty ⟨s, pre ++ ⟨t, hist, .perform stmt next⟩ :: post, log⟩)
    (out : Outcome stmt) (later : State) (longer : List (Entry Task Statement State)) :
    discharges duty ⟨stmt, out⟩ ∨ Held incurs discharges duty
        ⟨later, pre ++ ⟨t, ⟨stmt, out⟩ :: hist, next out⟩ :: post, longer⟩ := by
  obtain ⟨th, mem, ⟨ev, seen, incurred⟩, owes⟩ := held
  rcases mem_append.mp mem with early | late
  · exact .inr ⟨th, mem_append_left _ early, ⟨ev, seen, incurred⟩, owes⟩
  · rcases mem_cons.mp late with rfl | late
    · refine (owes out).imp_right fun still => ?_
      exact ⟨_, mem_append_right _ (.head _), ⟨ev, .tail _ seen, incurred⟩, still⟩
    · exact .inr ⟨th, mem_append_right _ (.tail _ late), ⟨ev, seen, incurred⟩, owes⟩

theorem run_duties (honours : ∀ t, (sys.program t).Honours incurs discharges)
    (duty : Duty) (ok : Config Task Statement Outcome State Answer → Move Task → Prop)
    (raises : Entry Task Statement State → Prop) (valid : State → Prop)
    (settled : List (Entry Task Statement State) → State → Prop)
    (raised : ∀ c m t stmt, ok c m → c.performed sys m = some (t, stmt) →
      raises ⟨t, stmt, c.state⟩ → valid (sys.execute stmt c.state).2 ∧
        settled [] (sys.execute stmt c.state).2)
    (validates : ∀ stmt s, valid s → valid (sys.execute stmt s).2)
    (keeps : ∀ c m t stmt newer, ok c m → c.performed sys m = some (t, stmt) → valid c.state →
      settled newer c.state → settled (⟨t, stmt, c.state⟩ :: newer) (sys.execute stmt c.state).2 ∨
        incurs duty ⟨stmt, (sys.execute stmt c.state).1⟩)
    (discharged : ∀ t stmt s newer, valid s → discharges duty ⟨stmt, (sys.execute stmt s).1⟩ →
      settled (⟨t, stmt, s⟩ :: newer) (sys.execute stmt s).2)
    (s : State) (ms : List (Move Task)) (along : Along sys ok (initial s) ms)
    (newer older : List (Entry Task Statement State)) (e : Entry Task Statement State)
    (logged : ((initial s).run sys ms).log = newer ++ e :: older) (raising : raises e) :
    settled newer ((initial s).run sys ms).state ∨
      Held incurs discharges duty ((initial s).run sys ms) := by
  let located : Config Task Statement Outcome State Answer → Prop := fun c =>
    ∀ newer e older, c.log = newer ++ e :: older → raises e →
      valid c.state ∧ (settled newer c.state ∨ Held incurs discharges duty c)
  have invariant : (∀ th ∈ ((initial s).run sys ms).threads,
      th.program.Honours incurs discharges) ∧ located ((initial s).run sys ms) := by
    refine run_invariant ok (fun c => (∀ th ∈ c.threads, th.program.Honours incurs discharges) ∧
        located c) ?_ ?_ (initial s) ms along
      ⟨fun th mem => (by cases mem), fun newer e older empty => ?_⟩
    · rintro c t - ⟨honour, holds⟩
      refine ⟨forall_threads_start honour (honours t), ?_⟩
      intro newer e older logged raising
      obtain ⟨isValid, place⟩ := holds newer e older logged raising
      refine ⟨isValid, place.imp_right ?_⟩
      rintro ⟨th, mem, incurred, owes⟩
      exact ⟨th, mem_append_left _ mem, incurred, owes⟩
    · rintro s pre t hist stmt next post log perm perf - ⟨honour, holds⟩
      have performing := honour ⟨t, hist, .perform stmt next⟩
          mem_append_cons_self
      refine ⟨forall_threads_perform honour fun honoured => (honoured _).2, ?_⟩
      intro newer e older logged raising
      cases newer with
      | nil => grind
      | cons last newer =>
        obtain ⟨rfl, prev⟩ := cons.inj logged
        obtain ⟨isValid, place⟩ := holds newer e older prev raising
        refine ⟨validates stmt s isValid, ?_⟩
        rcases place with isSettled | held
        · refine (keeps _ _ t stmt newer perm perf isValid isSettled).imp_right fun incurred => ?_
          exact ⟨_, mem_append_right _ (.head _),
            ⟨_, .head _, incurred⟩, (performing _).1 duty incurred⟩
        · grind [held_perform]
    · exact absurd empty.symm (append_ne_nil_of_right_ne_nil newer (cons_ne_nil _ _))
  exact (invariant.2 newer e older logged raising).2

end Rule

end Config

end Concurrent
