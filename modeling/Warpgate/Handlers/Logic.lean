/-
This file gives the rules by which handlers are reasoned about, and machines that take events one
after the other.
-/

import Mathlib.Tactic.Common

namespace Handlers

open MonadState

section

abbrev Handler (State Fault Result : Type) := EStateM Fault State Result

variable {State Other Fault First Result : Type}

def Ended (returns : Result → State → Prop) (fails : State → Prop) :
    EStateM.Result Fault State Result → Prop
  | .ok result state => returns result state
  | .error _ state => fails state

/-- From every state before, a handler ends in one of these, also when it fails. -/
def Ensures (before : State → Prop) (handler : Handler State Fault Result)
    (returns : Result → State → Prop) (fails : State → Prop) : Prop :=
  ∀ state, before state → Ended returns fails (handler.run state)

abbrev Keeps (kept : State → Prop) (handler : Handler State Fault Result) : Prop :=
  Ensures kept handler (fun _ => kept) kept

namespace Ensures

variable {pre : State → Prop} {returns : Result → State → Prop} {fails : State → Prop}

theorem pure {res : Result} (holds : ∀ s, pre s → returns res s) :
    Ensures pre (Pure.pure res : Handler State Fault Result) returns fails := holds

theorem throw {fault : Fault} (holds : ∀ s, pre s → fails s) :
    Ensures pre (throw fault : Handler State Fault Result) returns fails := holds

theorem modify {returns : Unit → State → Prop} {change : State → State}
    (holds : ∀ s, pre s → returns () (change s)) :
    Ensures pre (modify change : Handler State Fault Unit) returns fails := holds

theorem bind {between : First → State → Prop} {first : Handler State Fault First}
    {next : First → Handler State Fault Result} (starts : Ensures pre first between fails)
    (goesOn : ∀ res, Ensures (between res) (next res) returns fails) :
    Ensures pre (first >>= next) returns fails := by
  intro s start
  have middle := starts s start
  rw [EStateM.run_bind]
  cases ended : first.run s with
  | ok res later =>
    rw [ended] at middle
    exact goesOn res later middle
  | error fault later =>
    rw [ended] at middle
    exact middle

theorem map {hdl : Handler State Fault First} {image : First → Result}
    (holds : Ensures pre hdl (fun res => returns (image res)) fails) :
    Ensures pre (image <$> hdl) returns fails := by
  rw [map_eq_pure_bind]
  exact holds.bind fun _ => Ensures.pure fun _ ends => ends

theorem read {next : State → Handler State Fault Result}
    (goesOn : ∀ seen, pre seen → Ensures (· = seen) (next seen) returns fails) :
    Ensures pre (get >>= next) returns fails := by
  intro seen start
  rw [EStateM.run_bind]
  exact goesOn seen start seen rfl

variable {allowed ok : State → Prop} {hdl : Handler State Fault Result}

theorem imp {stronger : State → Prop} {weaker : Result → State → Prop}
    (holds : Ensures pre hdl returns fails) (start : ∀ s, stronger s → pre s)
    (conclusion : ∀ res s, returns res s → weaker res s)
    (failure : ∀ s, fails s → allowed s) : Ensures stronger hdl weaker allowed := by
  intro s given
  have ends := holds s (start s given)
  cases ended : hdl.run s with
  | ok res later =>
    rw [ended] at ends
    exact conclusion res later ends
  | error fault later =>
    rw [ended] at ends
    exact failure later ends

theorem weaken (holds : Ensures pre hdl returns fails)
    (failure : ∀ s, fails s → ok s) : Ensures pre hdl returns ok :=
  holds.imp (fun _ given => given) (fun _ _ ends => ends) failure

end Ensures

theorem run_observing (hdl : Handler State Fault Result) (s : State) :
    (observing hdl).run s =
      match hdl.run s with
      | .ok res later => .ok (.ok res) later
      | .error fault later => .ok (.error fault) later := by
  let wrapped : Handler State Fault (Except Fault Result) := hdl >>= fun res => Pure.pure (.ok res)
  show EStateM.tryCatch wrapped _ s = _
  unfold EStateM.tryCatch
  cases ended : hdl.run s with
  | ok res later =>
    have returned : wrapped s = .ok (.ok res) later := by
      show wrapped.run s = _
      rw [EStateM.run_bind, ended]
      rfl
    rw [returned]
  | error fault later =>
    have failed : wrapped s = .error fault later := by
      show wrapped.run s = _
      rw [EStateM.run_bind, ended]
    rw [failed]
    rfl

inductive SameEnd (returns : Result → State → Other → Prop) (fails : State → Other → Prop) :
    EStateM.Result Fault State Result → EStateM.Result Fault Other Result → Prop
  | ok (result : Result) {state : State} {other : Other} (holds : returns result state other) :
      SameEnd returns fails (.ok result state) (.ok result other)
  | error (fault : Fault) {state : State} {other : Other} (holds : fails state other) :
      SameEnd returns fails (.error fault state) (.error fault other)

theorem SameEnd.imp {returns weaker : Result → State → Other → Prop}
    {fails allowed : State → Other → Prop} {ended : EStateM.Result Fault State Result}
    {endedOther : EStateM.Result Fault Other Result} (same : SameEnd returns fails ended endedOther)
    (conclusion : ∀ res s other, returns res s other → weaker res s other)
    (failure : ∀ s other, fails s other → allowed s other) :
    SameEnd weaker allowed ended endedOther := by
  cases same with
  | ok res holds => exact .ok res (conclusion res _ _ holds)
  | error fault holds => exact .error fault (failure _ _ holds)

/-- From related states, both end alike and in related states. -/
def Alike (before : State → Other → Prop) (first : Handler State Fault Result)
    (second : Handler Other Fault Result) (returns : Result → State → Other → Prop)
    (fails : State → Other → Prop) : Prop :=
  ∀ state other, before state other →
    SameEnd returns fails (first.run state) (second.run other)

namespace Alike

variable {pre : State → Other → Prop} {returns : Result → State → Other → Prop}
  {fails : State → Other → Prop}

theorem pure {res : Result} (holds : ∀ s other, pre s other → returns res s other) :
    Alike pre (Pure.pure res : Handler State Fault Result) (Pure.pure res) returns fails :=
  fun s other start => .ok res (holds s other start)

theorem throw {fault : Fault} (holds : ∀ s other, pre s other → fails s other) :
    Alike pre (throw fault : Handler State Fault Result) (throw fault) returns fails :=
  fun s other start => .error fault (holds s other start)

theorem modify {returns : Unit → State → Other → Prop} {change : State → State}
    {changeOther : Other → Other}
    (holds : ∀ s other, pre s other → returns () (change s) (changeOther other)) :
    Alike pre (modify change : Handler State Fault Unit) (modify changeOther) returns fails :=
  fun s other start => .ok () (holds s other start)

variable {second : Handler Other Fault First} {first : Handler State Fault First}
  {next : State → Handler State Fault Result} {nextOther : Other → Handler Other Fault Result}

theorem bind {between : First → State → Other → Prop} {next : First → Handler State Fault Result}
    {nextOther : First → Handler Other Fault Result} (starts : Alike pre first second between fails)
    (goesOn : ∀ res, Alike (between res) (next res) (nextOther res) returns fails) :
    Alike pre (first >>= next) (second >>= nextOther) returns fails := by
  intro s other start
  have middle := starts s other start
  rw [EStateM.run_bind, EStateM.run_bind]
  generalize first.run s = ended, second.run other = endedOther at middle
  cases middle with
  | ok res holds => exact goesOn res _ _ holds
  | error fault holds => exact .error fault holds

theorem read
    (goesOn : ∀ seen seenOther, pre seen seenOther →
      Alike (fun s other => s = seen ∧ other = seenOther) (next seen)
        (nextOther seenOther) returns fails) :
    Alike pre (get >>= next) (get >>= nextOther) returns fails := by
  intro s other start
  rw [EStateM.run_bind, EStateM.run_bind]
  exact goesOn s other start s other ⟨rfl, rfl⟩

theorem imp {stronger : State → Other → Prop} {weaker : Result → State → Other → Prop}
    {ok : State → Other → Prop} {first : Handler State Fault Result}
    {second : Handler Other Fault Result} (holds : Alike pre first second returns fails)
    (start : ∀ s other, stronger s other → pre s other)
    (conclusion : ∀ res s other, returns res s other → weaker res s other)
    (failure : ∀ s other, fails s other → ok s other) : Alike stronger first second weaker ok :=
  fun s other given => (holds s other (start s other given)).imp conclusion failure

theorem look
    (goesOn : ∀ seen seenOther, pre seen seenOther →
      Alike pre (next seen) (nextOther seenOther) returns fails) :
    Alike pre (get >>= next) (get >>= nextOther) returns fails := by
  refine read fun seen seenOther start => (goesOn seen seenOther start).imp ?_
    (fun _ _ _ ends => ends) fun _ _ ends => ends
  rintro _ _ ⟨rfl, rfl⟩
  exact start

theorem observing {returns : Except Fault First → State → Other → Prop}
    (holds : Alike pre first second (fun res => returns (.ok res))
      (fun s other => ∀ fault, returns (.error fault) s other)) :
    Alike pre (observing first) (observing second) returns fails := by
  intro s other start
  have ends := holds s other start
  rw [run_observing, run_observing]
  generalize first.run s = ended, second.run other = endedOther at ends
  cases ends with
  | ok res related => exact .ok _ related
  | error fault related => exact .ok _ (related fault)

end Alike

end

variable {State Event : Type}

def run (step : State → Event → State) (state : State) (events : List Event) : State :=
  events.foldl step state

def Along (step : State → Event → State) (condition : State → Event → Prop) :
    State → List Event → Prop
  | _, [] => True
  | state, event :: later =>
    condition state event ∧ Along step condition (step state event) later

instance Along.decidable (step : State → Event → State) (condition : State → Event → Prop)
    [∀ state event, Decidable (condition state event)] :
    ∀ state events, Decidable (Along step condition state events)
  | _, [] => inferInstanceAs (Decidable True)
  | state, event :: later =>
    haveI := Along.decidable step condition (step state event) later
    inferInstanceAs (Decidable (_ ∧ _))

variable {step : State → Event → State} {cond : State → Event → Prop} {kept : State → Prop}
  {state s : State} {events : List Event}

theorem Along.keeps (keeps : ∀ s ev, kept s → cond s ev → kept (step s ev))
    (along : Along step cond s events) (holds : kept s) : kept (run step s events) := by
  induction events generalizing s with
  | nil => exact holds
  | cons ev later ih => exact ih along.2 (keeps s ev holds along.1)

theorem Along.and_forall {holds : Event → Prop} (along : Along step cond s events)
    (all : ∀ ev ∈ events, holds ev) : Along step (fun s ev => cond s ev ∧ holds ev) s events := by
  induction events generalizing s with
  | nil => trivial
  | cons ev later ih =>
    rw [List.forall_mem_cons] at all
    exact ⟨⟨along.1, all.1⟩, ih along.2 all.2⟩

theorem along_append {first second : List Event} :
    Along step cond s (first ++ second) ↔
      Along step cond s first ∧ Along step cond (run step s first) second := by
  induction first generalizing s with
  | nil => exact ⟨fun along => ⟨trivial, along⟩, fun both => both.2⟩
  | cons ev later ih =>
    rw [List.cons_append, Along, Along, ih, and_assoc]
    exact Iff.rfl

theorem run_keeps (keeps : ∀ s ev, kept s → kept (step s ev))
    (events : List Event) (holds : kept s) : kept (run step s events) := by
  induction events generalizing s with
  | nil => exact holds
  | cons ev later ih => exact ih (keeps s ev holds)

section Answers

variable {Other Answer : Type}

def answers (step : State → Event → Answer × State) : State → List Event → List Answer
  | _, [] => []
  | state, event :: later => (step state event).1 :: answers step (step state event).2 later

theorem answers_eq {step : State → Event → Answer × State} {other : Other → Event → Answer × Other}
    {cond : State → Event → Prop} {related : State → Other → Prop}
    (alike : ∀ s otherState ev, related s otherState → cond s ev →
      (step s ev).1 = (other otherState ev).1 ∧ related (step s ev).2 (other otherState ev).2)
    {s : State} {otherState : Other} {events : List Event}
    (along : Along (fun s ev => (step s ev).2) cond s events) (start : related s otherState) :
    answers step s events = answers other otherState events := by
  induction events generalizing s otherState with
  | nil => rfl
  | cons ev later ih =>
    obtain ⟨same, goesOn⟩ := alike s otherState ev start along.1
    rw [answers, answers, same, ih along.2 goesOn]

end Answers

end Handlers
