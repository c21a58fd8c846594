/-
This file is about a login that waits for the approval of its user.
-/

import Warpgate.Approvals.Asked
import Warpgate.Login.System

namespace Warpgate.Login

open Concurrent List Option Config World Statement Approvals Approvals.StatusTransition Login.Task
open Approvals (Key Request NewRequest Db Asked)
open Auth (Primitives AuthResult AuthState plain)

variable {primitives P : Primitives}

namespace Statement

def receives (index : Nat) : AnyStatement → Bool
  | .inr (.recv place) => place = index
  | _ => false

def idles (index : Nat) : AnyStatement → Bool
  | .inr (.idle place) => place = index
  | _ => false

def advertises (index : Nat) : AnyStatement → Bool
  | .inr (.lockAdvertise place) => place = index
  | _ => false

end Statement

variable (kind : AnyStatement → Bool)

/-! ### What a forwarder has in hand -/

def seen (history : History AnyStatement.Outcome) : Bool :=
  history.any fun event => kind event.1

@[simp] theorem seen_nil : seen kind [] = false := rfl

@[simp] theorem seen_cons
    (ev : Event AnyStatement AnyStatement.Outcome) (hist : History AnyStatement.Outcome) :
    seen kind (ev :: hist) = (kind ev.1 || seen kind hist) := rfl

structure InFlight (index : Nat) (advertised : Bool)
    (history : History AnyStatement.Outcome) : Prop where
  received : seen (Statement.receives index) history = true
  working : seen (Statement.idles index) history = false
  advertised : seen (Statement.advertises index) history = advertised

def Task.Ordered (task : Task) (history : History AnyStatement.Outcome)
    (statement : AnyStatement) : Prop :=
  task.MayPerform statement ∧ ∀ index now closedAt, task = .forward index now closedAt →
    if Statement.receives index statement then history = []
    else ∃ advertised, InFlight index advertised history ∧
      (Statement.advertises index statement = true → advertised = false)

variable {i : Nat} {now closed : OffsetDateTime} {adv : Bool} {Result : Type}
  {hist : History AnyStatement.Outcome} {stmt : AnyStatement}

variable (index : Nat)

def Statement.Within (statement : AnyStatement) : Prop :=
  (Task.forward index 0 0).MayPerform statement ∧ Statement.receives index statement = false ∧
    Statement.idles index statement = false ∧ Statement.advertises index statement = false

theorem InFlight.cons (inFlight : InFlight i adv hist)
    (within : Within i stmt) (out : AnyStatement.Outcome stmt) :
    InFlight i adv (⟨stmt, out⟩ :: hist) := by
  obtain ⟨-, unreceiving, working, unadvertising⟩ := within
  refine ⟨?_, ?_, ?_⟩
  · rw [seen_cons, unreceiving, inFlight.received, Bool.false_or]
  · rw [seen_cons, working, inFlight.working, Bool.or_self]
  · rw [seen_cons, unadvertising, inFlight.advertised, Bool.false_or]

theorem ask_within (i : Nat) (prog : Query Result) : (ask prog).Performs (Within i) := by
  induction prog with
  | done res => trivial
  | perform stmt next ih => exact ⟨⟨trivial, rfl, rfl, rfl⟩, ih⟩

theorem tryWebApprovalBypass_within (i : Nat) (now closed : OffsetDateTime) :
    (tryWebApprovalBypass P i now closed).Performs (Within i) :=
  tryWebApprovalBypass_performs i now closed ⟨trivial, rfl, rfl, rfl⟩ ⟨rfl, rfl, rfl, rfl⟩
    (fun _ _ _ => ⟨trivial, rfl, rfl, rfl⟩) ⟨rfl, rfl, rfl, rfl⟩ (fun _ => ask_within i _)
    ⟨rfl, rfl, rfl, rfl⟩

theorem follows_of_within {prog : Action Result}
    (perf : prog.Performs (Within i)) (inFlight : InFlight i adv hist) :
    prog.Follows (forward i now closed).Ordered (fun seen _ => InFlight i adv seen) hist := by
  induction prog generalizing hist with
  | done res => exact inFlight
  | perform stmt next ih =>
    obtain ⟨within, goesOn⟩ := perf
    refine ⟨⟨?_, ?_⟩, fun out => ih out (goesOn out) (inFlight.cons within out)⟩
    · cases stmt <;> exact within.1
    · rintro _ _ _ same
      cases same
      rw [within.2.1]
      refine ⟨adv, inFlight, fun advertises => ?_⟩
      rw [within.2.2.2] at advertises
      cases advertises

theorem advertiseUserRequest_ordered (inFlight : InFlight i false hist) :
    (advertiseUserRequest i).Follows (forward i now closed).Ordered
      (fun seen _ => ∃ adv, InFlight i adv seen) hist := by
  refine ⟨⟨rfl, ?_⟩, fun asked => ?_⟩
  · rintro _ _ _ same
    cases same
    exact ⟨false, inFlight, fun _ => rfl⟩
  · have adv : InFlight i true (⟨.inr (.lockAdvertise i), asked⟩ :: hist) :=
      ⟨by simp [inFlight.received], by simp [inFlight.working, idles],
        by simp [advertises]⟩
    cases asked with
    | none => exact ⟨true, adv⟩
    | some req =>
      have rest : (do
          let _ ← ask (upsertRequest req)
          act (.unlock i)
          pure true : Action Bool).Performs (Within i) :=
        (ask_within i _).bind fun _ => ⟨⟨rfl, rfl, rfl, rfl⟩, fun _ => trivial⟩
      exact (follows_of_within rest adv).imp (fun _ _ ord => ord)
        fun _ _ inFlight => ⟨true, inFlight⟩

theorem forward_ordered (i : Nat) (now closed : OffsetDateTime) :
    (forwardWebAuthRequest P i now closed).Follows
      (forward i now closed).Ordered (fun _ _ => True) [] := by
  have idles : ∀ {adv seen}, InFlight i adv seen →
      (act (.idle i)).Follows (forward i now closed).Ordered (fun _ _ => True) seen := by
    intro adv seen inFlight
    refine ⟨⟨rfl, ?_⟩, fun _ => trivial⟩
    rintro _ _ _ same
    cases same
    exact ⟨adv, inFlight, by nofun⟩
  refine ⟨⟨rfl, ?_⟩, fun v => ?_⟩
  · rintro _ _ _ same
    cases same
    simp [receives]
  · have received : InFlight i false [⟨.inr (.recv i), v⟩] := ⟨by simp [receives], rfl, rfl⟩
    rcases v with - | accepted | ks | -
    · exact idles received
    · exact idles received
    · show Program.Follows _ _ _ (if Auth.CredentialKind.webUserApproval ∈ ks then _ else _)
      split
      · have needed : (onWebApprovalNeeded P i now closed).Follows
            (forward i now closed).Ordered (fun seen _ => ∃ adv, InFlight i adv seen)
            [⟨.inr (.recv i), some (.need ks)⟩] := by
          refine (follows_of_within (tryWebApprovalBypass_within i now closed) received).seq
            fun seen bypassed inFlight => ?_
          cases bypassed with
          | true => exact ⟨false, inFlight⟩
          | false => exact (advertiseUserRequest_ordered inFlight).seq fun _ _ inFlight => inFlight
        exact needed.seq fun seen _ ⟨_, inFlight⟩ => idles inFlight
      · exact idles received
    · exact idles received

theorem Task.program_ordered (t : Task) : (t.program P).Follows t.Ordered (fun _ _ => True) [] := by
  cases t with
  | forward i now closed => exact forward_ordered i now closed
  | _ =>
    refine (program_performs P _).follows (fun seen stmt may => ⟨may, ?_⟩) fun _ _ => trivial
    exact fun _ _ _ same => by cases same

variable {t : Task} {w : World P} {attempt att later : Attempt}
  {log : List (Entry Task AnyStatement (World P))}

theorem forwarder_change (P : Primitives) (unreceiving : receives i stmt = false)
    (working : idles i stmt = false) (att : Attempt) :
    (change P i stmt att).forwarding = att.forwarding ∧
      (change P i stmt att).received = att.received := by
  rcases stmt with stmt | stmt
  · exact ⟨rfl, rfl⟩
  · cases stmt with
    | recv place | idle place => simp_all [change, receives, idles]
    | commitBypass place =>
      simp only [change]
      split
      · unfold Attempt.commitBypass Attempt.call
        cases (att.state.handle .commitBypass).1 <;> exact ⟨rfl, rfl⟩
      · exact ⟨rfl, rfl⟩
    | lockAdvertise place =>
      simp only [change]
      split
      · unfold Attempt.lockAdvertise
        split <;> exact ⟨rfl, rfl⟩
      · exact ⟨rfl, rfl⟩
    | call place made | deliver place r dec | unlock place =>
      simp only [change]
      split <;> exact ⟨rfl, rfl⟩
    | _ => exact ⟨rfl, rfl⟩

/-! ### One forwarder for an attempt -/

def World.forwarding (world : World primitives) (index : Nat) : Bool :=
  world.attempts[index]?.any (·.forwarding)

theorem forwarding_execute (unreceiving : receives i stmt = false)
    (working : idles i stmt = false) (w : World P) :
    (execute P stmt w).2.forwarding i = w.forwarding i := by
  unfold forwarding
  cases found : w.attempts[i]? with
  | some att =>
    rw [attempt_execute stmt found, any_some, any_some,
      (forwarder_change P unreceiving working att).1]
  | none =>
    cases foundLater : (execute P stmt w).2.attempts[i]? with
    | none => rfl
    | some later =>
      rcases attempt_of_execute foundLater with ⟨pre, foundBefore, -⟩ | ⟨_, _, -, -, -, rfl⟩
      · rw [found] at foundBefore
        cases foundBefore
      · rfl

def atWork (thread : Thread Task AnyStatement AnyStatement.Outcome Unit) : Bool :=
  seen (Statement.receives index) thread.history && !seen (Statement.idles index) thread.history

def OneForwarder (config : State primitives) : Prop :=
  config.threads.countP (atWork index) = (config.state.forwarding index).toNat

variable {pre post : List (Thread Task AnyStatement AnyStatement.Outcome Unit)}
  {next : AnyStatement.Outcome stmt → Action Unit}

theorem isForward_of_forwards {stmt : Statement}
    (may : t.MayPerform (.inr stmt)) (forwards : stmt.forwards = some i) :
    ∃ now closed, t = .forward i now closed := by
  cases t with
  | forward own now closed =>
    obtain rfl : own = i := some.inj (may.symm.trans forwards)
    exact ⟨now, closed, rfl⟩
  | _ =>
    rw [show stmt.forwards = none from may] at forwards
    cases forwards

theorem eq_forward_of_forwardedIndex (forwards : t.forwardedIndex = some i) :
    ∃ now closed, t = .forward i now closed := by
  cases t with
  | forward own now closed =>
    obtain rfl : own = i := some.inj forwards
    exact ⟨now, closed, rfl⟩
  | _ => cases forwards

variable {s : World P}

theorem forwarding_recv {att : Attempt} (found : s.attempts[i]? = some att) :
    (execute P (.inr (.recv i)) s).2.forwarding i = true := by
  rw [forwarding, attempt_execute _ found, any_some]
  simp only [change, if_true, Attempt.recv]
  split <;> rfl

theorem atWork_of_ordered (ord : (forward i now closed).Ordered hist stmt)
    (unreceiving : receives i stmt = false) (prog : Action Unit) :
    atWork i ⟨.forward i now closed, hist, prog⟩ = true := by
  have rest := ord.2 i now closed rfl
  rw [unreceiving] at rest
  obtain ⟨_, inFlight, -⟩ := rest
  simp [atWork, inFlight.received, inFlight.working]

theorem eq_recv_of_receives (receives : receives i stmt = true) : stmt = .inr (.recv i) := by
  rcases stmt with stmt | stmt
  · cases receives
  · cases stmt with
    | recv place => rw [of_decide_eq_true receives]
    | _ => cases receives

theorem eq_idle_of_idles (idles : idles i stmt = true) : stmt = .inr (.idle i) := by
  rcases stmt with stmt | stmt
  · cases idles
  · cases stmt with
    | idle place => rw [of_decide_eq_true idles]
    | _ => cases idles

theorem eq_lockAdvertise_of_advertises (advertises : advertises i stmt = true) :
    stmt = .inr (.lockAdvertise i) := by
  rcases stmt with stmt | stmt
  · cases advertises
  · cases stmt with
    | lockAdvertise place => rw [of_decide_eq_true advertises]
    | _ => cases advertises

theorem ready_recv (isReady : ready P (.inr (.recv i)) s = true) :
    ∃ att, s.attempts[i]? = some att ∧ att.forwarding = false ∧
      att.received < att.state.stateChangeSignal.length := by
  obtain ⟨att, found, waiting⟩ := (any_eq_true _ _).mp isReady
  simp only [Bool.and_eq_true, Bool.not_eq_true', decide_eq_true_eq] at waiting
  exact ⟨att, found, waiting⟩

theorem oneForwarder_perform {log : List (Entry Task AnyStatement (World P))}
    (ord : t.Ordered hist stmt) (isReady : ready P stmt s = true)
    (one : OneForwarder i ⟨s, pre ++ ⟨t, hist, .perform stmt next⟩ :: post, log⟩) :
    OneForwarder i
      ⟨(execute P stmt s).2, pre ++ ⟨t, ⟨stmt, (execute P stmt s).1⟩ :: hist,
          next (execute P stmt s).1⟩ :: post, ⟨t, stmt, s⟩ :: log⟩ := by
  unfold OneForwarder at one ⊢
  simp only [countP_append, countP_cons] at one ⊢
  cases receives : receives i stmt with
  | true =>
    obtain rfl := eq_recv_of_receives receives
    obtain ⟨now, closed, rfl⟩ := isForward_of_forwards ord.1 rfl
    obtain ⟨att, found, unforwarded, -⟩ := ready_recv isReady
    have first := ord.2 i now closed rfl
    simp only [receives, if_true] at first
    subst first
    have idleBefore : s.forwarding i = false := by
      rw [forwarding, found, any_some, unforwarded]
    have restedBefore : atWork i ⟨.forward i now closed, [],
        .perform (.inr (.recv i)) next⟩ = false := rfl
    have worksAfter : atWork i ⟨.forward i now closed,
        [⟨.inr (.recv i), (execute P (.inr (.recv i)) s).1⟩],
        next (execute P (.inr (.recv i)) s).1⟩ = true := by
      simp [atWork, receives, idles]
    rw [restedBefore, idleBefore] at one
    rw [worksAfter, forwarding_recv found]
    simp only [Bool.false_eq_true, if_false, if_true, Bool.toNat_false, Bool.toNat_true] at one ⊢
    omega
  | false =>
    cases idles : idles i stmt with
    | true =>
      obtain rfl := eq_idle_of_idles idles
      obtain ⟨now, closed, rfl⟩ := isForward_of_forwards ord.1 rfl
      have idleAfter : (execute P (.inr (.idle i)) s).2.forwarding i = false := by
        rw [forwarding, attempts_execute]
        cases s.attempts[i]? with
        | none => simp [begun]
        | some att => simp [change, Attempt.idle]
      have worksBefore := atWork_of_ordered ord receives (.perform _ next)
      have restsAfter : atWork i ⟨.forward i now closed,
          ⟨.inr (.idle i), (execute P (.inr (.idle i)) s).1⟩ :: hist,
          next (execute P (.inr (.idle i)) s).1⟩ = false := by
        simp [atWork, idles]
      rw [worksBefore] at one
      rw [restsAfter, idleAfter]
      have atMost := Bool.toNat_le (s.forwarding i)
      simp only [Bool.false_eq_true, if_false, if_true, Bool.toNat_false] at one ⊢
      omega
    | false =>
      have same : atWork i ⟨t, ⟨stmt, (execute P stmt s).1⟩ :: hist, next (execute P stmt s).1⟩ =
          atWork i ⟨t, hist, .perform stmt next⟩ := by
        simp only [atWork, seen_cons, receives, idles, Bool.false_or]
      rw [same, forwarding_execute receives idles]
      exact one

structure Forwarded (index : Nat) (config : State primitives) : Prop where
  ordered : Config.ThreadsFollow Task.Ordered (fun _ _ _ => True) config
  one : OneForwarder index config
  events : ∀ thread ∈ config.threads, ∀ event ∈ thread.history, thread.task.MayPerform event.1

theorem forwarded_of_run (i : Nat) (us : Users P)
    (tks : Sql.Table Ticket Ticket.id) (params : Parameters)
    (ns : List NodeId) (ms : List (Move Task)) :
    Forwarded i ((initial (fresh us tks params ns)).run (system P) ms) := by
  refine (fun all => ⟨all.1, all.2.1, all.2.2⟩) (run_invariant_of_protocol
    program_ordered (fun _ _ => True)
    (fun c => OneForwarder i c ∧ ∀ th ∈ c.threads, ∀ ev ∈ th.history, th.task.MayPerform ev.1)
    ?_ ?_ (fresh us tks params ns) ms (along_of_forall (system P) (fun _ _ => trivial) _ _)
    ⟨rfl, fun _ mem => by cases mem⟩)
  · rintro c t - ⟨one, events⟩
    refine ⟨?_, forall_threads_start events fun _ seen => by cases seen⟩
    unfold OneForwarder at one ⊢
    rw [countP_append, one]
    rfl
  · rintro s pre t hist stmt next post log - perf ord ⟨one, events⟩
    refine ⟨oneForwarder_perform ord (ready_of_performed _ perf) one, ?_⟩
    refine forall_threads_perform events fun prev ev seen => ?_
    rcases mem_cons.mp seen with rfl | old
    · exact ord.1
    · exact prev ev old

theorem Forwarded.inFlight {c : State P} (forwarded : Forwarded i c)
    (mem : ⟨t, hist, .perform stmt next⟩ ∈ c.threads)
    (begun : seen (receives i) hist = true ∨ seen (advertises i) hist = true) :
    ∃ now closed adv, t = .forward i now closed ∧ receives i stmt = false ∧ InFlight i adv hist ∧
      (advertises i stmt = true → adv = false) := by
  obtain ⟨ev, isSeen, own, isOwn, forwards⟩ : ∃ ev ∈ hist, ∃ own : Statement,
      ev.1 = .inr own ∧ own.forwards = some i := by
    rcases begun with received | adv
    · obtain ⟨ev, isSeen, receives⟩ := any_eq_true.mp received
      exact ⟨ev, isSeen, _, eq_recv_of_receives receives, rfl⟩
    · obtain ⟨ev, isSeen, advertises⟩ := any_eq_true.mp adv
      exact ⟨ev, isSeen, _, eq_lockAdvertise_of_advertises advertises, rfl⟩
  have may := forwarded.events _ mem ev isSeen
  rw [isOwn] at may
  obtain ⟨now, closed, rfl⟩ := isForward_of_forwards may forwards
  have ord : (forward i now closed).Ordered hist stmt := (forwarded.ordered _ mem).1
  have place := ord.2 i now closed rfl
  by_cases receives : receives i stmt = true
  · grind
  · grind

def World.Announced (world : World primitives) : Prop :=
  ∀ (index : Nat) (attempt : Attempt), world.attempts[index]? = some attempt →
    attempt.state.Announced ∧ attempt.received ≤ attempt.state.stateChangeSignal.length

theorem announced_change (P : Primitives) (i : Nat) (stmt : AnyStatement)
    {att : Attempt} (announced : att.state.Announced) : (change P i stmt att).state.Announced := by
  rcases state_change P i stmt att with same | ⟨made, same⟩
  · rw [same]
    exact announced
  · rw [same]
    exact announced.handle made

theorem signals_change (P : Primitives) (i : Nat) (stmt : AnyStatement) (att : Attempt) :
    att.state.stateChangeSignal <+: (change P i stmt att).state.stateChangeSignal := by
  rcases state_change P i stmt att with same | ⟨made, same⟩
  · rw [same]
  · rw [same]
    exact att.state.signals_handle made

theorem Attempt.recv_cases (att : Attempt)
    (waiting : att.received < att.state.stateChangeSignal.length) :
    (att.recv.1 = none ∧ att.recv.2.received < att.recv.2.state.stateChangeSignal.length) ∨
    ∃ v, att.recv.1 = some v ∧ att.recv.2.received = att.received + 1 ∧
      att.recv.2.state.stateChangeSignal[att.received]? = some v := by
  unfold recv
  simp only
  split
  · grind [broadcastCapacity]
  · grind

theorem World.Announced.execute (announced : w.Announced) (isReady : ready P stmt w = true) :
    (Login.execute P stmt w).2.Announced := by
  intro i later found
  rcases attempt_of_execute found with ⟨att, foundBefore, rfl⟩ | ⟨login, user, -, -, -, rfl⟩
  · obtain ⟨announcedBefore, inRange⟩ := announced i att foundBefore
    refine ⟨announced_change P i stmt announcedBefore, ?_⟩
    have grown := (signals_change P i stmt att).length_le
    cases receives : receives i stmt with
    | false =>
      cases idles : idles i stmt with
      | false =>
        rw [(forwarder_change P receives idles att).2]
        omega
      | true =>
        obtain rfl := eq_idle_of_idles idles
        simpa [change, Attempt.idle] using inRange
    | true =>
      obtain rfl := eq_recv_of_receives receives
      obtain ⟨same, foundSame, -, waiting⟩ := ready_recv isReady
      obtain rfl := some.inj (foundBefore.symm.trans foundSame)
      simp only [change, if_true]
      rcases att.recv_cases waiting with ⟨-, behind⟩ | ⟨v, -, next, -⟩
      · omega
      · rw [next, Attempt.state_recv]
        omega
  · exact ⟨AuthState.announced_new .., Nat.zero_le _⟩

structure Attempt.Continues (primitives : Primitives) (advertised : Bool)
    (attempt later : Attempt) : Prop where
  about : later.state.about = attempt.state.about
  received : later.received = attempt.received
  signals : attempt.state.stateChangeSignal <+: later.state.stateChangeSignal
  matchKey : advertised = true →
    later.state.stateChangeSignal.length = attempt.state.stateChangeSignal.length →
    later.state.webApprovalMatchKey primitives = attempt.state.webApprovalMatchKey primitives

theorem Attempt.key_of_about (same : later.state.about = att.state.about) :
    later.key = att.key := by
  have sameSession : later.state.sessionId = att.state.sessionId := congrArg (·.1) same
  have sameTarget : later.state.targetName = att.state.targetName := congrArg (·.2.2.2.2.1) same
  rw [key, key, sameSession, sameTarget]

theorem Attempt.Continues.asker (onwards : att.Continues P true later)
    (same : later.state.stateChangeSignal.length = att.state.stateChangeSignal.length) :
    (later.request P).toRow.asker = (att.request P).toRow.asker := by
  have sameUser := AuthState.userInfo_of_about onwards.about
  simp only [Request.asker, Attempt.request, NewRequest.toRow, sameUser, onwards.matchKey rfl same]

def World.Continues (advertised : Bool) (before after : World primitives) : Prop :=
  ∀ attempt, before.attempts[index]? = some attempt →
    (∃ later, after.attempts[index]? = some later ∧
      attempt.Continues primitives advertised later) ∧
    (advertised = true → Db.Keeps attempt.key before.db after.db)

theorem World.continues_refl (i : Nat) (adv : Bool) (w : World P) : Continues i adv w w :=
  fun att found => ⟨⟨att, found, rfl, rfl, prefix_rfl, fun _ _ => rfl⟩,
    fun _ => Db.keeps_of_same rfl⟩

theorem World.Continues.trans {first second third : World P}
    (toSecond : Continues i adv first second) (toThird : Continues i adv second third) :
    Continues i adv first third := by
  intro att found
  obtain ⟨⟨later, foundLater, onwards⟩, keeps⟩ := toSecond att found
  obtain ⟨⟨last, foundLast, furtherOn⟩, keepsOn⟩ := toThird later foundLater
  refine ⟨⟨last, foundLast, ?_⟩, fun asked => ?_⟩
  · refine ⟨furtherOn.about.trans onwards.about, furtherOn.received.trans onwards.received,
      onwards.signals.trans furtherOn.signals, fun asked sameLength => ?_⟩
    have grown := onwards.signals.length_le
    have grownOn := furtherOn.signals.length_le
    rw [furtherOn.matchKey asked (by omega), onwards.matchKey asked (by omega)]
  · rw [← Attempt.key_of_about onwards.about] at keeps ⊢
    exact (keeps asked).trans (keepsOn asked)

/-! ### Questions that can be answered -/

def Answerable (world : World primitives) : Prop :=
  ∀ attempt, world.attempts[index]? = some attempt →
    attempt.received = attempt.state.stateChangeSignal.length →
    attempt.state.needsWebApproval = true → Asked (attempt.request primitives) world.db

def advertising : Contract AnyStatement AnyStatement.Outcome (World primitives) where
  rely history _ before after := seen (Statement.receives index) history = true →
    World.Continues index (seen (Statement.advertises index) history) before after
  requires _ statement world := Statement.idles index statement = true → Answerable index world
  refl _ _ world _ := World.continues_refl index _ world
  trans _ _ _ _ _ first second received := (first received).trans (second received)

def Available (statement : AnyStatement) (world : World primitives) : Prop :=
  world.Announced ∧ ready primitives statement world = true

def AttemptIs (property : Attempt → Prop) (world : World primitives) : Prop :=
  ∃ attempt, world.attempts[index]? = some attempt ∧ property attempt

def Lasting (primitives : Primitives) (advertised : Bool) (property : Attempt → Prop) : Prop :=
  ∀ attempt later, attempt.Continues primitives advertised later → property attempt →
    property later

/-! ### The forwarder -/

section

variable {hist : History AnyStatement.Outcome} {w : World P}
  {property : Attempt → Prop} {later : World P} {v : AuthResult} {attempt att : Attempt}
  {req : NewRequest} {ks : Finset Auth.CredentialKind}

theorem AttemptIs.relied (here : AttemptIs i property w) (lasting : Lasting P adv property)
    (inFlight : InFlight i adv hist) (relied : (advertising i).rely hist stmt w later) :
    AttemptIs i property later := by
  obtain ⟨att, found, holds⟩ := here
  have continues := relied inFlight.received
  rw [inFlight.advertised] at continues
  obtain ⟨⟨later, foundLater, onwards⟩, -⟩ := continues att found
  exact ⟨later, foundLater, lasting att later onwards holds⟩

abbrev Informs (index : Nat) {Result : Type} (program : Action Result)
    (ensures : History AnyStatement.Outcome → Result → World P → Prop)
    (history : History AnyStatement.Outcome) (world : World P) : Prop :=
  program.Meets (execute P) Available (advertising index) ensures history world

theorem ask_meets_advertising (lasting : Lasting P adv property)
    (prog : Query Result) (inFlight : InFlight i adv hist) (here : AttemptIs i property w) :
    Informs i (ask prog) (fun seen _ reached => InFlight i adv seen ∧ AttemptIs i property reached)
      hist w := by
  induction prog generalizing hist w with
  | done res => exact ⟨inFlight, here⟩
  | perform stmt next ih =>
    intro later relied _
    have stillHere := here.relied lasting inFlight relied
    have within : Within i (.inl stmt) := ⟨trivial, rfl, rfl, rfl⟩
    exact ⟨by nofun, ih _ (inFlight.cons within _) stillHere⟩

def Took (value : AuthResult) (attempt : Attempt) : Prop :=
  ∃ before, attempt.received = before + 1 ∧ attempt.state.stateChangeSignal[before]? = some value

def Behind (attempt : Attempt) : Prop :=
  attempt.received < attempt.state.stateChangeSignal.length

theorem lasting_took (v : AuthResult) : Lasting P adv (Took v) := by
  rintro att later onwards ⟨pre, last, isValue⟩
  refine ⟨pre, onwards.received.trans last, ?_⟩
  obtain ⟨more, grown⟩ := onwards.signals
  have inRange := (List.getElem?_eq_some_iff.mp isValue).1
  rw [← grown, List.getElem?_append_left inRange, isValue]

theorem lasting_behind : Lasting P adv Behind := by
  intro att later onwards behind
  unfold Behind at behind ⊢
  have grown := onwards.signals.length_le
  rw [onwards.received]
  omega

theorem Took.verdict (took : Took v att) (announced : att.state.Announced)
    (isLast : ¬Behind att) : att.state.verify = v := by
  obtain ⟨pre, last, isValue⟩ := took
  have inRange := (List.getElem?_eq_some_iff.mp isValue).1
  have length : att.state.stateChangeSignal.length - 1 = pre := by
    unfold Behind at isLast
    omega
  have cur := announced.lastSent.trans announced.current
  rw [List.getLast?_eq_getElem?, length, isValue, some.injEq] at cur
  exact cur.symm

def Asking (primitives : Primitives) (request : NewRequest) (attempt : Attempt) : Prop :=
  attempt.key = request.key ∧
    (Behind attempt ∨ attempt.received = attempt.state.stateChangeSignal.length ∧
      (attempt.request primitives).toRow.asker = request.toRow.asker)

theorem lasting_asking (req : NewRequest) : Lasting P true (Asking P req) := by
  rintro att later onwards ⟨sameKey, asks⟩
  refine ⟨(Attempt.key_of_about onwards.about).trans sameKey, ?_⟩
  rcases asks with behind | ⟨last, sameAsker⟩
  · exact .inl (lasting_behind att later onwards behind)
  · have grown := onwards.signals.length_le
    by_cases same : later.state.stateChangeSignal.length = att.state.stateChangeSignal.length
    · exact .inr ⟨by rw [onwards.received, same, last], (onwards.asker same).trans sameAsker⟩
    · refine .inl ?_
      unfold Behind
      rw [onwards.received]
      omega

theorem Attempt.continues_change (P : Primitives)
    (within : Within i stmt) (att : Attempt) : att.Continues P false (change P i stmt att) where
  about := about_change P i stmt att
  received := (forwarder_change P within.2.1 within.2.2.1 att).2
  signals := signals_change P i stmt att
  matchKey asked := by cases asked

theorem AttemptIs.execute (here : AttemptIs i property w)
    (lasting : Lasting P false property) (within : Within i stmt) :
    AttemptIs i property (Login.execute P stmt w).2 := by
  obtain ⟨att, found, holds⟩ := here
  exact ⟨_, attempt_execute stmt found, lasting att _ (att.continues_change P within) holds⟩

theorem behind_of_commitBypass (here : AttemptIs i (Took v) w)
    (announced : w.Announced) {asked : Key}
    (committed : (execute P (.inr (.commitBypass i)) w).1 = some asked) :
    AttemptIs i Behind (execute P (.inr (.commitBypass i)) w).2 := by
  obtain ⟨att, found, took⟩ := here
  refine ⟨_, attempt_execute _ found, ?_⟩
  have within : Within i (.inr (.commitBypass i)) := ⟨rfl, rfl, rfl, rfl⟩
  have onwards := att.continues_change P within
  set later := change P i (.inr (.commitBypass i)) att with isLater
  have sameState : later.state = (att.state.handle .commitBypass).2 := by
    rw [isLater, change, if_pos rfl, Attempt.state_commitBypass]
  obtain ⟨effect, bypassed⟩ : ∃ effect, (att.state.handle .commitBypass).1 = some effect := by
    have out : (execute P (.inr (.commitBypass i)) w).1 =
        att.commitBypass.1 := atAttempt_of_found found none _
    rw [out] at committed
    unfold Attempt.commitBypass Attempt.call at committed
    cases handled : (att.state.handle .commitBypass).1 with
    | none => simp [handled] at committed
    | some effect => exact ⟨effect, rfl⟩
  obtain ⟨needed, needsNoMore⟩ := AuthState.needsWebApproval_of_bypassed bypassed
  by_contra isLast
  have announcedBefore := (announced i att found).1
  have inRange := (announced i att found).2
  have grown := onwards.signals.length_le
  have sameLength : att.state.stateChangeSignal.length = later.state.stateChangeSignal.length := by
    unfold Behind at isLast
    rw [onwards.received] at isLast
    omega
  have sameVerdict : later.state.verify = att.state.verify := by
    refine AuthState.verify_eq_of_signals ?_ announcedBefore
      (onwards.signals.eq_of_length sameLength).symm
    rw [sameState]
    exact announcedBefore.handle .commitBypass
  rw [← sameState] at needsNoMore
  unfold AuthState.needsWebApproval at needed needsNoMore
  rw [sameVerdict, needed] at needsNoMore
  cases needsNoMore

theorem tryWebApprovalBypass_meets_advertising (inFlight : InFlight i false hist)
    (here : AttemptIs i (Took v) w) :
    Informs i (tryWebApprovalBypass P i now closed)
      (fun seen bypassed reached => InFlight i false seen ∧
        AttemptIs i (if bypassed then Behind else Took v) reached) hist w := by
  refine (ask_meets_advertising (lasting_took v) _ inFlight here).seq
    fun seen grace reached ⟨inFlight, here⟩ => ?_
  cases grace with
  | none => exact ⟨inFlight, here⟩
  | some grace =>
    intro later relied _
    have here := here.relied (lasting_took v) inFlight relied
    have reads : Within i (.inr (.matchKey i)) := ⟨rfl, rfl, rfl, rfl⟩
    refine ⟨by nofun, ?_⟩
    cases (execute P (.inr (.matchKey i)) later).1 with
    | none => exact ⟨inFlight.cons reads _, here⟩
    | some k =>
      refine (ask_meets_advertising (lasting_took v) _ (inFlight.cons reads _) here).seq
        fun seen remembered reached ⟨inFlight, here⟩ => ?_
      cases remembered with
      | false => exact ⟨inFlight, here⟩
      | true =>
        intro later relied available
        have here := here.relied (lasting_took v) inFlight relied
        have commits : Within i (.inr (.commitBypass i)) := ⟨rfl, rfl, rfl, rfl⟩
        refine ⟨by nofun, ?_⟩
        cases committed : (execute P (.inr (.commitBypass i)) later).1 with
        | none => exact ⟨inFlight.cons commits _, here.execute (lasting_took v) commits⟩
        | some asked =>
          have behind := behind_of_commitBypass here available.1 committed
          refine (ask_meets_advertising lasting_behind _ (inFlight.cons commits _) behind).seq
            fun seen _ reached ⟨inFlight, behind⟩ => ?_
          intro later relied _
          have unlocks : Within i (.inr (.unlock i)) := ⟨rfl, rfl, rfl, rfl⟩
          have behind := behind.relied lasting_behind inFlight relied
          exact ⟨by nofun, inFlight.cons unlocks _, behind.execute lasting_behind unlocks⟩

def Concluded (index : Nat) (history : History AnyStatement.Outcome)
    (world : World primitives) : Prop :=
  (∃ advertised, InFlight index advertised history ∧ AttemptIs index Behind world) ∨
    InFlight index true history ∧
      ∃ request, AttemptIs index (Asking primitives request) world ∧ Asked request world.db

theorem asked_relied (inFlight : InFlight i true hist) (here : AttemptIs i (Asking P req) w)
    (relied : (advertising i).rely hist stmt w later) : Db.Keeps req.key w.db later.db := by
  obtain ⟨att, found, sameKey, -⟩ := here
  have continues := relied inFlight.received
  rw [inFlight.advertised] at continues
  rw [← sameKey]
  exact (continues att found).2 rfl

theorem InFlight.append (inFlight : InFlight i adv hist)
    (own : History Approvals.Statement.Outcome) :
    InFlight i adv (own.map Program.liftEvent ++ hist) := by
  induction own with
  | nil => exact inFlight
  | cons ev own ih =>
    have within : Within i (.inl ev.1) := ⟨trivial, rfl, rfl, rfl⟩
    exact ih.cons within ev.2

theorem upsertRequest_meets_advertising (unticketed : req.about.ticketId = none)
    (inFlight : InFlight i true hist) (here : AttemptIs i (Asking P req) w) :
    Informs i (ask (Approvals.upsertRequest req)) (fun seen _ reached => InFlight i true seen ∧
        AttemptIs i (Asking P req) reached ∧ Asked req reached.db) hist w := by
  have upserts : (Approvals.upsertRequest req).Meets Approvals.execute (fun _ _ => True)
      (Approvals.onlyDecided req.key) (Approvals.UpsertEnsures req) [] w.db :=
    Approvals.upsertRequest_meets
  refine (Program.Meets.lift db (AttemptIs i (Asking P req))
    (fun _ _ => rfl) (fun _ _ => rfl) (fun _ _ here => here)
    (fun own stmt pre post here relied _ => ?_) (fun _ _ _ _ _ => by nofun) upserts
    here).imp ?_
  · have flying := inFlight.append own
    exact ⟨asked_relied flying here relied, trivial, here.relied (lasting_asking req) flying relied⟩
  · rintro seen res reached ⟨own, rfl, asked, here⟩
    refine ⟨inFlight.append own, here, ?_⟩
    cases res with
    | ticketExhausted => exact absurd unticketed asked
    | asked | alreadyAdvertised => exact asked

theorem lockAdvertise_cases (found : w.attempts[i]? = some att) :
    ((execute P (.inr (.lockAdvertise i)) w).1 = none ∧ att.state.needsWebApproval = false ∧
      (execute P (.inr (.lockAdvertise i)) w).2.attempts[i]? = some att) ∨
    ((execute P (.inr (.lockAdvertise i)) w).1 = some (att.request P) ∧
      (execute P (.inr (.lockAdvertise i)) w).2.attempts[i]? =
        some { att with locked := true }) := by
  have out : (execute P (.inr (.lockAdvertise i)) w).1 =
      (att.lockAdvertise P).1 := atAttempt_of_found found none _
  rw [out, attempt_execute _ found, change, if_pos rfl, Attempt.lockAdvertise]
  by_cases needs : att.state.needsWebApproval = true
  · rw [if_pos needs]
    exact .inr ⟨rfl, rfl⟩
  · rw [if_neg needs]
    exact .inl ⟨rfl, by simpa using needs, rfl⟩

theorem advertiseUserRequest_meets_advertising (asksForApproval : .webUserApproval ∈ ks)
    (inFlight : InFlight i false hist) (here : AttemptIs i (Took (.need ks)) w) :
    Informs i (advertiseUserRequest i) (fun seen _ reached => Concluded i seen reached) hist w := by
  intro later relied available
  obtain ⟨att, found, took⟩ := here.relied (lasting_took _) inFlight relied
  obtain ⟨announced, inRange⟩ := available.1 i att found
  have flying : ∀ out, InFlight i true (⟨.inr (.lockAdvertise i), out⟩ :: hist) :=
    fun out => ⟨by simp [inFlight.received], by simp [inFlight.working, idles],
      by simp [advertises]⟩
  refine ⟨by nofun, ?_⟩
  rcases lockAdvertise_cases found with ⟨out, needsNone, foundAfter⟩ | ⟨out, foundAfter⟩
  · rw [out]
    refine .inl ⟨true, flying _, att, foundAfter, ?_⟩
    by_contra isLast
    rw [AuthState.needsWebApproval, took.verdict announced isLast] at needsNone
    exact of_decide_eq_false needsNone asksForApproval
  · rw [out]
    have asking : Asking P (att.request P) att := by
      refine ⟨rfl, ?_⟩
      by_cases behind : Behind att
      · exact .inl behind
      · exact .inr ⟨Nat.le_antisymm inRange (Nat.not_lt.mp behind), rfl⟩
    refine (upsertRequest_meets_advertising rfl (flying _) ⟨_, foundAfter, asking⟩).seq
      fun seen _ reached ⟨inFlight, here, asked⟩ => ?_
    intro last relied _
    have unlocks : Within i (.inr (.unlock i)) := ⟨rfl, rfl, rfl, rfl⟩
    obtain ⟨later, foundLater, stillAsking⟩ := here.relied (lasting_asking _) inFlight relied
    refine ⟨by nofun, .inr ⟨inFlight.cons unlocks _, att.request P,
      ⟨_, attempt_execute _ foundLater, ?_⟩, ?_⟩⟩
    · rw [change, if_pos rfl]
      exact stillAsking
    · rw [db_execute_inr]
      exact asked.keeps (asked_relied inFlight here relied)

theorem onWebApprovalNeeded_meets_advertising (asksForApproval : .webUserApproval ∈ ks)
    (inFlight : InFlight i false hist) (here : AttemptIs i (Took (.need ks)) w) :
    Informs i (onWebApprovalNeeded P i now closed)
      (fun seen _ reached => Concluded i seen reached) hist w := by
  refine (tryWebApprovalBypass_meets_advertising inFlight here).seq
    fun seen bypassed reached ⟨inFlight, here⟩ => ?_
  cases bypassed with
  | true => exact .inl ⟨false, inFlight, here⟩
  | false =>
    exact (advertiseUserRequest_meets_advertising asksForApproval inFlight here).seq
      fun _ _ _ concluded => concluded

theorem answerable_of_behind (here : AttemptIs i Behind w) : Answerable i w := by
  grind [AttemptIs, Behind, Answerable]

theorem Concluded.idle (concluded : Concluded i hist w) :
    Informs i (act (.idle i)) (fun _ _ _ => True) hist w := by
  intro later relied _
  refine ⟨fun _ => ?_, trivial⟩
  rcases concluded with ⟨adv, inFlight, behind⟩ | ⟨inFlight, req, here, asked⟩
  · exact answerable_of_behind (behind.relied lasting_behind inFlight relied)
  · obtain ⟨att, found, sameKey, asks⟩ := here.relied (lasting_asking req) inFlight relied
    rcases asks with behind | ⟨-, sameAsker⟩
    · exact answerable_of_behind ⟨att, found, behind⟩
    · intro same foundSame _ _
      obtain rfl := some.inj (found.symm.trans foundSame)
      exact (asked.keeps (asked_relied inFlight here relied)).congr sameKey sameAsker

theorem idle_of_took (here : AttemptIs i (Took v) w)
    (unasked : ∀ ks, v = .need ks → .webUserApproval ∉ ks) (inFlight : InFlight i false hist) :
    Informs i (act (.idle i)) (fun _ _ _ => True) hist w := by
  intro later relied available
  refine ⟨fun _ => ?_, trivial⟩
  obtain ⟨att, found, took⟩ := here.relied (lasting_took v) inFlight relied
  intro same foundSame isLast needs
  obtain rfl := some.inj (found.symm.trans foundSame)
  have verdict := took.verdict (available.1 i att found).1
    fun behind => absurd isLast (Nat.ne_of_lt behind)
  obtain ⟨ks, isNeed, asked⟩ := att.state.needsWebApproval_iff.mp needs
  exact absurd asked (unasked ks (verdict.symm.trans isNeed))

theorem forward_meets_advertising (i : Nat) (now closed : OffsetDateTime) :
    Informs i (forwardWebAuthRequest P i now closed) (fun _ _ _ => True) [] w := by
  intro later _ available
  refine ⟨by nofun, ?_⟩
  obtain ⟨att, found, -, waiting⟩ := ready_recv available.2
  have received : ∀ v, InFlight i false [⟨.inr (.recv i), v⟩] :=
    fun v => ⟨by simp [receives], rfl, rfl⟩
  have out : (execute P (.inr (.recv i)) later).1 = att.recv.1 := atAttempt_of_found found none _
  have foundAfter : (execute P (.inr (.recv i)) later).2.attempts[i]? = some att.recv.2 := by
    rw [attempt_execute _ found, change, if_pos rfl]
  rcases att.recv_cases waiting with ⟨none, behind⟩ | ⟨v, isValue, next, sent⟩
  · rw [out, none]
    exact Concluded.idle (.inl ⟨false, received _, _, foundAfter, behind⟩)
  · rw [out, isValue]
    have took : AttemptIs i (Took v) (execute P (.inr (.recv i)) later).2 :=
      ⟨_, foundAfter, att.received, next, sent⟩
    rcases v with accepted | ks | -
    · exact idle_of_took took (by nofun) (received _)
    · show Program.Meets _ _ _ _ _ (if Auth.CredentialKind.webUserApproval ∈ ks then _ else _) _
      split
      · next asksForApproval =>
        exact (onWebApprovalNeeded_meets_advertising asksForApproval (received _) took).seq
          fun _ _ _ concluded => concluded.idle
      · grind [idle_of_took]
    · exact idle_of_took took (by nofun) (received _)

theorem Task.program_meets_advertising (i : Nat) (t : Task) :
    Informs i (t.program P) (fun _ _ _ => True) [] w := by
  by_cases isForward : ∃ now closed, t = .forward i now closed
  · obtain ⟨now, closed, rfl⟩ := isForward
    exact forward_meets_advertising i now closed
  · refine Program.meets_of_follows ((program_performs P t).follows ?_ fun _ _ _ => trivial)
    intro seen stmt may reached _ idles
    obtain rfl := eq_idle_of_idles idles
    exact absurd (isForward_of_forwards may rfl) isForward

end

def answers : Approvals.Statement → Bool
  | .applyTransition _ transition => transition.toStatus ∈ Approvals.ApprovalRequestStatus.decided
  | .markConsumed _ _ => true
  | _ => false

def harmless (entry : Entry Task AnyStatement (World primitives)) : Bool :=
  match entry.before.attempts[index]? with
  | none => true
  | some attempt =>
    match entry.statement with
    | .inl statement =>
      entry.task.forwardedIndex = some index || answers statement ||
        (Approvals.execute statement entry.before.db).2.requests.find? attempt.key =
          entry.before.db.requests.find? attempt.key
    | .inr statement =>
      let later := Statement.change primitives index (.inr statement) attempt
      later.state.stateChangeSignal.length ≠ attempt.state.stateChangeSignal.length ||
        later.state.webApprovalMatchKey primitives = attempt.state.webApprovalMatchKey primitives

def undisturbed (log : List (Entry Task AnyStatement (World primitives))) : Bool :=
  (log.takeWhile fun entry => !Statement.advertises index entry.statement).all (harmless index)

theorem undisturbed_cons {e : Entry Task AnyStatement (World P)}
    (unadvertising : advertises i e.statement = false) :
    undisturbed i (e :: log) = true ↔ harmless i e = true ∧ undisturbed i log = true := by
  simp [undisturbed, unadvertising]

theorem keeps_of_answers {stmt : Approvals.Statement} (isAnswer : answers stmt = true)
    (k : Key) (db : Db) : Db.Keeps k db (Approvals.execute stmt db).2 := by
  intro r found
  rw [Approvals.find?_execute, found]
  cases stmt with
  | applyTransition aimed tr =>
    refine ⟨if aimed.pinned r then tr.write r else r, rfl, ?_⟩
    split
    · refine ⟨?_, .inr (by rw [status_write]; exact of_decide_eq_true isAnswer)⟩
      unfold write
      split <;> rfl
    · exact r.kept_refl
  | markConsumed place now =>
    refine ⟨if r.isUnconsumedAt place then r.consume now else r, rfl, ?_⟩
    split
    · exact ⟨rfl, .inl rfl⟩
    · exact r.kept_refl
  | _ => cases isAnswer

theorem continues_execute (unreceiving : receives i stmt = false)
    (working : idles i stmt = false) (foreign : t.forwardedIndex ≠ some i)
    (unharmed : adv = true → harmless i ⟨t, stmt, w⟩ = true) :
    Continues i adv w (execute P stmt w).2 := by
  intro att found
  refine ⟨⟨_, attempt_execute stmt found, ?_⟩, fun asked => ?_⟩
  · refine ⟨about_change P i stmt att, (forwarder_change P unreceiving working att).2,
      signals_change P i stmt att, fun asked sameLength => ?_⟩
    have free := unharmed asked
    rcases stmt with stmt | stmt
    · rfl
    · grind [harmless]
  · have free := unharmed asked
    rcases stmt with stmt | stmt
    · simp only [harmless, found, Bool.or_eq_true, decide_eq_true_eq] at free
      rcases free with (own | isAnswer) | same
      · exact absurd own foreign
      · exact keeps_of_answers isAnswer att.key w.db
      · exact Db.keeps_of_same same
    · refine Db.keeps_of_same ?_
      rw [db_execute_inr]

theorem unframed_of_foreign (may : t.MayPerform stmt) (foreign : t.forwardedIndex ≠ some i) :
    receives i stmt = false ∧ idles i stmt = false ∧ advertises i stmt = false := by
  have unforwarded : ∀ own : Statement, stmt = .inr own → own.forwards ≠ some i := by
    rintro own rfl forwards
    obtain ⟨now, closed, rfl⟩ := isForward_of_forwards may forwards
    exact foreign rfl
  refine ⟨?_, ?_, ?_⟩
  · refine Bool.eq_false_iff.mpr fun receives => ?_
    exact unforwarded _ (eq_recv_of_receives receives) rfl
  · refine Bool.eq_false_iff.mpr fun idles => ?_
    exact unforwarded _ (eq_idle_of_idles idles) rfl
  · refine Bool.eq_false_iff.mpr fun advertises => ?_
    exact unforwarded _ (eq_lockAdvertise_of_advertises advertises) rfl

theorem foreign_of_atWork {s : World P} {next : AnyStatement.Outcome stmt → Action Unit}
    (one : OneForwarder i ⟨s, pre ++ ⟨t, hist, .perform stmt next⟩ :: post, log⟩)
    (ord : t.Ordered hist stmt) (isReady : ready P stmt s = true)
    {other : Thread Task AnyStatement AnyStatement.Outcome Unit} (mem : other ∈ pre ++ post)
    (otherWorks : atWork i other = true) : t.forwardedIndex ≠ some i := by
  intro forwards
  obtain ⟨now, closed, rfl⟩ := eq_forward_of_forwardedIndex forwards
  have cnt : 0 < pre.countP (atWork i) + post.countP (atWork i) := by
    rw [← countP_append]
    exact countP_pos_iff.mpr ⟨other, mem, otherWorks⟩
  unfold OneForwarder at one
  simp only [countP_append, countP_cons] at one
  have atMost := Bool.toNat_le (s.forwarding i)
  cases receives : receives i stmt with
  | true =>
    obtain rfl := eq_recv_of_receives receives
    obtain ⟨att, found, unforwarded, -⟩ := ready_recv isReady
    rw [forwarding, found, any_some, unforwarded, Bool.toNat_false] at one
    omega
  | false =>
    rw [atWork_of_ordered ord receives, if_pos rfl] at one
    omega

/-! ### What holds of a run -/

section

variable (users : Users primitives) (us : Users P)
  (tickets tks : Sql.Table Approvals.Ticket Approvals.Ticket.id)
  (parameters params : Approvals.Parameters) (nodes ns : List NodeId)

def Watched (index : Nat) (log : List (Entry Task AnyStatement (World primitives)))
    (thread : Thread Task AnyStatement AnyStatement.Outcome Unit) : Prop :=
  seen (Statement.advertises index) thread.history = true → undisturbed index log = true

def Advertises (index : Nat) (config : State primitives) : Prop :=
  config.state.Announced ∧
    Config.ThreadsMeet (system primitives) Available (fun _ => advertising index) (Watched index)
      config

theorem advertises_of_run (i : Nat) (ms : List (Move Task)) :
    Advertises i ((initial (fresh us tks params ns)).run (system P) ms) := by
  have along := along_and_invariant (system P)
    (fun ms _ => forwarded_of_run i us tks params ns ms) ms
    (along_of_forall (system P) (fun _ _ => trivial) _ _)
  refine run_meets_under Announced (fun _ => advertising i) (Watched i)
    (fun t s _ => t.program_meets_advertising i) _
    (fun _ _ _ _ _ _ _ _ _ isReady announced => ⟨announced, isReady⟩)
    (fun s log t hist stmt next announced isReady _ => announced.execute isReady)
    ?_ ?_ _ ms along (fun _ _ found => by cases found)
  · rintro s pre t hist stmt next post log ⟨-, forwarded⟩ watchedAfter adv
    obtain ⟨_, _, once, rfl, -, inFlight, first⟩ := forwarded.inFlight
      mem_append_cons_self (.inr adv)
    have unadvertising : advertises i stmt = false := by
      refine Bool.eq_false_iff.mpr fun again => ?_
      rw [inFlight.advertised, first again] at adv
      cases adv
    exact ((undisturbed_cons unadvertising).mp
      (watchedAfter (by rw [seen_cons, adv, Bool.or_true]))).2
  · rintro s pre t hist stmt next post log ⟨-, forwarded⟩ isReady - other
      member watchedAfter waiting place
    have among : other ∈ pre ++ ⟨t, hist, .perform stmt next⟩ :: post := by
      simp only [mem_append, mem_cons] at member ⊢
      tauto
    have ord := (forwarded.ordered _ mem_append_cons_self).1
    have foreign : seen (receives i) other.history = true ∨
        seen (advertises i) other.history = true → t.forwardedIndex ≠ some i := by
      intro begun
      obtain ⟨otherTask, otherHistory, prog⟩ := other
      cases prog with
      | done res => cases place
      | perform cur cont =>
        obtain ⟨_, _, _, rfl, -, inFlight, -⟩ := forwarded.inFlight among begun
        refine foreign_of_atWork forwarded.one ord isReady member ?_
        simp [atWork, inFlight.received, inFlight.working]
    refine ⟨fun adv => ?_, fun received => ?_⟩
    · obtain ⟨-, -, unadvertising⟩ := unframed_of_foreign ord.1 (foreign (.inr adv))
      exact ((undisturbed_cons unadvertising).mp (watchedAfter adv)).2
    · obtain ⟨unreceiving, working, unadvertising⟩ :=
        unframed_of_foreign ord.1 (foreign (.inl received))
      exact continues_execute unreceiving working (foreign (.inl received)) fun asked =>
        ((undisturbed_cons unadvertising).mp (watchedAfter asked)).1

def AnswerableBetween (index : Nat) (config : State primitives) : Prop :=
  config.state.forwarding index = false → undisturbed index config.log = true →
    Answerable index config.state

theorem Answerable.execute {w : World P} (answerable : Answerable i w) (announced : w.Announced)
    (continues : Continues i true w (Login.execute P stmt w).2) :
    Answerable i (Login.execute P stmt w).2 := by
  intro later found isLast needs
  rcases attempt_of_execute found with ⟨att, foundBefore, rfl⟩ | ⟨login, user, -, -, -, rfl⟩
  · obtain ⟨⟨same, foundSame, onwards⟩, keeps⟩ := continues att foundBefore
    obtain rfl := some.inj (found.symm.trans foundSame)
    obtain ⟨announcedBefore, inRange⟩ := announced i att foundBefore
    have grown := onwards.signals.length_le
    rw [onwards.received] at isLast
    have sameLength : (change P i stmt
        att).state.stateChangeSignal.length = att.state.stateChangeSignal.length := by
      omega
    have sameVerdict := AuthState.verify_eq_of_signals
      (announced_change P i stmt announcedBefore) announcedBefore
      (onwards.signals.eq_of_length sameLength.symm).symm
    have neededBefore : att.state.needsWebApproval = true := by
      rw [AuthState.needsWebApproval, ← sameVerdict]
      exact needs
    have asked := answerable att foundBefore (by omega) neededBefore
    exact (asked.keeps (keeps rfl)).congr (Attempt.key_of_about onwards.about)
      (onwards.asker sameLength)
  · have pos := (AuthState.announced_new login.sessionId login.remoteIp user login.protocol
      login.targetName login.policy login.started login.identificationString).signals_pos
    exact absurd isLast (Nat.ne_of_lt pos)

def Sound (index : Nat) (config : State primitives) : Prop :=
  Forwarded index config ∧ Advertises index config

theorem sound_of_run (i : Nat) (ms : List (Move Task)) :
    Sound i ((initial (fresh us tks params ns)).run (system P) ms) :=
  ⟨forwarded_of_run i us tks params ns ms, advertises_of_run us tks params ns i ms⟩

theorem continues_idle (i : Nat) (w : World P) :
    Continues i true w (execute P (.inr (.idle i)) w).2 := by
  intro att found
  refine ⟨⟨att.idle, ?_, rfl, rfl, prefix_rfl, fun _ _ => rfl⟩, fun _ => ?_⟩
  · rw [attempt_execute _ found, change, if_pos rfl]
  · refine Db.keeps_of_same ?_
    rw [db_execute_inr]

theorem answerableBetween_perform {s : World P}
    {before after : List (Thread Task AnyStatement AnyStatement.Outcome Unit)}
    {next : AnyStatement.Outcome stmt → Action Unit}
    {log : List (Entry Task AnyStatement (World P))}
    (sound : Sound i ⟨s, before ++ ⟨t, hist, .perform stmt next⟩ :: after, log⟩)
    (isReady : ready P stmt s = true)
    (kept : AnswerableBetween i ⟨s, before ++ ⟨t, hist, .perform stmt next⟩ :: after, log⟩)
    (unforwarded : (execute P stmt s).2.forwarding i = false)
    (free : undisturbed i (⟨t, stmt, s⟩ :: log) = true) : Answerable i (execute P stmt s).2 := by
  obtain ⟨forwarded, announced, meet⟩ := sound
  have member : ⟨t, hist, .perform stmt next⟩ ∈ before ++ ⟨t, hist, .perform stmt next⟩ :: after :=
    mem_append_right _ (.head _)
  have ordered := (forwarded.ordered _ member).1
  by_cases own : t.forwardedIndex = some i
  · obtain ⟨now, closedAt, rfl⟩ := eq_forward_of_forwardedIndex own
    cases receives : receives i stmt with
    | true =>
      obtain rfl := eq_recv_of_receives receives
      obtain ⟨attempt, found, -, -⟩ := ready_recv isReady
      rw [forwarding_recv found] at unforwarded
      cases unforwarded
    | false =>
      cases idles : idles i stmt with
      | true =>
        obtain rfl := eq_idle_of_idles idles
        have freeBefore := ((undisturbed_cons rfl).mp free).2
        have answerable := (meet _ member (fun _ => freeBefore) s ((advertising i).refl _ _ _)
            ⟨announced, isReady⟩).1 idles
        exact answerable.execute announced (continues_idle i s)
      | false =>
        have works := atWork_of_ordered ordered receives (.perform stmt next)
        have counted : 0 < (s.forwarding i).toNat := by
          rw [← forwarded.one]
          exact countP_pos_iff.mpr ⟨_, member, works⟩
        rw [forwarding_execute receives idles] at unforwarded
        rw [unforwarded] at counted
        cases counted
  · obtain ⟨unreceiving, working, unadvertising⟩ := unframed_of_foreign ordered.1 own
    obtain ⟨unharmed, freeBefore⟩ := (undisturbed_cons unadvertising).mp free
    have unforwardedBefore := (forwarding_execute unreceiving working s).symm.trans unforwarded
    exact (kept unforwardedBefore freeBefore).execute announced
      (continues_execute unreceiving working own fun _ => unharmed)

theorem answerableBetween_of_run (i : Nat) (ms : List (Move Task)) :
    AnswerableBetween i ((initial (fresh us tks params ns)).run (system P) ms) := by
  have along := along_and_invariant (system P) (fun ms _ => sound_of_run us tks params ns i ms) ms
    (along_of_forall (system P) (fun _ _ => trivial) _ _)
  refine run_invariant _ (AnswerableBetween i) (fun _ _ _ kept => kept) ?_ _ ms along
    (fun _ _ _ found => by cases found)
  intro s pre t hist stmt next post log perm _ isReady kept
  exact answerableBetween_perform perm.2 isReady kept

/-- In every run: if the forwarder of a login has processed every value broadcast so far and the
login waits for the approval of its user, and if since the forwarder last began to advertise it
nobody else rewrote the row other than by an answer and no credential was recorded without a change
of the verdict, then the row of its question has been decided, or it is pending, names the user of
the login and carries the digest of its current match key. -/
theorem waiting_login_is_answerable (index : Nat) (moves : List (Move Task)) (attempt : Attempt) :
    let reached := (Config.initial (World.fresh users tickets parameters nodes)).run
      (system primitives) moves
    reached.state.attempts[index]? = some attempt →
    attempt.forwarding = false →
    attempt.received = attempt.state.stateChangeSignal.length →
    attempt.state.needsWebApproval = true →
    undisturbed index reached.log = true →
    ∃ r, reached.state.db.requests.find?
        ⟨attempt.state.sessionId, .user, attempt.state.targetName⟩ = some r ∧
      (r.status ∈ Approvals.ApprovalRequestStatus.decided ∨
        r.status = .pending ∧ r.userId = attempt.state.userInfo.id ∧
          r.username = attempt.state.userInfo.username ∧
          r.matchDigest =
            (attempt.state.webApprovalMatchKey primitives).map (·.identity.digest primitives)) := by
  intro reached found unforwarded isLast needs free
  have idle : reached.state.forwarding index = false := by
    rw [forwarding, found, any_some, unforwarded]
  obtain ⟨r, foundRow, answered⟩ := answerableBetween_of_run users tickets parameters nodes index
    moves idle free attempt found isLast needs
  refine ⟨r, foundRow, answered.imp_right fun ⟨pending, sameAsker⟩ => ?_⟩
  simp only [Request.asker, Attempt.request, NewRequest.toRow, Prod.mk.injEq] at sameAsker
  exact ⟨pending, sameAsker.2.1, sameAsker.1, sameAsker.2.2⟩

end

theorem waiting_login_is_answerable_alice :
    ∃ row, ((Config.initial nobodyIn).run (system plain) aliceAsked).state.db.requests.find?
        ⟨1, .user, "db"⟩ = some row ∧
      (row.status ∈ Approvals.ApprovalRequestStatus.decided ∨
        row.status = .pending ∧ row.userId = 7 ∧ row.username = "alice" ∧
          row.matchDigest = ((Attempt.begin (.needingApproval "alice" 10)
            ⟨7, "alice"⟩).state.webApprovalMatchKey plain).map (·.identity.digest plain)) :=
  waiting_login_is_answerable aliceAndBob .empty ⟨none, none, none⟩ [1] 0 aliceAsked
    { Attempt.begin (.needingApproval "alice" 10) ⟨7, "alice"⟩ with received := 1 }
    rfl rfl (by decide +kernel) (by decide +kernel) (by decide +kernel)

theorem a_waiting_login_is_not_asked_again :
    let reached : State plain := (Config.initial nobodyIn).run (system plain) (aliceAsked ++
      [.start (.resolveOwnApproval 1 "alice" 1 0 (.approved .once) 20), .advance 2, .advance 2,
        .advance 2, .advance 2, .advance 2, .advance 2, .advance 2, .advance 2,
        .start (.login (.needingApproval "alice" 30)), .advance 3,
        .start (.forward 1 31 32), .advance 4, .advance 4, .advance 4, .advance 4, .advance 4,
        .advance 4, .advance 4, .advance 4, .advance 4, .advance 4])
    reached.state.store 1 1 = some 1 ∧
    (reached.state.attempts[1]?).map (fun attempt =>
        (attempt.forwarding, attempt.state.stateChangeSignal.length - attempt.received,
          attempt.state.needsWebApproval)) = some (false, 0, true) ∧
    (reached.state.db.requests.find? ⟨1, .user, "db"⟩).map
        (fun r => (r.status, r.consumedAt)) = some (.approved, some 20) := by
  decide +kernel

end Warpgate.Login
