/-
This file is about what has to be closed and has not been, and the deletion of a ticket.
-/

import Warpgate.Sessions.System

namespace Warpgate.Sessions

open Concurrent List Option Sql.Table Config World Statement Function
open Auth (Primitives plain)
open Access (TargetAuthorization)

variable {nid : NodeId} {id : UserSessionId} {ids : List UserSessionId} {change : AccessChange}

section

/-! ### Duties of a retry -/

inductive Duty
  | close (nodeId : NodeId) (id : UserSessionId)
  | recheck (nodeId : NodeId) (change : AccessChange)
  | admission (ticketId : Uuid) (id : UserSessionId)

def Settles (nodeId : NodeId) (id : UserSessionId) : Event AnyStatement AnyStatement.Outcome → Prop
  | ⟨.inr (.read (.openMatching (.sessions ids))), listed⟩ =>
    id ∈ ids ∧ ∃ found : List UserSessionId, listed = some found ∧ id ∉ found
  | ⟨.inr (.revoke revoked), done⟩ => revoked = id ∧ done = some ()
  | ⟨.inr (.pushCloses pusher ids), _⟩ => pusher = nodeId ∧ id ∈ ids
  | _ => False

namespace Duty

def incurs : Duty → Event AnyStatement AnyStatement.Outcome → Prop
  | close nodeId id, ⟨.inr (.takeCloses taker), taken⟩ =>
    taker = nodeId ∧ ∃ ids : List UserSessionId, taken = ids ∧ id ∈ ids
  | recheck nodeId change, ⟨.inr (.takeChanges taker), taken⟩ =>
    taker = nodeId ∧ ∃ changes : List AccessChange, taken = changes ∧ change ∈ changes
  | admission _ id, ⟨.inr (.takeCloses _), taken⟩ =>
    ∃ ids : List UserSessionId, taken = ids ∧ id ∈ ids
  | admission ticketId id, ⟨.inr (.deleteTicket deleted), admitted⟩ =>
    deleted = ticketId ∧ ∃ ids : List UserSessionId, admitted = some ids ∧ id ∈ ids
  | _, _ => False

def discharges : Duty → Event AnyStatement AnyStatement.Outcome → Prop
  | close nodeId id, event => Settles nodeId id event
  | admission _ id, event => ∃ nodeId, Settles nodeId id event
  | recheck _ change, ⟨.inr (.read (.rechecked checked)), _⟩ => checked = change
  | recheck nodeId change, ⟨.inr (.pushChange pusher pushed), _⟩ =>
    pusher = nodeId ∧ pushed = change
  | _, _ => False

end Duty

open Program

theorem leavesQueues_honours {Result : Type} {prog : Action Result}
    (perf : prog.Performs AnyStatement.LeavesQueues) :
    prog.Honours Duty.incurs Duty.discharges := by
  refine perf.honours fun stmt out duty leaves incurred => ?_
  rcases stmt with stmt | stmt
  · cases duty <;> exact incurred
  · cases stmt <;> first | (cases duty <;> exact incurred) | cases leaves

theorem revoke_owes : (revoke id).Owes (Settles nid id) fun res => res ≠ .ok () := by
  intro out
  cases out with
  | none => exact .inr fun ok => by cases ok
  | some done => exact .inl ⟨rfl, rfl⟩

theorem revokeEach_owes (listed : id ∈ ids) :
    (revokeEach ids).Owes (Settles nid id) fun res => res ≠ .ok () := by
  induction ids with
  | nil => cases listed
  | cons first ids ih =>
    by_cases here : id = first
    · subst here
      refine revoke_owes.seq fun res failed => ?_
      cases res with
      | error error => exact fun ok => by cases ok
      | ok done => exact absurd rfl failed
    · refine owes_bind fun res => ?_
      cases res with
      | error error => exact fun ok => by cases ok
      | ok done => exact ih ((mem_cons.mp listed).resolve_left here)

theorem closeSessions_owes (named : id ∈ ids) :
    (closeSessions (.sessions ids)).Owes (Settles nid id) fun res => res ≠ .ok () := by
  intro out
  rcases out with - | found
  · exact .inr fun ok => by cases ok
  · by_cases listed : id ∈ found
    · exact .inr (revokeEach_owes listed)
    · exact .inl ⟨named, found, rfl, listed⟩

theorem closeAdmittedSessions_owes (named : id ∈ ids) :
    (closeAdmittedSessions nid ids).Owes (Settles nid id) fun _ => False := by
  unfold closeAdmittedSessions
  rw [if_neg (ne_nil_of_mem named)]
  refine (closeSessions_owes named).seq fun res failed => ?_
  cases res with
  | error error => exact fun _ => .inl ⟨rfl, named⟩
  | ok done => exact absurd rfl failed

theorem retryEach_owes (named : id ∈ ids) :
    (retryEach nid ids).Owes (Settles nid id) fun _ => False := by
  induction ids with
  | nil => cases named
  | cons first ids ih =>
    by_cases here : id = first
    · subst here
      refine (closeSessions_owes (mem_singleton_self id)).seq fun res failed => ?_
      cases res with
      | error error => exact fun _ => .inl ⟨rfl, mem_singleton_self id⟩
      | ok done => exact absurd rfl failed
    · have rest := ih ((mem_cons.mp named).resolve_left here)
      refine owes_bind fun res => ?_
      cases res with
      | error error => exact fun _ => .inr rest
      | ok done => exact rest

theorem retryChunks_owes {chunks : List (List UserSessionId)} {chunk : List UserSessionId}
    (listed : chunk ∈ chunks) (named : id ∈ chunk) :
    (retryChunks nid chunks).Owes (Settles nid id) fun _ => False := by
  induction chunks with
  | nil => cases listed
  | cons first chunks ih =>
    by_cases here : chunk = first
    · subst here
      refine (closeSessions_owes named).seq fun res failed => ?_
      cases res with
      | error error => exact (retryEach_owes named).bind
      | ok done => exact absurd rfl failed
    · have rest := ih ((mem_cons.mp listed).resolve_left here)
      refine owes_bind fun res => ?_
      cases res with
      | error error => exact owes_bind fun _ => rest
      | ok done => exact rest

theorem exists_chunk {Element : Type} {size : Nat} (positive : 0 < size) {elements : List Element}
    {element : Element} (mem : element ∈ elements) :
    ∃ chunk ∈ chunksOf size elements, element ∈ chunk := by
  obtain ⟨i, inRange, rfl⟩ := mem_iff_getElem.mp mem
  have split := Nat.div_add_mod' i size
  have offset := Nat.mod_lt i positive
  refine ⟨(elements.drop (i / size * size)).take size, ?_, ?_⟩
  · refine mem_map.mpr ⟨i / size, mem_range.mpr ?_, rfl⟩
    calc i / size < i / size + 1 := Nat.lt_succ_self _
      _ = (i + size) / size := (Nat.add_div_right i positive).symm
      _ ≤ (elements.length + size - 1) / size := Nat.div_le_div_right (by omega)
  · refine mem_iff_getElem.mpr ⟨i % size, ?_, ?_⟩
    · simp only [length_take, length_drop]
      omega
    · simp only [getElem_take, getElem_drop, split]

theorem retryPendingCloses_honours (nid : NodeId) :
    (retryPendingCloses nid).Honours Duty.incurs Duty.discharges := by
  intro taken
  have owes : ∀ id : UserSessionId, (∃ ids : List UserSessionId, taken = ids ∧ id ∈ ids) →
      (retryChunks nid (chunksOf closeRetryChunk taken)).Owes (Settles nid id) fun _ => False := by
    rintro id ⟨ids, rfl, listed⟩
    obtain ⟨chunk, among, inChunk⟩ := exists_chunk (show 0 < closeRetryChunk by decide) listed
    exact retryChunks_owes among inChunk
  refine ⟨fun duty incurred => ?_, ?_⟩
  · cases duty with
    | close node id =>
      obtain ⟨rfl, listed⟩ := incurred
      exact owes id listed
    | recheck node change => cases incurred
    | admission tid id =>
      exact (owes id incurred).imp (fun _ settles => ⟨nid, settles⟩) fun _ never => never
  · exact leavesQueues_honours (leavesQueues_of_ordinary (retryChunks_ordinary nid _))

theorem closeSessionsNoLongerAuthorised_owes (nid : NodeId) (change : AccessChange) :
    (closeSessionsNoLongerAuthorised nid change).Owes (Duty.recheck nid change).discharges
      fun _ => False := by
  refine owes_bind fun res => ?_
  cases res with
  | error error => exact fun _ => .inl ⟨rfl, rfl⟩
  | ok done => exact fun _ => .inl rfl

variable {world w : World} {nodeId : NodeId}

theorem retryChanges_owes (nid : NodeId) {changes : List AccessChange} (listed : change ∈ changes) :
    (retryChanges nid changes).Owes (Duty.recheck nid change).discharges fun _ => False := by
  induction changes with
  | nil => cases listed
  | cons first changes ih =>
    rcases mem_cons.mp listed with rfl | later
    · exact (closeSessionsNoLongerAuthorised_owes nid change).bind
    · exact owes_bind fun _ => ih later

theorem retryPendingRevocations_honours (nid : NodeId) :
    (retryPendingRevocations nid).Honours Duty.incurs Duty.discharges := by
  intro taken
  refine ⟨fun duty incurred => ?_, ?_⟩
  · cases duty with
    | close node id | admission tid id => cases incurred
    | recheck node change =>
      obtain ⟨rfl, changes, rfl, listed⟩ := incurred
      exact (retryChanges_owes nid listed).bind
  · exact (leavesQueues_honours (leavesQueues_of_ordinary (retryChanges_ordinary nid _))).bind
      fun _ => retryPendingCloses_honours nid

theorem expiryTick_honours (nid : NodeId) (since : Option OffsetDateTime) :
    (expiryTick nid since).Honours Duty.incurs Duty.discharges := by
  have tickets := closeSessionsOfExpiredTickets_ordinary nid
  refine (leavesQueues_honours (leavesQueues_of_ordinary tickets)).bind fun _ => ?_
  refine (retryPendingRevocations_honours nid).bind fun _ => ?_
  refine leavesQueues_honours
    (leavesQueues_of_ordinary ((inquire_ordinary .now).bind fun now => ?_))
  refine (closeSessionsOfExpiredRoleAssignments_ordinary nid since now).bind fun res => ?_
  cases res <;> trivial

theorem expirySweep_honours (nid : NodeId) (ticks : Nat) (since : Option OffsetDateTime) :
    (expirySweep nid ticks since).Honours Duty.incurs Duty.discharges := by
  induction ticks generalizing since with
  | zero => trivial
  | succ ticks ih => exact (expiryTick_honours nid since).bind fun _ => ih _

theorem deleteTicketClosingSessions_honours (nid : NodeId) (tid : Uuid) :
    (deleteTicketClosingSessions nid tid).Honours Duty.incurs Duty.discharges := by
  intro admitted
  refine ⟨fun duty incurred => ?_, ?_⟩
  · cases duty with
    | close node id | recheck node change => cases incurred
    | admission deleted id =>
      obtain ⟨rfl, ids, rfl, listed⟩ := incurred
      have closes : (closeAdmittedSessions nid ids).Owes
          (Duty.admission tid id).discharges fun _ => False :=
        (closeAdmittedSessions_owes listed).imp (fun _ settles => ⟨nid, settles⟩)
          fun _ never => never
      exact closes.bind
  · rcases admitted with - | ids
    · trivial
    · have closes := closeAdmittedSessions_ordinary nid ids
      exact (leavesQueues_honours (leavesQueues_of_ordinary closes)).bind fun _ => trivial

variable (P : Primitives) (stmt : AnyStatement)

theorem Task.program_honours (t : Task) : (t.program P).Honours Duty.incurs Duty.discharges := by
  rcases t.program_cases P with
    ordinary | ⟨-, -, leaves⟩ | ⟨nid, ticks, rfl⟩ | ⟨nid, tid, rfl⟩
  · exact leavesQueues_honours (leavesQueues_of_ordinary ordinary)
  · exact leavesQueues_honours leaves
  · exact (expirySweep_honours nid ticks none).bind fun _ => trivial
  · exact deleteTicketClosingSessions_honours nid tid

/-! ### What is queued -/

inductive PendingRevocations.Step (nodeId : NodeId) :
    AnyStatement → PendingRevocations → PendingRevocations → Prop
  | same (statement : AnyStatement) (pending : PendingRevocations) :
      Step nodeId statement pending pending
  | pushedCloses (ids : List UserSessionId) (pending : PendingRevocations) :
      Step nodeId (.inr (.pushCloses nodeId ids)) pending (pending.pushCloses ids)
  | tookCloses (pending : PendingRevocations) :
      Step nodeId (.inr (.takeCloses nodeId)) pending { pending with closes := [] }
  | pushedChange (change : AccessChange) (pending : PendingRevocations) :
      Step nodeId (.inr (.pushChange nodeId change)) pending (pending.push change)
  | tookChanges (pending : PendingRevocations) :
      Step nodeId (.inr (.takeChanges nodeId)) pending { pending with changes := [] }

theorem Surroundings.pendingRevocations_withPending (around : Surroundings)
    (nid other : NodeId) (pending : PendingRevocations) :
    (around.withPending other pending).pendingRevocations nid =
      if nid = other then pending else around.pendingRevocations nid :=
  update_apply _ _ _ _

theorem pendingRevocations_step (w : World) (nid : NodeId) :
    PendingRevocations.Step nid stmt (w.pendingRevocations nid)
      ((execute P stmt w).2.pendingRevocations nid) := by
  rcases stmt with stmt | stmt
  · exact .same _ _
  have post : (execute P (.inr stmt) w).2.pendingRevocations =
      (stmt.changes w.surroundings).pendingRevocations :=
    congrArg Surroundings.pendingRevocations (surroundings_execute P stmt w)
  rw [post]
  cases stmt with
  | pushCloses | takeCloses | pushChange | takeChanges =>
    rw [changes, Surroundings.pendingRevocations_withPending]
    split
    · next same =>
      subst same
      constructor
    · exact .same _ _
  | _ => exact .same _ _

theorem closes_execute (queued : id ∈ (w.pendingRevocations nid).closes) :
    id ∈ ((execute P stmt w).2.pendingRevocations nid).closes ∨ stmt = .inr (.takeCloses nid) := by
  have step := pendingRevocations_step P stmt w nid
  generalize (execute P stmt w).2.pendingRevocations nid = later at step ⊢
  generalize w.pendingRevocations nid = pending at step queued
  cases step with
  | tookCloses => exact .inr rfl
  | pushedCloses ids => exact .inl (mem_dedup.mpr (mem_append_left _ queued))
  | _ => exact .inl queued

theorem changes_execute (queued : change ∈ (w.pendingRevocations nid).changes) :
    change ∈ ((execute P stmt w).2.pendingRevocations nid).changes ∨
      stmt = .inr (.takeChanges nid) := by
  have step := pendingRevocations_step P stmt w nid
  generalize (execute P stmt w).2.pendingRevocations nid = later at step ⊢
  generalize w.pendingRevocations nid = pending at step queued
  cases step with
  | tookChanges => exact .inr rfl
  | pushedChange change => exact .inl (mem_append_left _ queued)
  | _ => exact .inl queued

theorem mem_closes_pushCloses (w : World) (nid : NodeId) (named : id ∈ ids) :
    id ∈ ((execute P (.inr (.pushCloses nid ids)) w).2.pendingRevocations nid).closes := by
  show id ∈ (update w.pendingRevocations nid _ nid).closes
  rw [update_self]
  exact mem_dedup.mpr (mem_append_right _ named)

theorem mem_changes_pushChange (w : World) (nid : NodeId) (change : AccessChange) :
    change ∈ ((execute P (.inr (.pushChange nid change)) w).2.pendingRevocations nid).changes := by
  show change ∈ (update w.pendingRevocations nid _ nid).changes
  rw [update_self]
  exact mem_append_right _ (mem_singleton_self change)

theorem mem_takeCloses (queued : id ∈ (w.pendingRevocations nid).closes) :
    id ∈ (show List UserSessionId from (execute P (.inr (.takeCloses nid)) w).1) :=
  (perm_insertionSort _ _).mem_iff.mpr queued

section Sessions

variable (P : Primitives) (stmt : AnyStatement) {world w : World}

theorem isLive_execute (present : w.userSessions.find? id ≠ none)
    (ended : w.isLive id = false) : (execute P stmt w).2.isLive id = false :=
  (hasEnded_execute P stmt (hasEnded_of_not_live present ended)).not_live

theorem queued_or_ended_of_settles (settles : Settles nid id ⟨stmt, (execute P stmt world).1⟩) :
    id ∈ ((execute P stmt world).2.pendingRevocations nid).closes ∨
      (execute P stmt world).2.isLive id = false := by
  rcases stmt with stmt | stmt
  · cases settles
  cases stmt with
  | pushCloses pusher ids =>
    obtain ⟨rfl, named⟩ := settles
    exact .inl (mem_closes_pushCloses P world pusher named)
  | revoke revoked =>
    obtain ⟨rfl, done⟩ := settles
    rcases execute_revoke_cases P revoked world with failed | succeeded
    · rw [failed] at done
      cases done
    · rw [succeeded]
      exact .inr (isLive_markEnded world revoked)
  | read q =>
    cases q with
    | openMatching p =>
      cases p with
      | sessions ids =>
        obtain ⟨named, found, answered, missing⟩ := settles
        rcases world.whenReachable_cases (world.openMatching (.sessions ids)) with failed | listed
        · exact absurd (failed.symm.trans answered) (some_ne_none found).symm
        · obtain rfl := some.inj (listed.symm.trans answered)
          exact .inr ((isLive_or_found world named).resolve_right missing)
      | _ => cases settles
    | _ => cases settles
  | _ => cases settles

theorem queued_or_ended_execute (present : w.userSessions.find? id ≠ none)
    (settled : id ∈ (w.pendingRevocations nid).closes ∨ w.isLive id = false) :
    (id ∈ ((execute P stmt w).2.pendingRevocations nid).closes ∨
        (execute P stmt w).2.isLive id = false) ∨
      (Duty.close nid id).incurs ⟨stmt, (execute P stmt w).1⟩ := by
  rcases settled with queued | ended
  · rcases closes_execute P stmt queued with still | rfl
    · exact .inl (.inl still)
    · exact .inr ⟨rfl, _, rfl, mem_takeCloses P queued⟩
  · exact .inl (.inr (isLive_execute P stmt present ended))

end Sessions

def Rechecks (change : AccessChange) (entry : Entry Task AnyStatement World) : Prop :=
  entry.statement = .inr (.read (.rechecked change))

section Changes

variable (P : Primitives) (t : Task) (stmt : AnyStatement) {w : World}
  {newer : List (Entry Task AnyStatement World)}

theorem queued_or_rechecked_of_discharges
    (discharges : (Duty.recheck nid change).discharges ⟨stmt, (execute P stmt w).1⟩) :
    change ∈ ((execute P stmt w).2.pendingRevocations nid).changes ∨
      ∃ e ∈ ⟨t, stmt, w⟩ :: newer, Rechecks change e := by
  rcases stmt with stmt | stmt
  · cases discharges
  cases stmt with
  | pushChange pusher pushed =>
    obtain ⟨rfl, rfl⟩ := discharges
    exact .inl (mem_changes_pushChange P w pusher pushed)
  | read q =>
    cases q with
    | rechecked checked =>
      obtain rfl := discharges
      exact .inr ⟨_, .head _, rfl⟩
    | _ => cases discharges
  | _ => cases discharges

theorem queued_or_rechecked_execute
    (settled : change ∈ (w.pendingRevocations nid).changes ∨ ∃ e ∈ newer, Rechecks change e) :
    (change ∈ ((execute P stmt w).2.pendingRevocations nid).changes ∨
        ∃ e ∈ ⟨t, stmt, w⟩ :: newer, Rechecks change e) ∨
      (Duty.recheck nid change).incurs ⟨stmt, (execute P stmt w).1⟩ := by
  rcases settled with queued | ⟨e, since, rechecks⟩
  · rcases changes_execute P stmt queued with still | rfl
    · exact .inl (.inl still)
    · exact .inr ⟨rfl, _, rfl, queued⟩
  · exact .inl (.inr ⟨e, .tail _ since, rechecks⟩)

end Changes

def IsHeld (duty : Duty) (config : State) : Prop :=
  Config.Held Duty.incurs Duty.discharges duty config

/-- At every moment of every run, a queued close is in the queue, with a retry that has yet to deal
with it, or its session has ended; and a queued change is in the queue, with such a retry, or was
re-checked since. -/
theorem queued_revocation_is_never_lost (primitives : Primitives) (world : World)
    (moves : List (Move Task)) :
    let reached : State := (Config.initial world).run (system primitives) moves
    (∀ e ∈ reached.log, ∀ nodeId ids, e.statement = .inr (.pushCloses nodeId ids) →
      ∀ id ∈ ids, e.before.userSessions.find? id ≠ none →
        id ∈ (reached.state.pendingRevocations nodeId).closes ∨ IsHeld (.close nodeId id) reached ∨
          reached.state.isLive id = false) ∧
      ∀ newer e older nodeId change, reached.log = newer ++ e :: older →
        e.statement = .inr (.pushChange nodeId change) →
        change ∈ (reached.state.pendingRevocations nodeId).changes ∨
          IsHeld (.recheck nodeId change) reached ∨ ∃ later ∈ newer, Rechecks change later := by
  intro reached
  have every : Config.Along (system primitives) (fun _ _ => True) (Config.initial world) moves :=
    along_of_forall (system primitives) (fun _ _ => trivial) _ moves
  constructor
  · intro e logged nodeId ids pushes id named present
    obtain ⟨newer, older, split⟩ := append_of_mem logged
    have place := run_duties (Task.program_honours primitives) (.close nodeId id) (fun _ _ => True)
      (fun e => e.statement = .inr (.pushCloses nodeId ids) ∧ e.before.userSessions.find? id ≠ none)
      (fun s => s.userSessions.find? id ≠ none)
      (fun _ s => id ∈ (s.pendingRevocations nodeId).closes ∨ s.isLive id = false)
      ?_ (fun statement _ => userSession_present primitives statement)
      (fun c _ _ statement _ _ _ present settled =>
        queued_or_ended_execute primitives statement present settled)
      (fun _ statement _ _ _ settles => queued_or_ended_of_settles primitives statement settles)
      world moves every newer older e split ⟨pushes, present⟩
    · tauto
    · intro c m t statement _ _ raising
      obtain ⟨rfl, existed⟩ : statement = .inr (.pushCloses nodeId ids) ∧
        c.state.userSessions.find? id ≠ none := raising
      exact ⟨userSession_present primitives _ existed,
        .inl (mem_closes_pushCloses primitives c.state nodeId named)⟩
  · intro newer e older nodeId change split pushes
    have place := run_duties (Task.program_honours primitives) (.recheck nodeId change)
      (fun _ _ => True) (fun e => e.statement = .inr (.pushChange nodeId change)) (fun _ => True)
      (fun newer s => change ∈ (s.pendingRevocations nodeId).changes ∨
        ∃ later ∈ newer, Rechecks change later) ?_ (fun _ _ _ => trivial)
      (fun c _ t statement _ _ _ _ settled =>
        queued_or_rechecked_execute primitives t statement settled)
      (fun t statement _ _ _ discharges =>
        queued_or_rechecked_of_discharges primitives t statement discharges)
      world moves every newer older e split pushes
    · tauto
    · intro c m t statement _ _ raising
      obtain rfl : statement = .inr (.pushChange nodeId change) := raising
      exact ⟨trivial, .inl (mem_changes_pushChange primitives c.state nodeId change)⟩

def failsAndIsRetried : List (Move Task) :=
  [.start (.register 1 .ssh (some 0)), .advance 0, .start (.setReachable false), .advance 1,
   .start (.closeAdmitted 0 [1]), .advance 2, .advance 2,
   .start (.changeAccess 0 .all), .advance 3, .advance 3,
   .start (.expirySweep 0 1), .advance 4, .advance 4]

theorem queued_revocation_is_never_lost_failing :
    let reached : State :=
      (Config.initial (World.fresh aliceHasRole .empty)).run (system plain) failsAndIsRetried
    (1 ∈ (reached.state.pendingRevocations 0).closes ∨ IsHeld (.close 0 1) reached ∨
        reached.state.isLive 1 = false) ∧
      (AccessChange.all ∈ (reached.state.pendingRevocations 0).changes ∨
        IsHeld (.recheck 0 .all) reached ∨ ∃ later ∈ reached.log.take 2, Rechecks .all later) := by
  intro reached
  have retried := queued_revocation_is_never_lost plain (fresh aliceHasRole .empty)
    failsAndIsRetried
  refine ⟨retried.1 (reached.log.get ⟨4, by decide +kernel⟩) (get_mem _ _) 0 [1]
    (by decide +kernel) 1 (by decide) (by decide +kernel), ?_⟩
  refine retried.2 (reached.log.take 2) (reached.log.get ⟨2, by decide +kernel⟩)
    (reached.log.drop 3) 0 .all ?_ (by decide +kernel)
  show reached.log = _
  rw [get_eq_getElem, getElem_cons_drop, take_append_drop]

end

/-! ### Tickets that are deleted -/

def World.Carries (ticketId : Uuid) (id : UserSessionId) (world : World) : Prop :=
  world.approvals.tickets.find? ticketId ≠ none ∧
    ∃ targetId row, world.targetSessions.find? (id, targetId) = some row ∧ row.isOpen = true ∧
      row.ticketId = some ticketId

variable {world w : World} {tid : Uuid}

theorem mem_admitted_of_carries (carries : w.Carries tid id) :
    id ∈ w.openUserSessionsAdmittedByTickets fun ticket => ticket.id = tid := by
  obtain ⟨stored, tgt, r, found, isOpen, carried⟩ := carries
  obtain ⟨ticket, found'⟩ := ne_none_iff_exists'.mp stored
  have same : ticket.id = tid := key_of_find? found'
  have k : r.key = (id, tgt) := key_of_find? found
  refine mem_dedup.mpr (mem_map.mpr ⟨r, ?_, congrArg Prod.fst k⟩)
  refine (mem_select _ _ _).mpr ⟨mem_of_find? found, ?_⟩
  simp [isOpen, admittedByTicket, carried, found', same]

def carriesRegistrations (ticketId : Uuid) (world : World) : AnyStatement → Bool
  | .inr (.openOrLookup _ sessionId authorization) =>
    authorization.ticketId ≠ some ticketId ∨
      (world.targetSessions.find? (sessionId, authorization.target.id)).all fun row =>
        row.isOpen ∧ row.ticketId = some ticketId
  | .inr (.deleteUserRecords userId) =>
    (world.approvals.tickets.find? ticketId).map (·.userId) ≠ some userId
  | _ => true

theorem carries_execute (P : Primitives) {stmt : AnyStatement}
    (spares : carriesRegistrations tid w stmt = true) (carries : w.Carries tid id) :
    (execute P stmt w).2.Carries tid id ∨ (execute P stmt w).2.isLive id = false ∨
      (Duty.admission tid id).incurs ⟨stmt, (execute P stmt w).1⟩ := by
  have admitted := mem_admitted_of_carries carries
  obtain ⟨stored, tgt, r, found, isOpen, carried⟩ := carries
  rcases ticket_execute P stmt w tid with kept | ⟨gone, deletes⟩
  · have still : (execute P stmt w).2.approvals.tickets.find? tid ≠ none := by
      intro gone
      rw [gone, map_none] at kept
      exact stored (map_eq_none_iff.mp kept.symm)
    have step := targetSession_step P stmt w (id, tgt)
    rw [found] at step
    generalize later : (execute P stmt w).2.targetSessions.find? (id, tgt) = next at step
    cases step with
    | same => exact .inl ⟨still, tgt, r, later, isOpen, carried⟩
    | finished stmt r wasOpen orphaned =>
      have k : r.userSessionId = id := congrArg Prod.fst (key_of_find? found)
      exact .inr (.inl (k ▸ orphaned))
    | forgotten stmt r other deletes carries deleted => grind
  · rcases deletes with rfl | ⟨uid, rfl, its⟩
    · rcases w.transact_cases (w.deleteTickets fun ticket => ticket.id = tid)
        (w.openUserSessionsAdmittedByTickets fun ticket => ticket.id = tid) with
          ⟨failed, -⟩ | ⟨done, -⟩
      · exact absurd ((congrArg (·.2.approvals.tickets.find? tid) failed).symm.trans gone) stored
      · exact .inr (.inr ⟨rfl, _, congrArg Prod.fst done, admitted⟩)
    · simp [carriesRegistrations, its] at spares

def RegistersUnder (ticketId : Uuid) (id : UserSessionId) (entry : Entry Task AnyStatement World) :
    Prop :=
  ∃ preferredId authorization, entry.statement = .inr (.openOrLookup preferredId id authorization) ∧
    authorization.ticketId = some ticketId ∧
    (entry.before.openOrLookup preferredId id authorization).1.isOk = true

theorem carries_of_registration {pid : TargetSessionId} {auth : TargetAuthorization}
    (spares : carriesRegistrations tid w (.inr (.openOrLookup pid id auth)) = true)
    (under : auth.ticketId = some tid) (succeeds : (w.openOrLookup pid id auth).1.isOk = true) :
    w.userSessions.find? id ≠ none ∧ (w.openOrLookup pid id auth).2.Carries tid id := by
  rcases openOrLookup_cases w pid id auth with
    ⟨error, refused⟩ | ⟨live, valid, out, done⟩
  · rw [refused] at succeeds
    cases succeeds
  · have present : w.userSessions.find? id ≠ none := by
      intro missing
      simp [isLive, missing] at live
    have stored : w.approvals.tickets.find? tid ≠ none := by grind [ticketIsValid]
    refine ⟨present, ?_⟩
    rw [done]
    refine ⟨stored, auth.target.id, ?_⟩
    show ∃ r, (w.targetSessions.insert (.opening pid id auth)).2.find?
      (id, auth.target.id) = some r ∧ _
    rw [find?_insert]
    cases found : w.targetSessions.find? (id, auth.target.id) with
    | none => exact ⟨_, if_pos rfl, rfl, under⟩
    | some r => grind [carriesRegistrations]

theorem ticket_absent_execute (P : Primitives) (stmt : AnyStatement)
    (absent : w.approvals.tickets.find? tid = none) :
    (execute P stmt w).2.approvals.tickets.find? tid = none := by
  rcases ticket_execute P stmt w tid with kept | ⟨gone, -⟩
  · rw [absent, map_none] at kept
    exact map_eq_none_iff.mp kept
  · exact gone

def KeepsDeleted (ticketId : Uuid) (world later : World) : Prop :=
  world.approvals.tickets.find? ticketId = none → later.approvals.tickets.find? ticketId = none

theorem deleteTicket_meets {P : Primitives} (nid : NodeId) (tid : Uuid) (w : World) :
    MeetsNextTo P (fun _ _ => True) (KeepsDeleted tid) (fun _ absent => absent)
      (fun _ _ _ first second absent => second (first absent))
      (fun _ res reached => res = .ok () → reached.approvals.tickets.find? tid = none) []
      (deleteTicketClosingSessions nid tid) w := by
  refine meets_act fun later _ _ => ?_
  rcases later.transact_cases (later.deleteTickets fun ticket => ticket.id = tid)
    (later.openUserSessionsAdmittedByTickets fun ticket => ticket.id = tid) with
      ⟨failed, -⟩ | ⟨done, -⟩
  · rw [show execute P (.inr (.deleteTicket tid)) later = (none, later) from failed]
    exact fun ok => by cases ok
  · rw [show execute P (.inr (.deleteTicket tid)) later = (some _, _) from done]
    have absent : (later.deleteTickets fun ticket => ticket.id = tid).approvals.tickets.find?
        tid = none := by
      rw [deleteTickets, find?_delete]
      cases found : later.approvals.tickets.find? tid with
      | none => rfl
      | some ticket =>
        have same : ticket.id = tid := key_of_find? found
        simp [filter_some, same]
    refine (Program.Performs.meets_keeps (fun _ => True)
      (fun reached : World => reached.approvals.tickets.find? tid = none)
      (fun stmt _ _ _ => ticket_absent_execute P stmt)
      (fun _ _ keeps => keeps) (Program.performs_true _) absent).imp ?_
    exact fun _ _ _ gone _ => gone

/-- Every session in which a registration under the ticket succeeded is ended or queued, once the
deletion has succeeded and nothing is running any more, if every registration under the ticket got a
target session that carries it. -/
theorem deleted_ticket_closes_what_it_admitted (primitives : Primitives) (world : World)
    (first rest : List (Move Task)) (nodeId : NodeId) (ticketId : Uuid) :
    let moves := first ++ .start (.deleteTicket nodeId ticketId) :: rest
    let reached : State := (Config.initial world).run (system primitives) first
    let later : State := (Config.initial world).run (system primitives) moves
    Config.Along (system primitives) (Config.Performing (system primitives)
      fun c _ stmt => carriesRegistrations ticketId c.state stmt = true)
      (Config.initial world) moves →
    later.threads[reached.threads.length]?.bind Thread.result = some (.ok ()) →
    (∀ th ∈ later.threads, th.result ≠ none) →
    ∀ e ∈ later.log, ∀ id, RegistersUnder ticketId id e → later.state.isLive id = false ∨
        ∃ holder, id ∈ (later.state.pendingRevocations holder).closes := by
  intro moves reached later along fin allFinished e logged id registers
  have deleted : later.state.approvals.tickets.find? ticketId = none := by
    have onwards : later = (reached.step (system primitives)
        (.start (.deleteTicket nodeId ticketId))).run (system primitives) rest :=
      run_append (system primitives) _ first _
    rw [onwards] at fin ⊢
    obtain ⟨-, -, ensured⟩ := run_ensures (fun _ absent => absent)
      (fun _ _ _ first second absent => second (first absent))
      (fun _ _ _ _ relied ensured ok => relied (ensured ok)) reached
      (.deleteTicket nodeId ticketId) rest (fun _ _ => True)
      (fun _ _ _ stmt _ _ _ => ticket_absent_execute primitives stmt)
      (fun _ _ _ _ _ => trivial)
      (along_of_forall (system primitives) (fun _ _ => trivial) _ rest)
      (deleteTicket_meets nodeId ticketId reached.state) fin
    exact ensured rfl
  obtain ⟨newer, older, split⟩ := append_of_mem logged
  have place := run_duties (Task.program_honours primitives) (.admission ticketId id) _
    (RegistersUnder ticketId id) (fun s => s.userSessions.find? id ≠ none)
    (fun _ s => s.isLive id = false ∨
      (∃ holder, id ∈ (s.pendingRevocations holder).closes) ∨ s.Carries ticketId id)
    ?_ (fun stmt _ => userSession_present primitives stmt) ?_ ?_ world moves along newer
    older e split registers
  · rcases place with (ended | queued | carries) | held
    · exact .inl ended
    · exact .inr queued
    · exact absurd deleted carries.1
    · exact absurd held (not_held_of_finished allFinished)
  · rintro c m t stmt perm perf ⟨pid, auth, same, under, succeeds⟩
    obtain rfl : stmt = .inr (.openOrLookup pid id auth) := same
    obtain ⟨present, carries⟩ := carries_of_registration (perm.admits _ perf) under succeeds
    exact ⟨userSession_present primitives _ present, .inr (.inr carries)⟩
  · intro c m t stmt newer perm perf present settled
    rcases settled with ended | ⟨holder, queued⟩ | carries
    · exact .inl (.inl (isLive_execute primitives stmt present ended))
    · rcases closes_execute primitives stmt queued with still | rfl
      · exact .inl (.inr (.inl ⟨holder, still⟩))
      · exact .inr ⟨_, rfl, mem_takeCloses primitives queued⟩
    · rcases carries_execute primitives (perm.admits _ perf) carries with
        still | ended | incurred
      · exact .inl (.inr (.inr still))
      · exact .inl (.inl ended)
      · exact .inr incurred
  · rintro t stmt s newer present ⟨holder, settles⟩
    rcases queued_or_ended_of_settles primitives stmt settles with queued | ended
    · exact .inr (.inl ⟨holder, queued⟩)
    · exact .inl ended

def aliceTicket : Sql.Table Approvals.Ticket Approvals.Ticket.id :=
  (Sql.Table.empty.insert ⟨9, 7, none, none⟩).2

def connectsWithTicket : List (Move Task) :=
  [.start (.register 1 .ssh (some 0)), .advance 0, .start (.setReachable false),
   .start (.connect (aliceConnects 1 (.granted (some 9)))), .advance 2, .advance 2, .advance 2]

def deletesAndFails : List (Move Task) := [.advance 3, .advance 1, .advance 3, .advance 3]

theorem deleted_ticket_closes_what_it_admitted_failing :
    let later : State := (Config.initial (World.fresh aliceHasRole aliceTicket)).run
      (system plain) (connectsWithTicket ++ .start (.deleteTicket 0 9) :: deletesAndFails)
    later.state.isLive 1 = true ∧ (later.state.isLive 1 = false ∨
        ∃ holder, 1 ∈ (later.state.pendingRevocations holder).closes) := by
  intro later
  refine ⟨by decide +kernel, ?_⟩
  refine deleted_ticket_closes_what_it_admitted plain (fresh aliceHasRole aliceTicket)
    connectsWithTicket deletesAndFails 0 9 (by decide +kernel) (by decide +kernel)
    (by decide +kernel) (later.log.get ⟨4, by decide +kernel⟩) (get_mem _ _) 1 ?_
  exact ⟨100, ⟨alice, database, .ssh, some 9⟩, by decide +kernel, rfl, by decide +kernel⟩

theorem second_admission_outlives_its_ticket :
    let later : State := (Config.initial (World.fresh aliceHasRole aliceTicket)).run (system plain)
      [.start (.register 1 .ssh (some 0)), .advance 0,
       .start (.connect (aliceConnects 1 .roles)), .advance 1, .advance 1, .advance 1, .advance 1,
       .start (.connect (aliceConnects 1 (.granted (some 9)))), .advance 2, .advance 2, .advance 2,
       .start (.deleteTicket 0 9), .advance 3]
    later.threads.map Thread.result = List.replicate 4 (some (.ok ())) ∧
      (later.log.any fun e => match e.statement with
        | .inr (.openOrLookup pid id auth) =>
          auth.ticketId = some 9 ∧ id = 1 ∧ (e.before.openOrLookup pid id auth).1.isOk
        | _ => false) = true ∧
      later.state.isLive 1 = true ∧
      ∀ holder, (later.state.pendingRevocations holder).closes = [] :=
  ⟨by decide +kernel, by decide +kernel, by decide +kernel, fun _ => rfl⟩

end Warpgate.Sessions
