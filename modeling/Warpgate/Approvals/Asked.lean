/-
This file is about the end of an administrator gate, and about what asking achieves.
-/

import Warpgate.Approvals.System
import Warpgate.Concurrent.Rely

namespace Warpgate.Approvals

open Concurrent Sql.Table Config Request Statement

section

/-! ### The end of a gate -/

def PendingApproval.Requires (guard : PendingApproval)
    (history : History Statement.Outcome) : Statement → Prop
  | .findPending key => key = guard.key
  | .applyTransition row _ => ⟨.findPending guard.key, some row⟩ ∈ history
  | .refundTicket ticketId =>
    ∃ row transition moved, ⟨.applyTransition row transition, moved⟩ ∈ history ∧ 0 < moved ∧
      row.ticketId = some ticketId ∧ ⟨.findPending guard.key, some row⟩ ∈ history
  | .markConsumed key _ => key = guard.key
  | _ => False

theorem PendingApproval.drop_follows (guard : PendingApproval) (now : OffsetDateTime) :
    (guard.drop now).Follows guard.Requires (fun _ _ => True) [] := by
  unfold drop
  cases guard.closeAs with
  | none => exact ⟨rfl, fun _ => trivial⟩
  | some status =>
    simp only [Program.follows_bind, closeRequest, query, Program.follows_single]
    refine ⟨rfl, fun out => ?_⟩
    cases out with
    | none => trivial
    | some r =>
      refine settleRequestInternal_follows r _ (.head _) trivial
        (fun _ _ _ => trivial) fun moved tid positive _ carried => ⟨?_, trivial⟩
      exact ⟨r, _, moved, .head _, positive, carried, .tail _ (.head _)⟩

def Task.GuardRequires : Task → History Statement.Outcome → Statement → Prop
  | endGate guard _ _ => guard.Requires
  | _ => fun _ _ => True

theorem Task.program_follows_guardRequires (t : Task) :
    t.program.Follows t.GuardRequires (fun _ _ => True) [] := by
  cases t with
  | endGate guard guarded now => exact guard.drop_follows now
  | _ => exact Program.follows_true _

def readsGuarded (config : State) : Task → Statement → Bool
  | .endGate _ guarded _, .findPending key =>
    (execute (.findPending key) config.state).1.all (·.started = guarded)
  | _, _ => true

def GuardedEvent : Task → Event Statement Statement.Outcome → Prop
  | .endGate _ guarded _, ⟨.findPending key, found⟩ =>
    ∀ row ∈ found, row.key = key ∧ row.started = guarded
  | _, _ => True

theorem guardedEvent_of_run (db : Db) (ms : List (Move Task))
    (early : Along system (Performing system fun c t stmt => readsGuarded c t stmt)
      (initial db) ms) :
    ∀ th ∈ ((initial db).run system ms).threads, ∀ ev ∈ th.history, GuardedEvent th.task ev := by
  refine run_events GuardedEvent ?_ db ms early
  intro c t stmt m ok perf
  have reads := ok.admits system perf
  cases t with
  | endGate guard guarded now =>
    cases stmt with
    | findPending k =>
      intro r found
      have read : (execute (.findPending k) c.state).1 = some r := found
      simp only [readsGuarded, read, Option.all_some, decide_eq_true_eq] at reads
      exact ⟨key_of_find? ((findPending_eq_some_iff c.state k r).mp read).1, reads⟩
    | _ => trivial
  | _ => trivial

variable {hist : History Statement.Outcome} {guard : PendingApproval}
  {guarded now : OffsetDateTime}

theorem write_of_later {stmt : Statement} (perm : guard.Requires hist stmt)
    (reads : ∀ ev ∈ hist, GuardedEvent (.endGate guard guarded now) ev) (k : Key)
    {r : Request} (pending : r.status = .pending) (later : r.started ≠ guarded) :
    ∃ kept, stmt.write k (some r) = some kept ∧ kept.status = .pending ∧
      kept.started = r.started ∧ kept.ticketId = r.ticketId := by
  cases stmt with
  | findPending marked | refundTicket tid => exact ⟨r, rfl, pending, rfl, rfl⟩
  | markConsumed marked consumedAt =>
    by_cases fresh : r.isUnconsumedAt marked = true
    · exact ⟨r.consume consumedAt, by simp [write, fresh], pending, rfl, rfl⟩
    · exact ⟨r, by simp [write, fresh], pending, rfl, rfl⟩
  | applyTransition aimed tr =>
    -- the row it read is of the guarded asking, so the pin does not match the later one
    have unpinned : aimed.pinned r = false := by
      rw [Bool.eq_false_iff, ne_eq, pinned_iff]
      rintro ⟨-, same, -⟩
      exact later (same.trans (reads _ perm aimed rfl).2)
    exact ⟨r, by simp [write, unpinned], pending, rfl, rfl⟩
  | _ => exact perm.elim

theorem ended_of_refund {tid : Uuid} {log : List (Entry Task Statement Db)}
    (perm : guard.Requires hist (.refundTicket tid))
    (reads : ∀ ev ∈ hist, GuardedEvent (.endGate guard guarded now) ev)
    (logged : ∀ ev ∈ hist, ∃ e ∈ log, e.task = .endGate guard guarded now ∧
      ev = ⟨e.statement, (execute e.statement e.before).1⟩) :
    ∃ r tr pre, ⟨.endGate guard guarded now, .applyTransition r tr, pre⟩ ∈ log ∧
      r.ticketId = some tid ∧
      ∃ stored, pre.requests.find? guard.key = some stored ∧ stored.started = guarded ∧
        stored.status = .pending := by
  obtain ⟨r, tr, moved, settled, positive, carried, read⟩ := perm
  obtain ⟨atKey, started⟩ := reads _ read r rfl
  obtain ⟨⟨t, stmt, pre⟩, mem, rfl, same⟩ := logged _ settled
  simp only [Sigma.mk.injEq] at same
  obtain ⟨rfl, out⟩ := same
  refine ⟨r, tr, pre, mem, carried, ?_⟩
  rw [eq_of_heq out] at positive
  obtain ⟨stored, found, sameAsking, pending⟩ := (applyTransition_pos_iff pre r tr).mp positive
  exact ⟨stored, atKey ▸ found, sameAsking.trans started, pending⟩

/-- In every run in which the ends of gates read in time, no step of such an end touches the pending
row of another asking, and the only use it gives back is that of the asking its gate was holding,
after ending it. -/
theorem ending_a_gate_spares_later_askings (db : Db) (moves : List (Move Task))
    (early : Config.Along system
      (Config.Performing system fun config task statement => readsGuarded config task statement)
      (Config.initial db) moves)
    (move : Move Task) (guard : PendingApproval) (guarded now : OffsetDateTime)
    (statement : Statement)
    (performs : ((Config.initial db).run system moves).performed system move =
      some (.endGate guard guarded now, statement)) :
    (∀ key row, ((Config.initial db).run system moves).state.requests.find? key = some row →
      row.status = .pending → row.started ≠ guarded →
      ∃ kept, ((Config.initial db).run system (moves ++ [move])).state.requests.find? key =
          some kept ∧
        kept.status = .pending ∧ kept.started = row.started ∧ kept.ticketId = row.ticketId) ∧
    ∀ ticketId, statement = .refundTicket ticketId →
      ∃ row transition before,
        ⟨.endGate guard guarded now, .applyTransition row transition, before⟩ ∈
          ((Config.initial db).run system moves).log ∧
        row.ticketId = some ticketId ∧
        ∃ stored, before.requests.find? guard.key = some stored ∧ stored.started = guarded ∧
          stored.status = .pending := by
  obtain ⟨history, next, mem⟩ := mem_of_performed system performs
  have perm := (run_follows Task.GuardRequires (fun _ _ _ => True)
      Task.program_follows_guardRequires db moves _ mem).1
  have reads := guardedEvent_of_run db moves early _ mem
  refine ⟨fun key row found pending later => ?_, fun ticketId isRefund => ?_⟩
  · obtain ⟨kept, written, facts⟩ := write_of_later perm reads key pending later
    refine ⟨kept, ?_, facts⟩
    rw [run_append, run_cons, run_nil, state_step system performs]
    show (execute statement _).2.requests.find? key = some kept
    rw [find?_execute, found, written]
  · subst isRefund
    exact ended_of_refund perm reads (run_logged system db moves _ mem)

def askedOnATicket : List (Move Task) :=
  [.start (.authenticate 1 5), .advance 0, .advance 0,
    .start (.ask (.ofAdmin 1 (some 5) 10)), .advance 1, .advance 1, .advance 1]

def askedAgainAfterRead : List (Move Task) :=
  askedOnATicket ++
    [.start (.endGate ⟨1, "db", some .timedOut⟩ 10 21), .advance 2,
      .start (.endGate ⟨1, "db", some .timedOut⟩ 10 15), .advance 3, .advance 3, .advance 3,
      .start (.ask (.ofAdmin 1 (some 5) 20)), .advance 4, .advance 4, .advance 4, .advance 4,
      .advance 4]

theorem ending_a_gate_spares_later_askings_read_in_time :
    ∃ kept, ((Config.initial (Db.unasked (oneTicket 5 1))).run system
        (askedAgainAfterRead ++ [.advance 2])).state.requests.find? ⟨1, .admin, "db"⟩ = some kept ∧
      kept.status = .pending ∧ kept.started = 20 ∧ kept.ticketId = some 5 :=
  (ending_a_gate_spares_later_askings (Db.unasked (oneTicket 5 1)) askedAgainAfterRead (by decide)
    (.advance 2) ⟨1, "db", some .timedOut⟩ 10 21
    (.applyTransition (NewRequest.ofAdmin 1 (some 5) 10).toRow (.fromPending .timedOut 21))
    (by decide)).1 ⟨1, .admin, "db"⟩ (NewRequest.ofAdmin 1 (some 5) 20).toRow (by decide) rfl
    (by decide)

theorem ending_a_gate_ends_a_later_asking :
    let asked : State := (Config.initial (Db.unasked (oneTicket 5 1))).run system (askedOnATicket ++
        [.start (.endGate ⟨1, "db", some .timedOut⟩ 10 15), .advance 2, .advance 2, .advance 2,
          .start (.ask (.ofAdmin 1 (some 5) 20)), .advance 3, .advance 3, .advance 3, .advance 3,
          .advance 3])
    let dropped := asked.run system
      [.start (.endGate ⟨1, "db", some .timedOut⟩ 10 21), .advance 4, .advance 4, .advance 4]
    (asked.state.requests.find? ⟨1, .admin, "db"⟩).map (fun r => (r.status, r.started)) =
        some (.pending, 20) ∧
      asked.state.usesLeft 5 = some 0 ∧
      (dropped.state.requests.find? ⟨1, .admin, "db"⟩).map (fun r => (r.status, r.started)) =
        some (.timedOut, 20) ∧
      dropped.state.usesLeft 5 = some 1 := by
  decide

end

/-! ### A question that is asked stays asked -/

def Request.asker (row : Request) : String × Uuid × Option String :=
  (row.username, row.userId, row.matchDigest)

def Request.Kept (row later : Request) : Prop :=
  later.asker = row.asker ∧
    (later.status = row.status ∨ later.status ∈ ApprovalRequestStatus.decided)

theorem Request.kept_refl (r : Request) : r.Kept r := ⟨rfl, .inl rfl⟩

theorem Request.Kept.trans {first second third : Request} (toSecond : first.Kept second)
    (toThird : second.Kept third) : first.Kept third := by
  refine ⟨toThird.1.trans toSecond.1, ?_⟩
  rcases toThird.2 with same | decided
  · rw [same]
    exact toSecond.2
  · exact .inr decided

def Db.Keeps (key : Key) (before after : Db) : Prop :=
  ∀ row, before.requests.find? key = some row →
    ∃ later, after.requests.find? key = some later ∧ row.Kept later

variable {key k : Key} {before pre post : Db} {req : NewRequest} {db : Db}

theorem Db.keeps_of_same (same : post.requests.find? k = pre.requests.find? k) :
    Db.Keeps k pre post :=
  fun r found => ⟨r, same.trans found, r.kept_refl⟩

theorem Db.Keeps.trans {first second third : Db} (toSecond : Db.Keeps k first second)
    (toThird : Db.Keeps k second third) : Db.Keeps k first third := by
  intro r found
  obtain ⟨later, foundLater, kept⟩ := toSecond r found
  obtain ⟨last, foundLast, keptOn⟩ := toThird later foundLater
  exact ⟨last, foundLast, kept.trans keptOn⟩

def onlyDecided (key : Key) : Contract Statement Statement.Outcome Db where
  rely _ _ before after := Db.Keeps key before after
  requires _ _ _ := True
  refl _ _ _ := Db.keeps_of_same rfl
  trans _ _ _ _ _ toSecond toThird := toSecond.trans toThird

def Asked (request : NewRequest) (db : Db) : Prop :=
  ∃ row, db.requests.find? request.key = some row ∧
    (row.status ∈ ApprovalRequestStatus.decided ∨
      row.status = .pending ∧ row.asker = request.toRow.asker)

def Ended (key : Key) (db : Db) : Prop :=
  ∃ row, db.requests.find? key = some row ∧ row.status ≠ .pending

theorem Asked.keeps (asked : Asked req pre) (keeps : Db.Keeps req.key pre post) :
    Asked req post := by
  obtain ⟨r, found, answered⟩ := asked
  obtain ⟨later, foundLater, sameAsker, status⟩ := keeps r found
  refine ⟨later, foundLater, ?_⟩
  rcases status with same | decided
  · rwa [same, sameAsker]
  · exact .inl decided

theorem Asked.congr {req other : NewRequest} (asked : Asked req db)
    (sameKey : other.key = req.key) (sameAsker : other.toRow.asker = req.toRow.asker) :
    Asked other db := by
  obtain ⟨r, found, answered⟩ := asked
  exact ⟨r, by rw [sameKey, found], by rwa [sameAsker]⟩

theorem Ended.keeps (ended : Ended k pre) (keeps : Db.Keeps k pre post) : Ended k post := by
  obtain ⟨r, found, unpending⟩ := ended
  obtain ⟨later, foundLater, -, status⟩ := keeps r found
  refine ⟨later, foundLater, ?_⟩
  rcases status with same | decided
  · rwa [same]
  · exact not_pending_of_decided decided

theorem Ended.asked (ended : Ended req.key db)
    (answered : ∀ r, db.requests.find? req.key = some r →
      r.status ∉ ApprovalRequestStatus.unanswered) : Asked req db := by
  obtain ⟨r, found, unpending⟩ := ended
  refine ⟨r, found, .inl ?_⟩
  have unanswered := answered r found
  cases status : r.status with
  | pending => exact absurd status unpending
  | approved | rejected => decide
  | timedOut | abandoned => exact absurd (by rw [status]; decide) unanswered

theorem refreshPending_asks (refreshed : (execute (.refreshPending req.toRow) db).1 = true) :
    Asked req (execute (.refreshPending req.toRow) db).2 := by
  have matched := of_decide_eq_true refreshed
  rw [req.key_toRow, db.requests.matching_pos_iff _ req.key key_of_isPendingAt] at matched
  obtain ⟨r, found, pending⟩ := matched
  refine ⟨req.toRow.refresh r, ?_, .inr ⟨r.pending_of_isPendingAt pending, rfl⟩⟩
  rw [find?_execute, found]
  simp [write, pending]

theorem execute_refreshPending_of_false
    (unrefreshed : (execute (.refreshPending req.toRow) db).1 = false) :
    (execute (.refreshPending req.toRow) db).2 = db ∧
      ∀ r, db.requests.find? req.key = some r → r.status ≠ .pending := by
  have unmatched := of_decide_eq_false unrefreshed
  refine ⟨?_, fun r found pending => unmatched ?_⟩
  · simp only [execute]
    rw [update_of_matching_zero _ _ _ _ (Nat.eq_zero_of_not_pos unmatched)]
  · have atKey := key_of_find? found
    exact (db.requests.matching_pos_iff _ _ key_of_isPendingAt).mpr
      ⟨r, found, by simp [isPendingAt, atKey, pending]⟩

theorem reopenUnanswered_asks (reopened : (execute (.reopenUnanswered req.toRow) db).1 = true) :
    Asked req (execute (.reopenUnanswered req.toRow) db).2 := by
  have matched := of_decide_eq_true reopened
  rw [req.key_toRow, db.requests.matching_pos_iff _ req.key key_of_isUnansweredAt] at matched
  obtain ⟨r, found, unanswered⟩ := matched
  refine ⟨req.toRow.reopen r, ?_, .inr ⟨rfl, rfl⟩⟩
  rw [find?_execute, found]
  simp [write, unanswered]

theorem execute_reopenUnanswered_of_false
    (unreopened : (execute (.reopenUnanswered req.toRow) db).1 = false) :
    (execute (.reopenUnanswered req.toRow) db).2 = db ∧ ∀ r, db.requests.find? req.key = some r →
        r.status ∉ ApprovalRequestStatus.unanswered := by
  have unmatched := of_decide_eq_false unreopened
  refine ⟨?_, fun r found unanswered => unmatched ?_⟩
  · simp only [execute]
    rw [update_of_matching_zero _ _ _ _ (Nat.eq_zero_of_not_pos unmatched)]
  · have atKey := key_of_find? found
    exact (db.requests.matching_pos_iff _ _ key_of_isUnansweredAt).mpr
      ⟨r, found, by simp [isUnansweredAt, atKey, unanswered]⟩

theorem insertRequest_asks (inserted : (execute (.insertRequest req.toRow) db).1 = true) :
    Asked req (execute (.insertRequest req.toRow) db).2 := by
  have free : db.requests.find? req.toRow.key = none := by
    by_contra taken
    rw [show (execute (.insertRequest req.toRow) db).1 = (db.requests.insert req.toRow).1
      from rfl, insert_of_taken _ _ taken] at inserted
    cases inserted
  refine ⟨req.toRow, ?_, .inr ⟨rfl, rfl⟩⟩
  rw [find?_execute, show db.requests.find? req.key = none from free]
  simp [write]

section Programs

variable {req : NewRequest} {hist : History Statement.Outcome} {db : Db}

def ReopenEnsures (request : NewRequest) (db : Db)
    (_ : History Statement.Outcome) (result : Reopened) (reached : Db) : Prop :=
  match result with
  | .reopened => Asked request reached
  | .notUnanswered => Ended request.key db → Asked request reached
  | .ticketExhausted => request.about.ticketId ≠ none

theorem reopenOrRefund_meets (tid : Option Uuid) {prev : Db} (keeps : Db.Keeps req.key prev db) :
    (reopenOrRefund tid req.toRow).Meets execute (fun _ _ => True)
      (onlyDecided req.key) (ReopenEnsures req prev) hist db := by
  intro later relied _
  refine ⟨trivial, ?_⟩
  cases reopened : (execute (.reopenUnanswered req.toRow) later).1 with
  | true => exact reopenUnanswered_asks reopened
  | false =>
    obtain ⟨unchanged, answered⟩ := execute_reopenUnanswered_of_false reopened
    rw [unchanged]
    have answers : Ended req.key prev → Asked req later :=
      fun ended => (ended.keeps (keeps.trans relied)).asked answered
    cases tid with
    | none => exact answers
    | some ticket =>
      intro last relied _
      exact ⟨trivial, fun ended => (answers ended).keeps relied⟩

theorem spendUse_meets (ticket : Uuid) {prev : Db} (keeps : Db.Keeps req.key prev db) :
    (spendUse ticket).Meets execute (fun _ _ => True) (onlyDecided req.key)
      (fun _ _ reached => Db.Keeps req.key prev reached) hist db := by
  intro second relied _
  refine ⟨trivial, ?_⟩
  cases (execute (.findTicket ticket) second).1 with
  | none => exact keeps.trans relied
  | some read =>
    show Program.Meets _ _ _ _ _ (if read.usesLeft.isNone = true then _ else _) _
    split
    · exact keeps.trans relied
    · intro third reliedOn _
      refine ⟨trivial, ?_⟩
      show Program.Meets _ _ _ _ _ (if _ = 0 then _ else _) _
      split <;> exact (keeps.trans relied).trans reliedOn

theorem tryReopenUnanswered_meets :
    (tryReopenUnanswered req.key req.about.ticketId req.toRow).Meets execute
      (fun _ _ => True) (onlyDecided req.key) (ReopenEnsures req db) hist db := by
  cases ticketed : req.about.ticketId with
  | none => exact reopenOrRefund_meets none (Db.keeps_of_same rfl)
  | some ticket =>
    intro later relied _
    refine ⟨trivial, ?_⟩
    cases found : (execute (.findUnanswered req.key) later).1 with
    | none =>
      intro ended
      refine (ended.keeps relied).asked fun r foundRow unanswered => ?_
      have atKey := key_of_find? foundRow
      have selected : r ∈ later.requests.select (isUnansweredAt req.key) :=
        (later.requests.mem_select _ r).mpr ⟨mem_of_find? foundRow, by
          simp [isUnansweredAt, atKey, unanswered]⟩
      rw [List.head?_eq_none_iff.mp found] at selected
      cases selected
    | some stored =>
      refine (spendUse_meets ticket relied).seq fun seen out reached keeps => ?_
      cases out with
      | invalidTicket =>
        show req.about.ticketId ≠ none
        rw [ticketed]
        exact Option.some_ne_none ticket
      | spent => exact reopenOrRefund_meets (some ticket) keeps

def UpsertEnsures (request : NewRequest) (_ : History Statement.Outcome)
    (result : Advertised) (reached : Db) : Prop :=
  match result with
  | .ticketExhausted => request.about.ticketId ≠ none
  | _ => Asked request reached

theorem upsertRaced_meets (taken : db.requests.find? req.key ≠ none) :
    (upsertRaced req).Meets execute (fun _ _ => True) (onlyDecided req.key)
      (UpsertEnsures req) hist db := by
  intro later relied _
  refine ⟨trivial, ?_⟩
  cases refreshed : (execute (.refreshPending req.toRow) later).1 with
  | true => exact refreshPending_asks refreshed
  | false =>
    obtain ⟨unchanged, unpending⟩ := execute_refreshPending_of_false refreshed
    rw [unchanged]
    have ended : Ended req.key later := by
      obtain ⟨r, found⟩ := Option.ne_none_iff_exists'.mp taken
      obtain ⟨kept, foundKept, -⟩ := relied r found
      exact ⟨kept, foundKept, unpending kept foundKept⟩
    refine tryReopenUnanswered_meets.seq fun seen out reached reopens => ?_
    cases out with
    | reopened | ticketExhausted => exact reopens
    | notUnanswered => exact reopens ended

theorem upsertRequest_meets :
    (upsertRequest req).Meets execute (fun _ _ => True) (onlyDecided req.key)
      (UpsertEnsures req) hist db := by
  intro later _ _
  refine ⟨trivial, ?_⟩
  cases refreshed : (execute (.refreshPending req.toRow) later).1 with
  | true => exact refreshPending_asks refreshed
  | false =>
    refine tryReopenUnanswered_meets.seq fun seen out reached reopens => ?_
    cases out with
    | reopened => exact reopens
    | ticketExhausted =>
      intro again _ _
      refine ⟨trivial, ?_⟩
      cases refreshed : (execute (.refreshPending req.toRow) again).1 with
      | true => exact refreshPending_asks refreshed
      | false => exact reopens
    | notUnanswered =>
      intro again _ _
      refine ⟨trivial, ?_⟩
      cases inserted : (execute (.insertRequest req.toRow) again).1 with
      | true => exact insertRequest_asks inserted
      | false => exact upsertRaced_meets (by simp [find?_execute, write])

end Programs

end Warpgate.Approvals
