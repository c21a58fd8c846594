/-
This file follows the uses of one counted ticket and keeps its books over whole runs.
-/

import Mathlib.Algebra.Order.BigOperators.Group.List
import Mathlib.Algebra.Ring.Int.Defs
import Warpgate.Approvals.System

namespace Warpgate.Approvals

open Concurrent List Option Sql.Table Request Statement Config Ticket

variable {uses total : Int}

section

variable (ticketId : Uuid)

/-! ### Uses held by questions -/

def Request.holds (row : Request) : Bool :=
  row.status = .pending ∧ row.ticketId = some ticketId

def Db.holding (db : Db) : Nat :=
  db.requests.rows.countP (Request.holds ticketId)

def Request.weight (stored : Option Request) : Nat :=
  if stored.any (Request.holds ticketId) then 1 else 0

def Statement.rowKey : Statement → Option Key
  | refreshPending row => some row.key
  | reopenUnanswered row => some row.key
  | insertRequest row => some row.key
  | applyTransition row _ => some row.key
  | markConsumed key _ => some key
  | _ => none

theorem write_elsewhere {stmt : Statement} {k other : Key}
    (writes : stmt.rowKey = some k) (ne : other ≠ k) {stored : Option Request}
    (keyed : ∀ r, stored = some r → r.key = other) : stmt.write other stored = stored := by
  cases stored with
  | none =>
    cases stmt with
    | insertRequest r =>
      rw [rowKey, some.injEq] at writes
      exact if_neg fun same => ne (same.symm.trans writes)
    | _ => rfl
  | some r =>
    have atOther := keyed r rfl
    cases stmt with
    | insertRequest asked => simp [write]
    | refreshPending | reopenUnanswered | applyTransition | markConsumed =>
      rw [rowKey, some.injEq] at writes
      simp [write, isPendingAt, isUnansweredAt, pinned, isUnconsumedAt, atOther, writes, ne]
    | _ => cases writes

variable (tid : Uuid) (db : Db)

theorem weight_eq_length (stored : Option Request) :
    weight tid stored = (stored.filter (holds tid)).toList.length := by
  cases stored with
  | none => rfl
  | some r =>
    rw [weight, any_some, filter_some]
    split <;> rfl

theorem holding_execute {stmt : Statement} {k : Key} (writes : stmt.rowKey = some k) :
    (execute stmt db).2.holding tid + weight tid (db.requests.find? k) = db.holding tid +
        weight tid (stmt.write k (db.requests.find? k)) := by
  have counts := countP_of_agree db.requests (execute stmt db).2.requests k
    (holds tid) fun other ne => by
      rw [find?_execute]
      exact write_elsewhere writes ne fun r found => key_of_find? found
  rw [weight_eq_length, weight_eq_length, ← find?_execute]
  exact counts

theorem holding_deleteAllBefore (cut : OffsetDateTime)
    (unconsumed : ∀ row ∈ db.requests.rows, row.holds tid = true → row.consumedAt = none) :
    (execute (.deleteAllBefore cut) db).2.holding tid = db.holding tid := by
  show (db.requests.rows.filter fun row => !row.isInactiveBefore cut).countP _ = _
  rw [countP_filter, Db.holding]
  refine countP_congr fun row mem => ?_
  rw [Bool.and_eq_true, and_iff_left_iff_imp]
  intro holds
  have fresh := unconsumed row mem holds
  simp only [Request.holds, decide_eq_true_eq] at holds
  simp [Request.isInactiveBefore, ApprovalRequestStatus.unanswered, holds.1, fresh]

def Statement.usesChange (uses : Int) : Statement → Int
  | spendTicket spent => if spent = ticketId ∧ 0 < uses then -1 else 0
  | refundTicket refunded => if refunded = ticketId then 1 else 0
  | _ => 0

theorem usesLeft_eq_some_iff (tid : Uuid) (uses : Int) :
    db.usesLeft tid = some uses ↔
      ∃ uid expiry, db.tickets.find? tid = some ⟨tid, uid, some uses, expiry⟩ := by
  rw [Db.usesLeft, bind_eq_some_iff]
  constructor
  · rintro ⟨⟨id, uid, usesLeft, expiry⟩, found, rfl⟩
    obtain rfl : id = tid := key_of_find? found
    exact ⟨uid, expiry, found⟩
  · rintro ⟨uid, expiry, found⟩
    exact ⟨_, found, rfl⟩

theorem usesLeft_execute {tid : Uuid} (stmt : Statement) (db : Db)
    (cnt : db.usesLeft tid = some uses) :
    (execute stmt db).2.usesLeft tid = some (uses + stmt.usesChange tid uses) := by
  rw [usesLeft_eq_some_iff] at cnt ⊢
  obtain ⟨uid, expiry, cnt⟩ := cnt
  refine ⟨uid, expiry, ?_⟩
  cases stmt with
  | spendTicket spent =>
    simp only [execute, find?_update, cnt, map_some, canSpend, usesChange]
    by_cases same : tid = spent
    · by_cases positive : 0 < uses
      · simp [← same, positive, changeUses, Int.sub_eq_add_neg]
      · simp [← same, positive]
    · simp [same, Ne.symm same]
  | refundTicket refunded =>
    simp only [execute, find?_update, cnt, map_some, isCounted, usesChange]
    by_cases same : tid = refunded
    · simp [← same, changeUses]
    · simp [same, Ne.symm same]
  | _ => simpa [execute, usesChange] using cnt

theorem spendTicket_pos_iff {tid : Uuid} (cnt : db.usesLeft tid = some uses) :
    0 < (execute (.spendTicket tid) db).1 ↔ 0 < uses := by
  have spends := db.tickets.matching_pos_iff (canSpend tid) tid fun ticket matched => by
      simp only [canSpend, decide_eq_true_eq] at matched
      exact matched.1
  obtain ⟨uid, expiry, stored⟩ := (usesLeft_eq_some_iff db tid uses).mp cnt
  simp only [execute, spends, stored]
  simp [canSpend]

def Task.authenticates : Task → Bool
  | authenticate _ _ => true
  | _ => false

def Task.settles : Task → Bool
  | authenticate _ _ => false
  | ask _ => false
  | _ => true

/-! ### Uses held by threads -/

section

variable (ticketId : Uuid) (task : Task)

def heldChange : Event Statement Statement.Outcome → Int
  | ⟨.spendTicket spent, affected⟩ =>
    if spent = ticketId ∧ 0 < affected ∧ task.authenticates = false then 1 else 0
  | ⟨.refundTicket refunded, _⟩ => if refunded = ticketId then -1 else 0
  | ⟨.reopenUnanswered row, reopened⟩ =>
    if reopened ∧ row.ticketId = some ticketId then -1 else 0
  | ⟨.applyTransition row transition, moved⟩ =>
    if 0 < moved ∧ transition.toStatus ≠ .approved ∧ row.ticketId = some ticketId then 1 else 0
  | _ => 0

def held (history : History Statement.Outcome) : Int :=
  (history.map (heldChange ticketId task)).sum

def Statement.holding : Statement → Int
  | reopenUnanswered row => if row.ticketId = some ticketId then 1 else 0
  | refundTicket refunded => if refunded = ticketId then 1 else 0
  | _ => 0

def CountedEvent : Event Statement Statement.Outcome → Prop
  | ⟨.findTicket found, some ticket⟩ => found = ticketId → ticket.usesLeft ≠ none
  | _ => True

def Holds (amount : Int) (history : History Statement.Outcome) : Prop :=
  (∀ event ∈ history, CountedEvent ticketId event) → held ticketId task history = amount

variable {tid t}

theorem holds_nil : Holds tid t 0 [] := fun _ => rfl

theorem Holds.cons {amount : Int} {hist : History Outcome}
    (holds : Holds tid t amount hist) (ev : Event Statement Outcome)
    (adds : heldChange tid t ev + amount = total) :
    Holds tid t total (ev :: hist) := by
  intro cnt
  rw [held, map_cons, sum_cons, ← adds]
  exact congrArg _ (holds fun ev mem => cnt ev (.tail _ mem))

end

def Statement.Settles : Statement → Prop
  | spendTicket _ | refreshPending _ | reopenUnanswered _ | insertRequest _ => False
  | applyTransition _ transition => transition.toStatus ≠ .pending
  | _ => True

def Task.MayPerform : Task → Statement → Prop
  | authenticate _ _, statement =>
    match statement with
    | .findTicket _ | .spendTicket _ => True
    | _ => False
  | ask request, statement =>
    match statement with
    | .insertRequest row => row = request.toRow
    | .applyTransition _ _ | .markConsumed _ _ | .deleteAllBefore _ => False
    | _ => True
  | _, statement => statement.Settles

theorem Task.mayPerform_of_settles {t : Task} (settles : t.settles = true)
    (stmt : Statement) : t.MayPerform stmt = stmt.Settles := by
  cases t with
  | authenticate sid tid | ask req => cases settles
  | _ => rfl

def Task.Accounts (task : Task)
    (history : History Statement.Outcome) (statement : Statement) : Prop :=
  task.MayPerform statement ∧ Holds ticketId task (statement.holding ticketId) history

abbrev Balances (task : Task) {Result : Type} (program : Query Result)
    (history : History Statement.Outcome) : Prop :=
  program.Follows (task.Accounts ticketId) (fun seen _ => Holds ticketId task 0 seen) history

section Accounts

variable {tid : Uuid} {hist : History Statement.Outcome}

theorem authenticate_accounts (sid : UserSessionId) (spent : Uuid) :
    Balances tid (.authenticate sid spent) (Task.authenticate sid spent).program [] := by
  have spends : Balances tid (.authenticate sid spent) (spendUse spent) [] := by
    refine spendUse_follows spent ⟨trivial, holds_nil⟩ (holds_nil.cons _ rfl)
      (fun ticket _ => holds_nil.cons _ rfl)
      fun ticket _ => ⟨⟨trivial, holds_nil.cons _ rfl⟩, ?_, ?_⟩
    · exact (holds_nil.cons _ rfl).cons _ (by simp [heldChange])
    · exact fun affected _ =>
        (holds_nil.cons _ rfl).cons _ (by simp [heldChange, Task.authenticates])
  exact spends.seq fun seen _ holds => holds

variable {req : NewRequest}

theorem tryRefreshPending_accounts (r : Request) (holds : Holds tid (.ask req) 0 hist) :
    Balances tid (.ask req) (tryRefreshPending r) hist :=
  ⟨⟨trivial, holds⟩, fun _ => holds.cons _ rfl⟩

theorem reopenOrRefund_accounts (paid : Option Uuid) (r : Request) (same : r.ticketId = paid)
    (holds : Holds tid (.ask req) (if paid = some tid then 1 else 0) hist) :
    Balances tid (.ask req) (reopenOrRefund paid r) hist := by
  refine ⟨⟨trivial, by simpa [Statement.holding, same] using holds⟩, fun reopened => ?_⟩
  cases reopened with
  | true => exact holds.cons _ (by by_cases here : paid = some tid <;> simp [heldChange, *])
  | false =>
    have still : Holds tid (.ask req) (if paid = some tid then 1 else 0)
        (⟨.reopenUnanswered r, false⟩ :: hist) := holds.cons _ (by simp [heldChange])
    cases paid with
    | none => exact still
    | some spent =>
      simp only [some.injEq] at still
      refine ⟨⟨trivial, by simpa [Statement.holding] using still⟩, fun _ => still.cons _ ?_⟩
      by_cases here : spent = tid <;> simp [heldChange, here]

theorem tryReopenUnanswered_accounts (k : Key) (paid : Option Uuid) (r : Request)
    (same : r.ticketId = paid) (holds : Holds tid (.ask req) 0 hist) :
    Balances tid (.ask req) (tryReopenUnanswered k paid r) hist := by
  cases paid with
  | none => exact reopenOrRefund_accounts none r same (by simpa using holds)
  | some spent =>
    refine ⟨⟨trivial, holds⟩, fun unanswered => ?_⟩
    have seen : Holds tid (.ask req) 0 (⟨.findUnanswered k, unanswered⟩ :: hist) := holds.cons _ rfl
    cases unanswered with
    | none => exact seen
    | some r =>
      have spends : (spendUse spent).Follows ((Task.ask req).Accounts tid)
          (fun seen res => Holds tid (.ask req) (if res = .spent ∧ spent = tid then 1 else 0) seen)
          (⟨.findUnanswered k, some r⟩ :: hist) := by
        have found : ∀ out : Option Ticket, Holds tid (.ask req) 0
            (⟨.findTicket spent, out⟩ :: ⟨.findUnanswered k, some r⟩ :: hist) :=
          fun out => seen.cons _ rfl
        refine spendUse_follows spent ⟨trivial, seen⟩ (by simpa using found none) ?_ ?_
        · intro ticket unlimited cnt
          have other : spent ≠ tid := fun same =>
            cnt ⟨.findTicket spent, some ticket⟩ (.head _) same unlimited
          simpa [other] using found (some ticket) cnt
        · intro ticket _
          refine ⟨⟨trivial, found (some ticket)⟩, ?_, fun affected positive => ?_⟩
          · exact (found (some ticket)).cons _ (by simp [heldChange])
          · refine (found (some ticket)).cons _ ?_
            simp [heldChange, positive, Task.authenticates]
      refine spends.seq fun later res paid => ?_
      cases res with
      | invalidTicket => simpa using paid
      | spent => exact reopenOrRefund_accounts (some spent) _ same (by simpa using paid)

theorem upsertRequest_accounts (holds : Holds tid (.ask req) 0 hist) :
    Balances tid (.ask req) (upsertRequest req) hist := by
  have raced : ∀ seen, Holds tid (.ask req) 0 seen →
      Balances tid (.ask req) (upsertRaced req) seen := by
    intro seen holds
    refine (tryRefreshPending_accounts req.toRow holds).seq fun seen refreshed holds => ?_
    cases refreshed with
    | true => exact holds
    | false =>
      refine (tryReopenUnanswered_accounts req.key _ req.toRow rfl holds).seq
        fun seen res holds => ?_
      cases res <;> exact holds
  refine (tryRefreshPending_accounts req.toRow holds).seq fun seen refreshed holds => ?_
  cases refreshed with
  | true => exact holds
  | false =>
    refine (tryReopenUnanswered_accounts req.key _ req.toRow rfl holds).seq fun seen res holds => ?_
    cases res with
    | reopened => exact holds
    | ticketExhausted =>
      refine (tryRefreshPending_accounts req.toRow holds).seq fun seen refreshed holds => ?_
      cases refreshed <;> exact holds
    | notUnanswered =>
      refine ⟨⟨rfl, holds⟩, fun inserted => ?_⟩
      have post : Holds tid (.ask req) 0
          (⟨.insertRequest req.toRow, inserted⟩ :: seen) := holds.cons _ rfl
      cases inserted with
      | true => exact post
      | false => exact raced _ post

section Settling

variable {t : Task} (settles : t.settles = true)

include settles

theorem accounts_of_settles {stmt : Statement} (settling : stmt.Settles)
    (idle : stmt.holding tid = 0) (holds : Holds tid t 0 hist) : t.Accounts tid hist stmt :=
  ⟨(t.mayPerform_of_settles settles stmt) ▸ settling, idle ▸ holds⟩

theorem settleRequestInternal_accounts (r : Request) (tr : StatusTransition)
    (ends : tr.toStatus ≠ .pending) (holds : Holds tid t 0 hist) :
    Balances tid t (settleRequestInternal r tr) hist := by
  refine settleRequestInternal_follows r tr
    (accounts_of_settles settles ends rfl holds) (holds.cons _ (by simp [heldChange])) ?_ ?_
  · rintro moved - (approved | unpaid)
    · exact holds.cons _ (by simp [heldChange, approved])
    · exact holds.cons _ (by simp [heldChange, unpaid])
  · intro moved carried positive unapproved carries
    have owes : Holds tid t (if carried = tid then 1 else 0)
        (⟨.applyTransition r tr, moved⟩ :: hist) :=
      holds.cons _ (by simp [heldChange, positive, unapproved, carries])
    refine ⟨⟨(t.mayPerform_of_settles settles _) ▸ trivial, owes⟩, owes.cons _ ?_⟩
    by_cases here : carried = tid <;> simp [heldChange, here]

theorem abandonEach_accounts (now : OffsetDateTime) (rows : List Request)
    (holds : Holds tid t 0 hist) : Balances tid t (abandonEach now rows) hist := by
  induction rows generalizing hist with
  | nil => exact holds
  | cons r rows ih =>
    refine (settleRequestInternal_accounts settles r _ ApprovalRequestStatus.noConfusion
      holds).seq fun seen _ holds => ?_
    exact ih holds

variable (sid : UserSessionId) (kind : ApprovalKind)

theorem closeRequest_accounts (target : String) (status : UndecidedApprovalRequestStatus)
    (now : OffsetDateTime) (holds : Holds tid t 0 hist) :
    Balances tid t (closeRequest sid kind target status now) hist := by
  refine ⟨accounts_of_settles settles trivial rfl holds, fun found => ?_⟩
  have seen : Holds tid t 0 (⟨.findPending ⟨sid, kind, target⟩, found⟩ :: hist) := holds.cons _ rfl
  cases found with
  | none => exact seen
  | some r => exact settleRequestInternal_accounts settles r _ (by cases status <;> nofun) seen

theorem recordDecision_accounts (target : String) (dec : ApprovalDecision)
    (actor : ApprovalActor) (now : OffsetDateTime) (holds : Holds tid t 0 hist) :
    Balances tid t (recordDecision sid kind target dec actor now) hist := by
  simp only [recordDecision, query, Program.single_bind, Program.follows_perform]
  refine ⟨accounts_of_settles settles trivial rfl holds, fun found => ?_⟩
  have seen : Holds tid t 0 (⟨.findRow ⟨sid, kind, target⟩, found⟩ :: hist) := holds.cons _ rfl
  split
  · exact seen
  · exact settleRequestInternal_accounts settles _ _ dec.status_ne_pending seen

end Settling

theorem Task.program_accounts (t : Task) : Balances tid t t.program [] := by
  cases t with
  | authenticate sid spent => exact authenticate_accounts sid spent
  | ask req => exact (upsertRequest_accounts holds_nil).seq fun seen _ holds => holds
  | decide k dec actor now =>
    exact (recordDecision_accounts rfl _ _ _ dec actor now holds_nil).seq fun seen _ holds => holds
  | close k status now =>
    exact (closeRequest_accounts rfl _ _ _ status now holds_nil).seq fun seen _ holds => holds
  | endGate guard guarded now =>
    obtain ⟨sid, target, closeAs⟩ := guard
    cases closeAs with
    | none => exact ⟨accounts_of_settles rfl trivial rfl holds_nil, fun _ => holds_nil.cons _ rfl⟩
    | some status =>
      exact (closeRequest_accounts rfl _ _ _ status now holds_nil).seq fun seen _ holds => holds
  | consume k now | prune cut =>
    exact ⟨accounts_of_settles rfl trivial rfl holds_nil, fun _ => holds_nil.cons _ rfl⟩
  | abandonSession sid now | abandonBefore cut now =>
    exact ⟨accounts_of_settles rfl trivial rfl holds_nil,
      fun rows => abandonEach_accounts rfl now rows (holds_nil.cons _ rfl)⟩

end Accounts

end

/-! ### The log of a ticket -/

section

variable (ticketId : Uuid) (entry : Entry Task Statement Db)

def authenticatedSession : Option UserSessionId :=
  match entry.task, entry.statement with
  | .authenticate sessionId _, .spendTicket spent =>
    if spent = ticketId ∧ (entry.before.usesLeft ticketId).any (0 < ·) then some sessionId
    else none
  | _, _ => none

def insertedSession : Option UserSessionId :=
  match entry.statement with
  | .insertRequest row =>
    if row.ticketId = some ticketId ∧ entry.before.requests.find? row.key = none then
      some row.sessionId
    else none
  | _ => none

def movedRow : Option (Request × ApprovalRequestStatus) :=
  match entry.statement with
  | .applyTransition row transition =>
    ((entry.before.requests.find? row.key).filter fun stored =>
      row.pinned stored && stored.ticketId = some ticketId).map (·, transition.toStatus)
  | _ => none

def approvedQuestion : Option Key :=
  ((movedRow ticketId entry).filter (·.2 = .approved)).map (·.1.key)

def endedQuestion : Option Key :=
  ((movedRow ticketId entry).filter (·.2 ≠ .approved)).map (·.1.key)

def isReturn : Bool :=
  entry.task.settles && entry.statement = .refundTicket ticketId

variable (log : List (Entry Task Statement Db))

def authentications : List UserSessionId := log.filterMap (authenticatedSession ticketId)

def insertions : List UserSessionId := log.filterMap (insertedSession ticketId)

def approvedQuestions : List Key := log.filterMap (approvedQuestion ticketId)

def endedQuestions : List Key := log.filterMap (endedQuestion ticketId)

def returns : Nat := log.countP (isReturn ticketId)

end

def owed (ticketId : Uuid) (threads : List (Thread Task Statement Statement.Outcome Unit)) : Nat :=
  threads.countP fun thread =>
    thread.task.settles && thread.program.head = some (.refundTicket ticketId)

/-- The uses in the hands of the threads: spent for a row not reopened yet, or about to be given
back. -/
def inFlight (ticketId : Uuid) (threads : List (Thread Task Statement Statement.Outcome Unit)) :
    Int :=
  (threads.map fun thread => (thread.program.head.map (Statement.holding ticketId)).getD 0).sum

def sameTicket (ticketId : Uuid) (row stored : Request) : Bool :=
  decide (row.ticketId = some ticketId) = decide (stored.ticketId = some ticketId)

def keepsBooks (ticketId : Uuid) (config : State) : Statement → Bool
  | .insertRequest row =>
    row.ticketId = some ticketId → config.state.requests.find? row.key = none →
      (insertions ticketId config.log).count row.sessionId <
        (authentications ticketId config.log).count row.sessionId
  | .refreshPending row =>
    (config.state.requests.find? row.key).all fun stored =>
      stored.status = .pending → sameTicket ticketId row stored
  | .applyTransition row _ =>
    (config.state.requests.find? row.key).all fun stored =>
      row.pinned stored → sameTicket ticketId row stored
  | .markConsumed key _ =>
    (config.state.requests.find? key).all fun stored => !stored.holds ticketId
  | _ => true

structure Balanced (ticketId : Uuid) (total : Int) (config : State) : Prop where
  balance : ∃ uses, config.state.usesLeft ticketId = some uses ∧ 0 ≤ uses ∧
    uses + config.state.holding ticketId +
        (config.threads.map fun thread => held ticketId thread.task thread.history).sum +
        ((authentications ticketId config.log).length - (insertions ticketId config.log).length) +
        (approvedQuestions ticketId config.log).length = total
  credited : ∀ sessionId, (insertions ticketId config.log).count sessionId ≤
    (authentications ticketId config.log).count sessionId
  returned : ((endedQuestions ticketId config.log).length : Int) = returns ticketId config.log +
    (config.threads.map fun thread =>
      if thread.task.settles then held ticketId thread.task thread.history else 0).sum
  unconsumed : ∀ row ∈ config.state.requests.rows, row.holds ticketId = true →
    row.consumedAt = none
  counted : ∀ thread ∈ config.threads, ∀ event ∈ thread.history, CountedEvent ticketId event

variable {stmt : Statement}

section Holding

variable (tid : Uuid) (db : Db) (r : Request)

theorem Request.holds_iff {tid : Uuid} :
    r.holds tid = true ↔ r.status = .pending ∧ r.ticketId = some tid := by
  simp [holds]

theorem holding_of_reads (reads : stmt.rowKey = none)
    (keeps : stmt.prunes = false) : (execute stmt db).2.holding tid = db.holding tid := by
  cases stmt with
  | deleteAllBefore cut => cases keeps
  | _ => first | rfl | cases reads

theorem weight_some :
    weight tid (some r) = if r.status = .pending ∧ r.ticketId = some tid then 1 else 0 := by
  simp [weight, holds]

theorem holding_refreshPending
    (keeps : ∀ stored, db.requests.find? r.key = some stored → stored.status = .pending →
      (r.ticketId = some tid ↔ stored.ticketId = some tid)) :
    (execute (.refreshPending r) db).2.holding tid = db.holding tid := by
  have changed := holding_execute tid db (rfl : (refreshPending r).rowKey = _)
  suffices same : weight tid ((refreshPending r).write r.key (db.requests.find? r.key)) =
      weight tid (db.requests.find? r.key) by omega
  cases found : db.requests.find? r.key with
  | none => rfl
  | some stored => grind [isPendingAt, write, refresh, weight_some]

theorem reopenUnanswered_eq_true_iff :
    (execute (.reopenUnanswered r) db).1 = true ↔ ∃ stored, db.requests.find? r.key = some stored ∧
        stored.isUnansweredAt r.key = true := by
  have matching := db.requests.matching_pos_iff (isUnansweredAt r.key) r.key key_of_isUnansweredAt
  simpa [execute] using matching

theorem holding_reopenUnanswered :
    (execute (.reopenUnanswered r) db).2.holding tid = db.holding tid +
        if (execute (.reopenUnanswered r) db).1 = true ∧ r.ticketId = some tid then 1 else 0 := by
  have changed := holding_execute tid db (rfl : (reopenUnanswered r).rowKey = _)
  have landed := reopenUnanswered_eq_true_iff db r
  cases found : db.requests.find? r.key with
  | none =>
    rw [found] at changed landed
    have lost : ¬ (execute (.reopenUnanswered r) db).1 = true := by grind
    rw [if_neg fun both => lost both.1]
    exact changed
  | some stored =>
    rw [found] at changed landed
    by_cases unanswered : stored.isUnansweredAt r.key = true
    · have settled : stored.status ≠ .pending := fun pending => by
        simp [isUnansweredAt, pending, ApprovalRequestStatus.unanswered] at unanswered
      simp only [write, map_some, unanswered, if_true, weight_some] at changed
      simp only [settled, false_and, if_false] at changed
      simpa [landed.mpr ⟨stored, rfl, unanswered⟩, reopen, refresh] using changed
    · grind [write]

theorem holding_insertRequest (pending : r.status = .pending) :
    (execute (.insertRequest r) db).2.holding tid = db.holding tid +
        if r.ticketId = some tid ∧ db.requests.find? r.key = none then 1 else 0 := by
  have changed := holding_execute tid db (rfl : (insertRequest r).rowKey = _)
  cases found : db.requests.find? r.key with
  | none =>
    rw [found] at changed
    simp only [write, if_true, getD_none, weight_some, pending] at changed
    simpa [weight] using changed
  | some stored => grind [write]

theorem holding_applyTransition (t : Task) (r : Request) (tr : StatusTransition)
    (ends : tr.toStatus ≠ .pending) :
    (execute (.applyTransition r tr) db).2.holding tid +
        (movedRow tid ⟨t, .applyTransition r tr, db⟩).toList.length = db.holding tid := by
  have changed := holding_execute tid db (rfl : (applyTransition r tr).rowKey = _)
  cases found : db.requests.find? r.key with
  | none => grind [movedRow, write]
  | some stored =>
    rw [found] at changed
    by_cases pinned : r.pinned stored = true
    · have pending := ((r.pinned_iff stored).mp pinned).2.2
      simp only [write, map_some, pinned, if_true, weight_some] at changed
      simp only [StatusTransition.status_write, ends, false_and, if_false, pending, true_and,
        Nat.add_zero] at changed
      rw [← changed]
      by_cases carried : stored.ticketId = some tid <;>
        simp [movedRow, found, pinned, carried, filter_some]
    · grind [write, movedRow]

theorem holding_markConsumed (k : Key) (now : OffsetDateTime) :
    (execute (.markConsumed k now) db).2.holding tid = db.holding tid := by
  have changed := holding_execute tid db (rfl : (Statement.markConsumed k now).rowKey = _)
  suffices same : weight tid ((Statement.markConsumed k now).write k (db.requests.find? k)) =
      weight tid (db.requests.find? k) by omega
  cases db.requests.find? k with
  | none => rfl
  | some stored =>
    by_cases fresh : stored.isUnconsumedAt k = true
    · simp [Statement.write, fresh, weight_some, consume]
    · simp [Statement.write, fresh]

end Holding

/-! ### What a step does to the books -/

section

variable {tid : Uuid} {db : Db} {t : Task} {c : State}

theorem sameTicket_iff (r stored : Request) :
    sameTicket tid r stored = true ↔ (r.ticketId = some tid ↔ stored.ticketId = some tid) := by
  simp [sameTicket]

variable {r stored : Request} {tr : StatusTransition}

theorem sameTicket_of_refresh (keeps : keepsBooks tid c (.refreshPending r) = true)
    (found : c.state.requests.find? r.key = some stored) (pending : stored.status = .pending) :
    r.ticketId = some tid ↔ stored.ticketId = some tid := by
  grind [keepsBooks, sameTicket_iff]

theorem heldChange_of_settle {r : Request}
    (keeps : keepsBooks tid c (.applyTransition r tr) = true) :
    heldChange tid t ⟨.applyTransition r tr, (execute (.applyTransition r tr) c.state).1⟩ =
      (endedQuestion tid ⟨t, .applyTransition r tr, c.state⟩).toList.length := by
  have ms := applyTransition_pos_iff c.state r tr
  simp only [heldChange, endedQuestion, movedRow]
  cases found : c.state.requests.find? r.key with
  | none => grind
  | some stored =>
    have atKey := key_of_find? found
    have movesStored : 0 < (execute (.applyTransition r tr) c.state).1 ↔
        r.pinned stored = true := by
      rw [ms, found, r.pinned_iff]
      simp [atKey]
    by_cases pinned : r.pinned stored = true
    · simp only [keepsBooks, found, all_some, decide_eq_true_eq] at keeps
      have same := (sameTicket_iff r stored).mp (keeps pinned)
      by_cases carried : stored.ticketId = some tid <;>
        by_cases approved : tr.toStatus = .approved <;>
        simp [filter_some, movesStored, pinned, same, carried, approved]
    · simp [filter_some, movesStored, pinned]

variable (e : Entry Task Statement Db)

theorem length_movedRow :
    (movedRow tid e).toList.length = (approvedQuestion tid e).toList.length +
        (endedQuestion tid e).toList.length := by
  simp only [approvedQuestion, endedQuestion]
  cases movedRow tid e with
  | none => rfl
  | some moved => by_cases approved : moved.2 = .approved <;> simp [filter_some, approved]

def Statement.isBooked : Statement → Bool
  | spendTicket _ | insertRequest _ | applyTransition _ _ => true
  | _ => false

theorem booked_of_not_isBooked (unbooked : e.statement.isBooked = false) :
    authenticatedSession tid e = none ∧ insertedSession tid e = none ∧ movedRow tid e = none := by
  obtain ⟨t, stmt, pre⟩ := e
  cases stmt with
  | spendTicket spent | insertRequest r | applyTransition r tr => cases unbooked
  | _ => cases t <;> exact ⟨rfl, rfl, rfl⟩

def booked (ticketId : Uuid) (entry : Entry Task Statement Db) : Int :=
  ((authenticatedSession ticketId entry).toList.length -
    (insertedSession ticketId entry).toList.length) +
    (approvedQuestion ticketId entry).toList.length

theorem booked_eq_zero (unbooked : e.statement.isBooked = false) : booked tid e = 0 := by
  grind [booked, approvedQuestion, booked_of_not_isBooked]

theorem spent_eq (cnt : c.state.usesLeft tid = some uses) (spent : Uuid)
    (perm : t.MayPerform (.spendTicket spent)) :
    (spendTicket spent).usesChange tid uses + heldChange tid t
          ⟨.spendTicket spent, (execute (.spendTicket spent) c.state).1⟩ +
        booked tid ⟨t, .spendTicket spent, c.state⟩ = 0 := by
  by_cases here : spent = tid
  · subst here
    have spends := spendTicket_pos_iff c.state cnt
    cases t with
    | authenticate sid named =>
      by_cases positive : 0 < uses <;>
        simp [usesChange, heldChange, booked, authenticatedSession, insertedSession,
          approvedQuestion, movedRow, cnt, positive, Task.authenticates]
    | ask req =>
      by_cases positive : 0 < uses <;>
        simp [usesChange, heldChange, booked, authenticatedSession, insertedSession,
          approvedQuestion, movedRow, spends, positive, Task.authenticates]
    | _ => exact perm.elim
  · cases t <;>
      simp [usesChange, heldChange, booked, authenticatedSession, insertedSession,
        approvedQuestion, movedRow, here]

theorem balance_step (cnt : c.state.usesLeft tid = some uses)
    (unconsumed : ∀ r ∈ c.state.requests.rows, r.holds tid = true →
      r.consumedAt = none) (perm : t.MayPerform stmt) (keeps : keepsBooks tid c stmt = true) :
    stmt.usesChange tid uses + ((execute stmt c.state).2.holding tid : Int) +
        heldChange tid t ⟨stmt, (execute stmt c.state).1⟩ + booked tid ⟨t, stmt, c.state⟩ =
      c.state.holding tid := by
  cases stmt with
  | spendTicket spent =>
    rw [holding_of_reads tid c.state rfl rfl]
    have spends := spent_eq cnt spent perm
    omega
  | insertRequest r =>
    have pending : r.status = .pending := by
      cases t with
      | ask req =>
        have asked := perm
        rw [asked]
        rfl
      | _ => exact perm.elim
    rw [holding_insertRequest tid c.state r pending]
    by_cases inserted : r.ticketId = some tid ∧ c.state.requests.find? r.key = none <;>
      simp [usesChange, heldChange, booked, authenticatedSession, insertedSession,
        approvedQuestion, movedRow, inserted]
  | applyTransition r tr =>
    have ends : tr.toStatus ≠ .pending := by
      cases t with
      | authenticate sid named | ask req => exact perm.elim
      | _ => exact perm
    have taken := holding_applyTransition tid c.state t r tr ends
    rw [length_movedRow] at taken
    rw [heldChange_of_settle keeps]
    simp only [usesChange, booked, authenticatedSession, insertedSession, toList_none, length_nil]
    omega
  | reopenUnanswered r =>
    rw [holding_reopenUnanswered tid c.state r, booked_eq_zero _ rfl]
    by_cases landed : (execute (.reopenUnanswered r) c.state).1 = true ∧ r.ticketId = some tid <;>
      simp [usesChange, heldChange, landed]
  | refundTicket refunded =>
    rw [holding_of_reads tid c.state rfl rfl, booked_eq_zero _ rfl]
    by_cases here : refunded = tid <;> simp [usesChange, heldChange, here]
  | refreshPending r =>
    rw [booked_eq_zero _ rfl, holding_refreshPending tid c.state r
      fun stored found pending => sameTicket_of_refresh keeps found pending]
    simp [usesChange, heldChange]
  | markConsumed k now =>
    rw [holding_markConsumed, booked_eq_zero _ rfl]
    simp [usesChange, heldChange]
  | deleteAllBefore cut =>
    rw [holding_deleteAllBefore tid c.state cut unconsumed, booked_eq_zero _ rfl]
    simp [usesChange, heldChange]
  | _ =>
    rw [holding_of_reads tid c.state rfl rfl, booked_eq_zero _ rfl]
    simp [usesChange, heldChange]

theorem returned_step (perm : t.MayPerform stmt) (keeps : keepsBooks tid c stmt = true) :
    ((endedQuestion tid ⟨t, stmt, c.state⟩).toList.length : Int) =
      (if isReturn tid ⟨t, stmt, c.state⟩ then 1 else 0) + if t.settles then heldChange tid t
          ⟨stmt, (execute stmt c.state).1⟩ else 0 := by
  by_cases settles : t.settles = true
  · have settling := (t.mayPerform_of_settles settles stmt) ▸ perm
    cases stmt with
    | applyTransition r tr =>
      rw [heldChange_of_settle keeps, if_pos settles]
      simp [isReturn]
    | refundTicket refunded =>
      by_cases here : refunded = tid <;>
        simp [endedQuestion, movedRow, isReturn, settles, heldChange, here]
    | spendTicket spent | reopenUnanswered r => exact settling.elim
    | _ => simp [endedQuestion, movedRow, isReturn, heldChange]
  · have unmoved : movedRow tid ⟨t, stmt, c.state⟩ = none := by
      cases stmt with
      | applyTransition r tr =>
        cases t with
        | authenticate sid named | ask req => exact perm.elim
        | _ => exact absurd rfl settles
      | _ => rfl
    simp [endedQuestion, unmoved, isReturn, settles]

theorem credited_step
    (credited : ∀ sessionId, (insertions tid c.log).count sessionId ≤
      (authentications tid c.log).count sessionId)
    (keeps : keepsBooks tid c stmt = true) (sessionId : UserSessionId) :
    (insertions tid (⟨t, stmt, c.state⟩ :: c.log)).count sessionId ≤
      (authentications tid (⟨t, stmt, c.state⟩ :: c.log)).count sessionId := by
  have grows : (authentications tid c.log).count sessionId ≤
      (authentications tid (⟨t, stmt, c.state⟩ :: c.log)).count sessionId := by
    refine Sublist.count_le sessionId ?_
    exact (sublist_cons_self _ _).filterMap _
  refine Nat.le_trans ?_ grows
  rw [insertions, filterMap_cons]
  cases inserts : insertedSession tid ⟨t, stmt, c.state⟩ with
  | none => exact credited sessionId
  | some inserted =>
    cases stmt with
    | insertRequest r =>
      simp only [insertedSession] at inserts
      split at inserts
      · next free =>
        rw [some.injEq] at inserts
        subst inserts
        simp only [keepsBooks, free.1, free.2, forall_const, decide_eq_true_eq] at keeps
        by_cases same : sessionId = r.sessionId
        · rw [same, count_cons_self]
          exact keeps
        · rw [count_cons_of_ne (Ne.symm same)]
          exact credited sessionId
      · cases inserts
    | _ => cases inserts

theorem unconsumed_step
    (unconsumed : ∀ r ∈ c.state.requests.rows, r.holds tid = true → r.consumedAt = none)
    (perm : t.MayPerform stmt) (keeps : keepsBooks tid c stmt = true) :
    ∀ r ∈ (execute stmt c.state).2.requests.rows, r.holds tid = true → r.consumedAt = none := by
  intro r mem holds
  have found := find?_of_mem mem
  rw [find?_execute] at found
  have prev : ∀ old, c.state.requests.find? r.key = some old →
      old.holds tid = true → old.consumedAt = none :=
    fun old pre => unconsumed old (mem_of_find? pre)
  rcases write_cases found with
    same | ⟨asked, old, rfl, pre, pending, rfl⟩ | ⟨asked, old, rfl, pre, -, rfl⟩ |
    ⟨rfl, -, -⟩ | ⟨aimed, tr, old, rfl, pre, -, rfl⟩ |
    ⟨marked, now, old, rfl, pre, fresh, rfl⟩
  · exact prev r same holds
  · have sameKey := (key_of_isPendingAt old pending).symm
    have isPending : old.status = .pending := ((holds_iff _).mp holds).1
    have same := sameTicket_of_refresh keeps (sameKey ▸ pre) isPending
    refine prev old pre ((holds_iff old).mpr ⟨isPending, same.mp ?_⟩)
    exact ((holds_iff _).mp holds).2
  · rfl
  · cases t with
    | ask req =>
      have isAsked := perm
      rw [isAsked]
      rfl
    | _ => exact perm.elim
  · have settled := ((holds_iff _).mp holds).1
    rw [StatusTransition.status_write] at settled
    cases t with
    | authenticate sid named | ask req => exact perm.elim
    | _ => exact absurd settled perm
  · have sameKey : marked = (old.consume now).key := by
      simp only [isUnconsumedAt, decide_eq_true_eq] at fresh
      exact fresh.1.symm
    simp only [keepsBooks, sameKey, pre, all_some, Bool.not_eq_true'] at keeps
    exact absurd holds (Bool.eq_false_iff.mp keeps)

theorem usesChange_nonneg (nonneg : 0 ≤ uses) : 0 ≤ uses + stmt.usesChange tid uses := by
  cases stmt <;> grind [usesChange]

theorem countedEvent_step (cnt : db.usesLeft tid = some uses) :
    CountedEvent tid ⟨stmt, (execute stmt db).1⟩ := by
  cases stmt with
  | findTicket sought =>
    show CountedEvent tid ⟨.findTicket sought, db.tickets.find? sought⟩
    cases found : db.tickets.find? sought with
    | none => trivial
    | some ticket =>
      rintro rfl unlimited
      rw [Db.usesLeft, found, bind_some, unlimited] at cnt
      cases cnt
  | _ => trivial

end

/-! ### The balance over a run -/

section

variable {tid : Uuid}

theorem held_cons (t : Task) (ev : Event Statement Outcome) (hist : History Outcome) :
    held tid t (ev :: hist) = heldChange tid t ev + held tid t hist := by
  rw [held, map_cons, sum_cons, held]

theorem length_filterMap_cons {Row Found : Type} (find : Row → Option Found) (r : Row)
    (rows : List Row) :
    (filterMap find (r :: rows)).length =
      (find r).toList.length + (filterMap find rows).length := by
  grind

theorem Balanced.initial (db : Db) (cnt : db.usesLeft tid = some total)
    (nonneg : 0 ≤ total) (fresh : ∀ r ∈ db.requests.rows, r.ticketId ≠ some tid) :
    Balanced tid total (initial db) := by
  have unheld : ∀ r ∈ db.requests.rows, ¬ r.holds tid = true :=
    fun r mem holds => fresh r mem ((holds_iff r).mp holds).2
  have nothing : db.holding tid = 0 := countP_eq_zero.mpr unheld
  refine ⟨⟨total, cnt, nonneg, ?_⟩, fun _ => Nat.le_refl _, rfl, ?_, ?_⟩
  · show total + (db.holding tid : Int) + 0 + 0 + 0 = total
    rw [nothing]
    omega
  · exact fun r mem holds => absurd holds (unheld r mem)
  · intro th mem
    cases mem

theorem Balanced.start {c : State} (bal : Balanced tid total c) (t : Task) :
    Balanced tid total { c with threads := c.threads ++ [⟨t, [], t.program⟩] } := by
  obtain ⟨⟨uses, cnt, nonneg, balance⟩, credited, returned, unconsumed, honest⟩ := bal
  refine ⟨⟨uses, cnt, nonneg, ?_⟩, credited, ?_, unconsumed,
    forall_threads_start honest fun ev seen => by cases seen⟩
  · simpa [held] using balance
  · simpa [held] using returned

theorem Balanced.perform {db : Db} {t : Task} {pre post : List (Thread Task Statement Outcome Unit)}
    {hist : History Outcome}
    {next : stmt.Outcome → Query Unit} {log : List (Entry Task Statement Db)}
    (bal : Balanced tid total ⟨db, pre ++ ⟨t, hist, .perform stmt next⟩ :: post, log⟩)
    (perm : t.MayPerform stmt)
    (keeps : keepsBooks tid ⟨db, pre ++ ⟨t, hist, .perform stmt next⟩ :: post, log⟩ stmt = true) :
    Balanced tid total ⟨(execute stmt db).2, pre ++ ⟨t, ⟨stmt, (execute stmt db).1⟩ :: hist,
        next (execute stmt db).1⟩ :: post, ⟨t, stmt, db⟩ :: log⟩ := by
  obtain ⟨⟨uses, cnt, nonneg, balance⟩, credited, returned, unconsumed, honest⟩ := bal
  have moved := balance_step cnt unconsumed perm keeps
  have ended := returned_step perm keeps
  dsimp only at moved ended
  refine ⟨⟨_, usesLeft_execute stmt db cnt, ?_, ?_⟩, ?_, ?_, ?_, ?_⟩
  · exact usesChange_nonneg nonneg
  · simp only [map_append, map_cons, sum_append, sum_cons, held_cons,
      authentications, insertions, approvedQuestions, length_filterMap_cons] at balance ⊢
    rw [booked] at moved
    omega
  · exact credited_step credited keeps
  · have holds : (if t.settles then held tid t (⟨stmt, (execute stmt db).1⟩ :: hist) else 0) =
        (if t.settles then heldChange tid t ⟨stmt, (execute stmt db).1⟩
          else 0) + if t.settles then held tid t hist else 0 := by
      rw [held_cons]
      split <;> rfl
    simp only [map_append, map_cons, sum_append, sum_cons, endedQuestions,
      returns, length_filterMap_cons, countP_cons] at returned ⊢
    rw [holds, Int.natCast_add, ended, returned]
    split <;> omega
  · exact unconsumed_step unconsumed perm keeps
  · refine forall_threads_perform honest fun prev ev seen => ?_
    rcases mem_cons.mp seen with rfl | old
    · exact countedEvent_step cnt
    · exact prev ev old

theorem balanced_of_run (db : Db) (cnt : db.usesLeft tid = some total)
    (nonneg : 0 ≤ total) (fresh : ∀ r ∈ db.requests.rows, r.ticketId ≠ some tid)
    (ms : List (Move Task))
    (keeps : Along system (Performing system fun c _ stmt => keepsBooks tid c stmt)
      (initial db) ms) :
    ThreadsFollow (Task.Accounts tid) (fun t seen _ => Holds tid t 0 seen)
        ((initial db).run system ms) ∧ Balanced tid total ((initial db).run system ms) := by
  refine run_invariant_of_protocol Task.program_accounts _ (Balanced tid total)
    ?_ ?_ db ms keeps (Balanced.initial db cnt nonneg fresh)
  · exact fun c t _ bal => bal.start t
  · intro db pre t hist stmt next post log ok perf accounts bal
    exact bal.perform accounts.1 (ok.admits system perf)

variable {th : Thread Task Statement Statement.Outcome Unit}

theorem held_of_follows (follows : Balances tid th.task th.program th.history)
    (cnt : ∀ ev ∈ th.history, CountedEvent tid ev) :
    held tid th.task th.history = (th.program.head.map (Statement.holding tid)).getD 0 := by
  obtain ⟨t, hist, prog⟩ := th
  cases prog with
  | done res => exact follows cnt
  | perform stmt next => exact follows.1.2 cnt

theorem holding_nonneg (stmt : Statement) : 0 ≤ stmt.holding tid := by
  cases stmt <;> grind [Statement.holding]

theorem sum_held_eq_inFlight (threads : List (Thread Task Statement Outcome Unit))
    (follows : ∀ th ∈ threads, Balances tid th.task th.program th.history)
    (cnt : ∀ th ∈ threads, ∀ ev ∈ th.history, CountedEvent tid ev) :
    (threads.map fun th => held tid th.task th.history).sum = inFlight tid threads :=
  congrArg sum (map_congr_left fun th mem => held_of_follows (follows th mem) (cnt th mem))

theorem inFlight_nonneg (threads : List (Thread Task Statement Outcome Unit)) :
    0 ≤ inFlight tid threads := by
  refine sum_nonneg fun amount mem => ?_
  obtain ⟨th, -, rfl⟩ := mem_map.mp mem
  cases th.program.head with
  | none => exact Int.le_refl 0
  | some stmt => exact holding_nonneg stmt

theorem held_of_settles (settles : th.task.settles = true)
    (follows : Balances tid th.task th.program th.history)
    (cnt : ∀ ev ∈ th.history, CountedEvent tid ev) :
    held tid th.task th.history = if th.program.head = some (.refundTicket tid) then 1 else 0 := by
  rw [held_of_follows follows cnt]
  obtain ⟨t, hist, prog⟩ := th
  cases prog with
  | done res => rfl
  | perform stmt next =>
    have settling := (t.mayPerform_of_settles settles stmt) ▸ follows.1.1
    cases stmt with
    | refundTicket refunded => simp [Statement.holding]
    | reopenUnanswered r => exact settling.elim
    | _ => simp [Statement.holding]

theorem sum_held_eq_owed (threads : List (Thread Task Statement Outcome Unit))
    (follows : ∀ th ∈ threads, Balances tid th.task th.program th.history)
    (cnt : ∀ th ∈ threads, ∀ ev ∈ th.history, CountedEvent tid ev) :
    (threads.map fun th => if th.task.settles then held tid th.task th.history else 0).sum =
      (owed tid threads : Int) := by
  induction threads with
  | nil => rfl
  | cons th threads ih =>
    rw [map_cons, sum_cons, ih (fun other mem => follows other (.tail _ mem))
      (fun other mem => cnt other (.tail _ mem)), owed, owed, countP_cons]
    by_cases settles : th.task.settles = true
    · rw [if_pos settles, held_of_settles settles (follows th (.head _)) (cnt th (.head _))]
      by_cases refunding : th.program.head = some (.refundTicket tid) <;>
        simp [settles, refunding, Int.add_comm]
    · simp [settles]

/-- In every run in which every asking inserted on a ticket is covered by a login, live askings keep
the ticket they carry, and settles move the asking they read, a ticket with `total` uses approves at
most that many questions and never has less than no uses left: its uses are the ones left, those
pending askings hold, those in flight, those of logins that have not asked and those of approved
questions. It gets back exactly one use for each asking that ended unapproved: every such use has
been given back, or the settle that ended the asking is about to. -/
theorem counted_ticket_bounds_approvals (db : Db) (ticketId : Uuid) (total : Int)
    (counted : db.usesLeft ticketId = some total) (nonneg : 0 ≤ total)
    (fresh : ∀ row ∈ db.requests.rows, row.ticketId ≠ some ticketId) (moves : List (Move Task))
    (keeps : Config.Along system
      (Config.Performing system fun config _ statement => keepsBooks ticketId config statement)
      (Config.initial db) moves) :
    ((approvedQuestions ticketId ((Config.initial db).run system moves).log).dedup.length : Int) ≤
        total ∧
      (∃ uses, ((Config.initial db).run system moves).state.usesLeft ticketId = some uses ∧
        0 ≤ uses ∧ uses + ((Config.initial db).run system moves).state.holding ticketId +
          inFlight ticketId ((Config.initial db).run system moves).threads +
          ((authentications ticketId ((Config.initial db).run system moves).log).length -
            (insertions ticketId ((Config.initial db).run system moves).log).length) +
          (approvedQuestions ticketId ((Config.initial db).run system moves).log).length =
        total) ∧
      (endedQuestions ticketId ((Config.initial db).run system moves).log).length =
        returns ticketId ((Config.initial db).run system moves).log +
          owed ticketId ((Config.initial db).run system moves).threads := by
  obtain ⟨follows, bal⟩ := balanced_of_run db counted nonneg fresh moves keeps
  have covered := (subperm_ext_iff.mpr fun sid _ => bal.credited sid).length_le
  obtain ⟨⟨uses, left, usesNonneg, balance⟩, -, returned, -, honest⟩ := bal
  rw [sum_held_eq_inFlight _ follows honest] at balance
  refine ⟨?_, ⟨uses, left, usesNonneg, balance⟩, ?_⟩
  · have threadsNonneg : 0 ≤ inFlight ticketId ((initial db).run system moves).threads :=
      inFlight_nonneg _
    have distinct := (dedup_sublist
      (approvedQuestions ticketId ((initial db).run system moves).log)).length_le
    omega
  · rw [sum_held_eq_owed _ follows honest] at returned
    omega

end

def loggedInAndTimedOut : List (Move Task) :=
  [.start (.authenticate 1 5), .advance 0, .advance 0,
    .start (.ask (.ofAdmin 1 (some 5) 10)), .advance 1, .advance 1, .advance 1,
    .start (.close ⟨1, .admin, "db"⟩ .timedOut 15), .advance 2, .advance 2, .advance 2]

def askedAgainAndApproved : List (Move Task) :=
  [.start (.ask (.ofAdmin 1 (some 5) 20)), .advance 3, .advance 3, .advance 3, .advance 3,
    .advance 3,
    .start (.decide ⟨1, .admin, "db"⟩ (.approved .once) ⟨some "root", 9⟩ 25), .advance 4,
    .advance 4]

theorem counted_ticket_bounds_approvals_one_use :
    ((approvedQuestions 5 ((Config.initial (Db.unasked (oneTicket 5 1))).run system
        (loggedInAndTimedOut ++ askedAgainAndApproved)).log).dedup.length : Int) ≤ 1 ∧
      (endedQuestions 5 ((Config.initial (Db.unasked (oneTicket 5 1))).run system
        (loggedInAndTimedOut ++ askedAgainAndApproved)).log).length =
        returns 5 ((Config.initial (Db.unasked (oneTicket 5 1))).run system
          (loggedInAndTimedOut ++ askedAgainAndApproved)).log +
        owed 5 ((Config.initial (Db.unasked (oneTicket 5 1))).run system
          (loggedInAndTimedOut ++ askedAgainAndApproved)).threads :=
  have kept := counted_ticket_bounds_approvals (Db.unasked (oneTicket 5 1)) 5 1 (by decide)
    (by decide) (by decide) (loggedInAndTimedOut ++ askedAgainAndApproved) (by decide)
  ⟨kept.1, kept.2.2⟩

theorem counted_ticket_approves_twice :
    (Db.unasked (oneTicket 5 1)).usesLeft 5 = some 1 ∧
      (approvedQuestions 5 ((Config.initial (Db.unasked (oneTicket 5 1))).run system
        (loggedInAndTimedOut ++
          [.start (.prune 100), .advance 3,
            .start (.ask (.ofAdmin 1 (some 5) 200)), .advance 4, .advance 4, .advance 4,
            .start (.decide ⟨1, .admin, "db"⟩ (.approved .once) ⟨some "root", 9⟩ 210),
            .advance 5, .advance 5,
            .start (.authenticate 2 5), .advance 6, .advance 6,
            .start (.ask (.ofAdmin 2 (some 5) 220)), .advance 7, .advance 7, .advance 7,
            .start (.decide ⟨2, .admin, "db"⟩ (.approved .once) ⟨some "root", 9⟩ 230),
            .advance 8, .advance 8])).log).dedup =
        [⟨2, .admin, "db"⟩, ⟨1, .admin, "db"⟩] := by
  decide

end Warpgate.Approvals
