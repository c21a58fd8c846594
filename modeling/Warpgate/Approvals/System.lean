/-
This file models the rows the approvals live in, every statement sent to them as one atomic step,
and the programs that send them.
-/

import Warpgate.Auth.Credential
import Warpgate.Concurrent.Run
import Warpgate.Sql.Table

namespace Warpgate.Approvals

open Option hiding guard
open Sql.Table

section

/-! ### Rows -/

inductive ApprovalRequestStatus
  | pending
  | approved
  | rejected
  | timedOut
  | abandoned
  deriving DecidableEq, Repr

namespace ApprovalRequestStatus

def unanswered : List ApprovalRequestStatus := [.timedOut, .abandoned]

def decided : List ApprovalRequestStatus := [.approved, .rejected]

end ApprovalRequestStatus

inductive UndecidedApprovalRequestStatus
  | timedOut
  | abandoned
  deriving DecidableEq, Repr

def UndecidedApprovalRequestStatus.toStatus :
    UndecidedApprovalRequestStatus → ApprovalRequestStatus
  | .timedOut => .timedOut
  | .abandoned => .abandoned

structure Key where
  sessionId : UserSessionId
  kind : ApprovalKind
  target : String
  deriving DecidableEq, Repr

structure Request where
  sessionId : UserSessionId
  kind : ApprovalKind
  nodeId : NodeId
  protocol : String
  username : String
  userId : Uuid
  target : String
  remoteAddress : Option String
  identificationString : Option String
  matchDigest : Option String
  ticketId : Option Uuid
  started : OffsetDateTime
  status : ApprovalRequestStatus
  scope : Option ApprovalScope
  resolvedByUsername : Option String
  resolvedByUserId : Option Uuid
  resolvedAt : Option OffsetDateTime
  consumedAt : Option OffsetDateTime
  deriving DecidableEq, Repr

def Request.key (row : Request) : Key := ⟨row.sessionId, row.kind, row.target⟩

inductive RequestAsk
  | admin (ticketId : Option Uuid)
  | user (identificationString : String)
  deriving DecidableEq, Repr

namespace RequestAsk

def kind : RequestAsk → ApprovalKind
  | admin _ => .admin
  | user _ => .user

def ticketId : RequestAsk → Option Uuid
  | admin ticketId => ticketId
  | user _ => none

def identificationString : RequestAsk → Option String
  | admin _ => none
  | user identificationString => some identificationString

end RequestAsk

structure NewRequest where
  sessionId : UserSessionId
  target : String
  nodeId : NodeId
  protocol : String
  username : String
  userId : Uuid
  remoteAddress : Option String
  matchDigest : Option String
  started : OffsetDateTime
  about : RequestAsk
  deriving DecidableEq, Repr

def NewRequest.key (request : NewRequest) : Key :=
  ⟨request.sessionId, request.about.kind, request.target⟩

def NewRequest.toRow (request : NewRequest) : Request where
  sessionId := request.sessionId
  kind := request.about.kind
  nodeId := request.nodeId
  protocol := request.protocol
  username := request.username
  userId := request.userId
  target := request.target
  remoteAddress := request.remoteAddress
  identificationString := request.about.identificationString
  matchDigest := request.matchDigest
  ticketId := request.about.ticketId
  started := request.started
  status := .pending
  scope := none
  resolvedByUsername := none
  resolvedByUserId := none
  resolvedAt := none
  consumedAt := none

variable (req : NewRequest)

open ApprovalRequestStatus

@[simp] theorem NewRequest.key_toRow : req.toRow.key = req.key := rfl

def Request.refresh (row stored : Request) : Request :=
  { stored with
    nodeId := row.nodeId
    protocol := row.protocol
    username := row.username
    userId := row.userId
    remoteAddress := row.remoteAddress
    identificationString := row.identificationString
    matchDigest := row.matchDigest
    ticketId := row.ticketId }

def Request.reopen (row stored : Request) : Request :=
  { row.refresh stored with
    started := row.started
    status := .pending
    scope := none
    resolvedByUsername := none
    resolvedByUserId := none
    resolvedAt := none
    consumedAt := none }

@[simp] theorem Request.key_refresh (r stored : Request) :
    (r.refresh stored).key = stored.key := rfl

@[simp] theorem Request.key_reopen (r stored : Request) : (r.reopen stored).key = stored.key := rfl

structure ApprovalActor where
  username : Option String
  userId : Uuid
  deriving DecidableEq, Repr

structure StatusTransition where
  toStatus : ApprovalRequestStatus
  resolvedAt : OffsetDateTime
  decision : Option (Option ApprovalScope × ApprovalActor)
  deriving DecidableEq, Repr

def StatusTransition.fromPending (status : ApprovalRequestStatus) (now : OffsetDateTime) :
    StatusTransition where
  toStatus := status
  resolvedAt := now
  decision := none

def StatusTransition.write (transition : StatusTransition) (stored : Request) : Request :=
  match transition.decision with
  | none => { stored with status := transition.toStatus, resolvedAt := some transition.resolvedAt }
  | some (scope, resolvedBy) =>
    { stored with
      status := transition.toStatus
      resolvedAt := some transition.resolvedAt
      scope := scope
      resolvedByUsername := resolvedBy.username
      resolvedByUserId := some resolvedBy.userId }

variable (tr : StatusTransition) (stored : Request)

@[simp] theorem StatusTransition.key_write : (tr.write stored).key = stored.key := by
  unfold write
  split <;> rfl

@[simp] theorem StatusTransition.status_write : (tr.write stored).status = tr.toStatus := by
  unfold write
  split <;> rfl

@[simp] theorem StatusTransition.userId_write : (tr.write stored).userId = stored.userId := by
  unfold write
  split <;> rfl

@[simp] theorem StatusTransition.username_write : (tr.write stored).username = stored.username := by
  unfold write
  split <;> rfl

theorem Request.not_pending_of_decided {r : Request}
    (decided : r.status ∈ decided) : r.status ≠ .pending := by
  intro pending
  rw [pending] at decided
  exact absurd decided (by decide)

theorem Request.not_unanswered_of_decided {r : Request} (decided : r.status ∈ decided) :
    r.status ∉ unanswered := by
  simp only [ApprovalRequestStatus.decided, List.mem_cons, List.not_mem_nil, or_false] at decided
  rcases decided with approved | rejected
  · rw [approved]
    decide
  · rw [rejected]
    decide

def Request.pinned (row stored : Request) : Bool :=
  stored.key = row.key ∧ stored.started = row.started ∧ stored.status = .pending

end

structure Ticket where
  id : Uuid
  userId : Uuid
  usesLeft : Option Int
  expiry : Option OffsetDateTime
  deriving DecidableEq, Repr

structure Parameters where
  webApprovalGracePeriodSeconds : Option Int
  adminApprovalGracePeriodSeconds : Option Int
  adminApprovalTimeoutSeconds : Option Int
  deriving DecidableEq, Repr

structure Db where
  tickets : Sql.Table Ticket Ticket.id
  requests : Sql.Table Request Request.key
  parameters : Parameters

def Db.usesLeft (db : Db) (ticketId : Uuid) : Option Int :=
  (db.tickets.find? ticketId).bind (·.usesLeft)

/-! ### Statements -/

inductive Statement
  | findTicket (ticketId : Uuid)
  | spendTicket (ticketId : Uuid)
  | refundTicket (ticketId : Uuid)
  | refreshPending (row : Request)
  | findUnanswered (key : Key)
  | reopenUnanswered (row : Request)
  | insertRequest (row : Request)
  | findRow (key : Key)
  | findPending (key : Key)
  | applyTransition (row : Request) (transition : StatusTransition)
  | markConsumed (key : Key) (now : OffsetDateTime)
  | pendingOfSession (sessionId : UserSessionId)
  | pendingBefore (cutoff : OffsetDateTime)
  | deleteAllBefore (cutoff : OffsetDateTime)
  | approvedSince (kind : ApprovalKind) (cutoff : OffsetDateTime) (target : String)
  | pendingUserApprovals (sessionId : UserSessionId)
  | undeliveredUserApprovals (nodeId : NodeId) (sessionId : Option UserSessionId)
  | getParameters
  deriving DecidableEq

@[reducible] def Statement.Outcome : Statement → Type
  | findTicket _ => Option Ticket
  | spendTicket _ => Nat
  | refundTicket _ => Unit
  | refreshPending _ => Bool
  | findUnanswered _ => Option Request
  | reopenUnanswered _ => Bool
  | insertRequest _ => Bool
  | findRow _ => Option Request
  | findPending _ => Option Request
  | applyTransition _ _ => Nat
  | markConsumed _ _ => Unit
  | pendingOfSession _ => List Request
  | pendingBefore _ => List Request
  | deleteAllBefore _ => Unit
  | approvedSince _ _ _ => List Request
  | pendingUserApprovals _ => List Request
  | undeliveredUserApprovals _ _ => List Request
  | getParameters => Parameters

variable (ticketId : Uuid)

def Ticket.canSpend (ticket : Ticket) : Bool :=
  ticket.id = ticketId ∧ ticket.usesLeft.any (0 < ·)

def Ticket.isCounted (ticket : Ticket) : Bool :=
  ticket.id = ticketId ∧ ticket.usesLeft.isSome

def Request.isPendingAt (key : Key) (stored : Request) : Bool :=
  stored.key = key ∧ stored.status = .pending

def Request.isUnansweredAt (key : Key) (stored : Request) : Bool :=
  stored.key = key ∧ stored.status ∈ ApprovalRequestStatus.unanswered

def Request.isUnconsumedAt (key : Key) (stored : Request) : Bool :=
  stored.key = key ∧ stored.consumedAt = none

def Request.isInactiveBefore (cutoff : OffsetDateTime) (stored : Request) : Bool :=
  stored.started < cutoff ∧
    (stored.status ∈ ApprovalRequestStatus.unanswered ∨ stored.consumedAt.isSome)

def Request.isRememberedFor (kind : ApprovalKind) (cutoff : OffsetDateTime) (target : String)
    (stored : Request) : Bool :=
  stored.kind = kind ∧ stored.status = .approved ∧
    stored.resolvedAt.any (cutoff ≤ ·) ∧
    ((stored.scope = some .target ∧ stored.target = target) ∨ stored.scope = some .allTargets)

variable (sessionId : UserSessionId)

def Request.isPendingUserOf (stored : Request) : Bool :=
  stored.sessionId = sessionId ∧ stored.kind = .user ∧ stored.status = .pending

def Request.isUndeliveredFor (nodeId : NodeId) (sessionId : Option UserSessionId)
    (stored : Request) : Bool :=
  stored.kind = .user ∧ stored.status ∈ ApprovalRequestStatus.decided ∧
    stored.consumedAt = none ∧ stored.nodeId = nodeId ∧ sessionId.all (stored.sessionId = ·)

def Ticket.changeUses (change : Int → Int) (ticket : Ticket) : Ticket :=
  { ticket with usesLeft := ticket.usesLeft.map change }

open Statement

@[simp] theorem Ticket.id_changeUses (change : Int → Int) (ticket : Ticket) :
    (ticket.changeUses change).id = ticket.id := rfl

variable (now : OffsetDateTime)

def Request.consume (stored : Request) : Request :=
  { stored with consumedAt := some now }

@[simp] theorem Request.key_consume (stored : Request) :
    (stored.consume now).key = stored.key := rfl

def execute : (statement : Statement) → Db → statement.Outcome × Db
  | .findTicket ticketId, db => (db.tickets.find? ticketId, db)
  | .spendTicket ticketId, db =>
    let spent := db.tickets.update (Ticket.canSpend ticketId) (Ticket.changeUses (· - 1))
      (Ticket.id_changeUses _)
    (db.tickets.matching (Ticket.canSpend ticketId), { db with tickets := spent })
  | .refundTicket ticketId, db =>
    let refunded := db.tickets.update (Ticket.isCounted ticketId) (Ticket.changeUses (· + 1))
      (Ticket.id_changeUses _)
    ((), { db with tickets := refunded })
  | .refreshPending row, db =>
    let refreshed := db.requests.update (Request.isPendingAt row.key) row.refresh row.key_refresh
    (0 < db.requests.matching (Request.isPendingAt row.key), { db with requests := refreshed })
  | .findUnanswered key, db => ((db.requests.select (Request.isUnansweredAt key)).head?, db)
  | .reopenUnanswered row, db =>
    let reopened := db.requests.update (Request.isUnansweredAt row.key) row.reopen row.key_reopen
    (0 < db.requests.matching (Request.isUnansweredAt row.key), { db with requests := reopened })
  | .insertRequest row, db =>
    ((db.requests.insert row).1, { db with requests := (db.requests.insert row).2 })
  | .findRow key, db => (db.requests.find? key, db)
  | .findPending key, db => ((db.requests.select (Request.isPendingAt key)).head?, db)
  | .applyTransition row transition, db =>
    let moved := db.requests.update row.pinned transition.write transition.key_write
    (db.requests.matching row.pinned, { db with requests := moved })
  | .markConsumed key now, db =>
    let consumed := db.requests.update (Request.isUnconsumedAt key) (Request.consume now)
      (Request.key_consume now)
    ((), { db with requests := consumed })
  | .pendingOfSession sessionId, db =>
    (db.requests.select fun stored => stored.sessionId = sessionId ∧ stored.status = .pending, db)
  | .pendingBefore cutoff, db =>
    (db.requests.select fun stored => stored.started < cutoff ∧ stored.status = .pending, db)
  | .deleteAllBefore cutoff, db =>
    ((), { db with requests := db.requests.delete (Request.isInactiveBefore cutoff) })
  | .approvedSince kind cutoff target, db =>
    (db.requests.select (Request.isRememberedFor kind cutoff target), db)
  | .pendingUserApprovals sessionId, db =>
    (db.requests.select (Request.isPendingUserOf sessionId), db)
  | .undeliveredUserApprovals nodeId sessionId, db =>
    (db.requests.select (Request.isUndeliveredFor nodeId sessionId), db)
  | .getParameters, db => (db.parameters, db)

def Statement.write (key : Key) : Statement → Option Request → Option Request
  | refreshPending row, stored =>
    stored.map fun stored => if stored.isPendingAt row.key then row.refresh stored else stored
  | reopenUnanswered row, stored =>
    stored.map fun stored => if stored.isUnansweredAt row.key then row.reopen stored else stored
  | insertRequest row, stored => if row.key = key then some (stored.getD row) else stored
  | applyTransition row transition, stored =>
    stored.map fun stored => if row.pinned stored then transition.write stored else stored
  | markConsumed marked now, stored =>
    stored.map fun stored =>
      if stored.isUnconsumedAt marked then stored.consume now else stored
  | deleteAllBefore cutoff, stored => stored.filter fun stored => !stored.isInactiveBefore cutoff
  | _, stored => stored

theorem find?_execute (stmt : Statement) (db : Db) (k : Key) :
    (execute stmt db).2.requests.find? k = stmt.write k (db.requests.find? k) := by
  cases stmt with
  | insertRequest r => exact find?_insert db.requests r k
  | _ => simp [execute, write]

variable {r : Request} {k : Key}

theorem write_cases {stmt : Statement} {stored : Option Request}
    (written : stmt.write k stored = some r) :
    stored = some r ∨
      (∃ asked old, stmt = .refreshPending asked ∧ stored = some old ∧
        old.isPendingAt asked.key = true ∧ r = asked.refresh old) ∨
      (∃ asked old, stmt = .reopenUnanswered asked ∧ stored = some old ∧
        old.isUnansweredAt asked.key = true ∧ r = asked.reopen old) ∨
      (stmt = .insertRequest r ∧ stored = none ∧ r.key = k) ∨
      (∃ aimed tr old, stmt = .applyTransition aimed tr ∧
        stored = some old ∧ aimed.pinned old = true ∧ r = tr.write old) ∨
      ∃ marked now old, stmt = .markConsumed marked now ∧ stored = some old ∧
        old.isUnconsumedAt marked = true ∧ r = old.consume now := by
  cases stored with
  | none =>
    cases stmt with
    | insertRequest asked => grind [write]
    | _ => cases written
  | some old =>
    cases stmt with
    | refreshPending asked => grind [write]
    | reopenUnanswered asked => grind [write]
    | insertRequest asked => grind [write]
    | applyTransition aimed tr => grind [write]
    | markConsumed marked now => grind [write]
    | deleteAllBefore cut => grind [write]
    | _ => exact .inl written

theorem Request.key_of_isPendingAt (stored : Request)
    (matched : stored.isPendingAt k = true) : stored.key = k := by
  simp only [isPendingAt, Bool.decide_and, Bool.and_eq_true, decide_eq_true_eq] at matched
  exact matched.1

theorem Request.pending_of_isPendingAt (stored : Request)
    (matched : stored.isPendingAt k = true) : stored.status = .pending := by
  simp only [isPendingAt, Bool.decide_and, Bool.and_eq_true, decide_eq_true_eq] at matched
  exact matched.2

theorem Request.key_of_isUnansweredAt (stored : Request)
    (matched : stored.isUnansweredAt k = true) : stored.key = k := by
  simp only [isUnansweredAt, Bool.decide_and, Bool.and_eq_true, decide_eq_true_eq] at matched
  exact matched.1

theorem Request.pinned_iff (r stored : Request) :
    r.pinned stored = true ↔
      stored.key = r.key ∧ stored.started = r.started ∧ stored.status = .pending := by
  simp [pinned]

theorem findPending_eq_some_iff (db : Db) (k : Key) (r : Request) :
    (execute (.findPending k) db).1 = some r ↔
      db.requests.find? k = some r ∧ r.status = .pending := by
  have selected := db.requests.select_of_key (Request.isPendingAt k) k Request.key_of_isPendingAt
  simp only [execute, selected]
  cases found : db.requests.find? k with
  | none => simp
  | some stored =>
    have atKey := key_of_find? found
    by_cases pending : stored.status = .pending
    · simp only [filter_some, Request.isPendingAt, atKey, pending]
      simp only [and_self, decide_true, if_true, toList_some, List.head?_cons, some.injEq]
      exact ⟨fun same => ⟨same, same ▸ pending⟩, fun both => both.1⟩
    · simp only [filter_some, Request.isPendingAt, atKey, pending]
      simp only [and_false, decide_false, Bool.false_eq_true, if_false, toList_none,
        List.head?_nil, some.injEq, reduceCtorEq, false_iff, not_and]
      exact fun same => same ▸ pending

theorem applyTransition_pos_iff (db : Db) (r : Request) (tr : StatusTransition) :
    0 < (execute (.applyTransition r tr) db).1 ↔
      ∃ stored, db.requests.find? r.key = some stored ∧ stored.started = r.started ∧
        stored.status = .pending := by
  have ms := db.requests.matching_pos_iff r.pinned r.key
    fun stored pinned => ((r.pinned_iff stored).mp pinned).1
  simp only [execute, ms, Request.pinned_iff]
  refine exists_congr fun stored => and_congr_right fun found => ?_
  simp [key_of_find? found]

theorem execute_applyTransition_of_not_pinned (db : Db) (r : Request) (tr : StatusTransition)
    (elsewhere : ∀ stored, db.requests.find? r.key = some stored →
      stored.started ≠ r.started ∨ stored.status ≠ .pending) :
    execute (.applyTransition r tr) db = ((0 : Nat), db) := by
  have none_moved : db.requests.matching r.pinned = 0 := by
    refine Nat.eq_zero_of_not_pos fun moved => ?_
    obtain ⟨stored, found, same, pending⟩ := (applyTransition_pos_iff db r tr).mp moved
    rcases elsewhere stored found with other | settled
    · exact other same
    · exact settled pending
  simp only [execute, none_moved, update_of_matching_zero _ _ _ tr.key_write none_moved]

open Concurrent Program
open Auth (Primitives WebApprovalMatchKey)

abbrev Query (Result : Type) := Program Statement Statement.Outcome Result

abbrev query (statement : Statement) : Query statement.Outcome := Program.single statement

/-! ### Programs -/

inductive SpendOutcome
  | spent
  | invalidTicket
  deriving DecidableEq, Repr

def spendUse : Query SpendOutcome := do
  match ← query (.findTicket ticketId) with
  | none => pure .invalidTicket
  | some ticket =>
    if ticket.usesLeft.isNone then
      pure .spent
    else
      let rowsAffected ← query (.spendTicket ticketId)
      if rowsAffected = 0 then pure .invalidTicket else pure .spent

def refundUse : Query Unit :=
  query (.refundTicket ticketId)

def refundTicketOf : Option Uuid → Query Unit
  | some ticketId => refundUse ticketId
  | none => pure ()

variable (row : Request)

def tryRefreshPending : Query Bool :=
  query (.refreshPending row)

inductive Reopened
  | reopened
  | notUnanswered
  | ticketExhausted
  deriving DecidableEq, Repr

def reopenOrRefund (ticketId : Option Uuid) (row : Request) : Query Reopened := do
  if ← query (.reopenUnanswered row) then
    pure .reopened
  else
    refundTicketOf ticketId
    pure .notUnanswered

def tryReopenUnanswered (key : Key) (ticketId : Option Uuid) (row : Request) :
    Query Reopened := do
  match ticketId with
  | none => reopenOrRefund none row
  | some ticket =>
    match ← query (.findUnanswered key) with
    | none => pure .notUnanswered
    | some _ =>
      match ← spendUse ticket with
      | .invalidTicket => pure .ticketExhausted
      | .spent => reopenOrRefund (some ticket) row

inductive Advertised
  | asked
  | alreadyAdvertised
  | ticketExhausted
  deriving DecidableEq, Repr

def upsertRaced (request : NewRequest) : Query Advertised := do
  if ← tryRefreshPending request.toRow then
    pure .alreadyAdvertised
  else
    match ← tryReopenUnanswered request.key request.about.ticketId request.toRow with
    | .reopened => pure .asked
    | .ticketExhausted => pure .ticketExhausted
    | .notUnanswered => pure .alreadyAdvertised

def upsertRequest (request : NewRequest) : Query Advertised := do
  if ← tryRefreshPending request.toRow then
    pure .alreadyAdvertised
  else
    match ← tryReopenUnanswered request.key request.about.ticketId request.toRow with
    | .reopened => pure .asked
    | .ticketExhausted =>
      if ← tryRefreshPending request.toRow then
        -- the other requester has already spent a use, so it is fine
        pure .alreadyAdvertised
      else
        pure .ticketExhausted
    | .notUnanswered =>
      if ← query (.insertRequest request.toRow) then
        pure .asked
      else
        upsertRaced request

def refundUnapproved (transition : StatusTransition) (moved : Nat) : Query Bool := do
  if 0 < moved ∧ transition.toStatus ≠ .approved then
    refundTicketOf row.ticketId
  pure (0 < moved)

def settleRequestInternal (transition : StatusTransition) : Query Bool := do
  refundUnapproved row transition (← query (.applyTransition row transition))

def closeRequest (kind : ApprovalKind) (target : String)
    (status : UndecidedApprovalRequestStatus) (now : OffsetDateTime) : Query Bool := do
  match ← query (.findPending ⟨sessionId, kind, target⟩) with
  | none => pure false
  | some row => settleRequestInternal row (.fromPending status.toStatus now)

def settleRequest (status : ApprovalRequestStatus) (scope : Option ApprovalScope)
    (resolvedBy : ApprovalActor) (now : OffsetDateTime) : Query Bool :=
  settleRequestInternal row
    { StatusTransition.fromPending status now with decision := some (scope, resolvedBy) }

inductive ApprovalDecision
  | approved (scope : ApprovalScope)
  | rejected
  deriving DecidableEq, Repr

def ApprovalDecision.status : ApprovalDecision → ApprovalRequestStatus
  | approved _ => .approved
  | rejected => .rejected

theorem ApprovalDecision.status_ne_pending (dec : ApprovalDecision) : dec.status ≠ .pending := by
  cases dec <;> exact ApprovalRequestStatus.noConfusion

def ApprovalDecision.scope : ApprovalDecision → Option ApprovalScope
  | approved scope => some scope
  | rejected => none

def recordDecision (kind : ApprovalKind) (target : String)
    (decision : ApprovalDecision) (actor : ApprovalActor) (now : OffsetDateTime) :
    Query Bool := do
  match (← query (.findRow ⟨sessionId, kind, target⟩)).filter (·.status = .pending) with
  | none => pure false
  | some row => settleRequest row decision.status decision.scope actor now

def markConsumed (key : Key) (now : OffsetDateTime) : Query Unit :=
  query (.markConsumed key now)

def abandonEach (now : OffsetDateTime) : List Request → Query Unit
  | [] => pure ()
  | row :: rows => do
    let _ ← settleRequestInternal row (.fromPending .abandoned now)
    abandonEach now rows

def abandonRequestsForSession : Query Unit := do
  abandonEach now (← query (.pendingOfSession sessionId))

def abandonAllRequestedBefore (cutoff now : OffsetDateTime) : Query Unit := do
  abandonEach now (← query (.pendingBefore cutoff))

def deleteAllBefore (cutoff : OffsetDateTime) : Query Unit :=
  query (.deleteAllBefore cutoff)

/-! ### What the programs perform -/

section

variable {requires : History Statement.Outcome → Statement → Prop}
  {hist : History Statement.Outcome}

theorem settleRequestInternal_follows {ensures : History Outcome → Bool → Prop}
    (r : Request) (tr : StatusTransition) (settles : requires hist (.applyTransition r tr))
    (lost : ensures (⟨.applyTransition r tr, (0 : Nat)⟩ :: hist) false)
    (kept : ∀ moved, 0 < moved → tr.toStatus = .approved ∨ r.ticketId = none →
      ensures (⟨.applyTransition r tr, moved⟩ :: hist) true)
    (refunds : ∀ moved tid, 0 < moved → tr.toStatus ≠ .approved → r.ticketId = some tid →
      requires (⟨.applyTransition r tr, moved⟩ :: hist) (.refundTicket tid) ∧
        ensures (⟨.refundTicket tid, ()⟩ :: ⟨.applyTransition r tr, moved⟩ :: hist) true) :
    (settleRequestInternal r tr).Follows requires ensures hist := by
  simp only [settleRequestInternal, query, single_bind, follows_perform]
  refine ⟨settles, fun moved => ?_⟩
  unfold refundUnapproved
  rcases Nat.eq_zero_or_pos moved with rfl | positive
  · simpa using lost
  · by_cases approved : tr.toStatus = .approved
    · simpa [approved, positive] using kept moved positive (.inl approved)
    · simp only [positive, approved, ne_eq, not_false_eq_true, and_self, if_true, decide_true]
      cases carried : r.ticketId with
      | none => exact kept moved positive (.inr carried)
      | some tid =>
        obtain ⟨ok, ended⟩ := refunds moved tid positive approved carried
        exact ⟨ok, fun _ => ended⟩

theorem spendUse_follows {ensures : History Outcome → SpendOutcome → Prop}
    (tid : Uuid) (finds : requires hist (.findTicket tid))
    (gone : ensures (⟨.findTicket tid, none⟩ :: hist) .invalidTicket)
    (unlimited : ∀ ticket : Ticket, ticket.usesLeft = none →
      ensures (⟨.findTicket tid, some ticket⟩ :: hist) .spent)
    (spends : ∀ ticket : Ticket, ticket.usesLeft ≠ none →
      requires (⟨.findTicket tid, some ticket⟩ :: hist) (.spendTicket tid) ∧
      ensures (⟨.spendTicket tid, (0 : Nat)⟩ :: ⟨.findTicket tid, some ticket⟩ ::
        hist) .invalidTicket ∧ ∀ spent, 0 < spent → ensures (⟨.spendTicket tid, spent⟩ ::
        ⟨.findTicket tid, some ticket⟩ :: hist) .spent) :
    (spendUse tid).Follows requires ensures hist := by
  simp only [spendUse, query, single_bind, follows_perform]
  refine ⟨finds, fun found => ?_⟩
  cases found with
  | none => exact gone
  | some ticket =>
    by_cases cnt : ticket.usesLeft = none
    · simpa [cnt] using unlimited ticket cnt
    · obtain ⟨ok, exhausted, spent⟩ := spends ticket cnt
      simp only [isNone_iff_eq_none, cnt, if_false, follows_perform]
      refine ⟨ok, fun affected => ?_⟩
      rcases Nat.eq_zero_or_pos affected with rfl | positive
      · simpa using exhausted
      · simpa [Nat.pos_iff_ne_zero.mp positive] using spent affected positive

end

section Performs

variable {ok : Statement → Prop}

theorem spendUse_performs (tid : Uuid) (finds : ok (.findTicket tid))
    (spends : ok (.spendTicket tid)) : (spendUse tid).Performs ok := by
  simp only [spendUse, query, single_bind, performs_perform]
  refine ⟨finds, fun found => ?_⟩
  cases found with
  | none => trivial
  | some ticket =>
    by_cases unlimited : ticket.usesLeft.isNone = true
    · simp only [unlimited, if_true]
      trivial
    · simp only [unlimited, Bool.false_eq_true, if_false, performs_perform]
      refine ⟨spends, fun affected => ?_⟩
      split <;> trivial

theorem refundTicketOf_performs (tid : Option Uuid)
    (refunds : ∀ ticket, ok (.refundTicket ticket)) : (refundTicketOf tid).Performs ok := by
  cases tid with
  | none => trivial
  | some ticket => exact ⟨refunds ticket, fun _ => trivial⟩

theorem tryReopenUnanswered_performs (k : Key) (tid : Option Uuid) (r : Request)
    (reopens : ok (.reopenUnanswered r)) (finds : ok (.findUnanswered k))
    (findsTicket : ∀ ticket, ok (.findTicket ticket)) (spends : ∀ ticket, ok (.spendTicket ticket))
    (refunds : ∀ ticket, ok (.refundTicket ticket)) :
    (tryReopenUnanswered k tid r).Performs ok := by
  have reopensOrRefunds : ∀ paid, (reopenOrRefund paid r).Performs ok := by
    refine fun paid => ⟨reopens, fun reopened => ?_⟩
    cases reopened with
    | true => trivial
    | false => exact (refundTicketOf_performs paid refunds).bind fun _ => trivial
  cases tid with
  | none => exact reopensOrRefunds none
  | some ticket =>
    refine ⟨finds, fun found => ?_⟩
    cases found with
    | none => trivial
    | some stored =>
      refine (spendUse_performs ticket (findsTicket ticket) (spends ticket)).bind fun out => ?_
      cases out with
      | spent => exact reopensOrRefunds (some ticket)
      | invalidTicket => trivial

theorem upsertRequest_performs (req : NewRequest) (refreshes : ok (.refreshPending req.toRow))
    (reopens : ok (.reopenUnanswered req.toRow)) (inserts : ok (.insertRequest req.toRow))
    (finds : ok (.findUnanswered req.key)) (findsTicket : ∀ ticket, ok (.findTicket ticket))
    (spends : ∀ ticket, ok (.spendTicket ticket)) (refunds : ∀ ticket, ok (.refundTicket ticket)) :
    (upsertRequest req).Performs ok := by
  have tries := tryReopenUnanswered_performs req.key req.about.ticketId req.toRow
    reopens finds findsTicket spends refunds
  have raced : (upsertRaced req).Performs ok := by
    refine ⟨refreshes, fun refreshed => ?_⟩
    cases refreshed with
    | true => trivial
    | false =>
      refine tries.bind fun out => ?_
      cases out <;> trivial
  refine ⟨refreshes, fun refreshed => ?_⟩
  cases refreshed with
  | true => trivial
  | false =>
    refine tries.bind fun out => ?_
    cases out with
    | reopened => trivial
    | ticketExhausted =>
      refine ⟨refreshes, fun refreshed => ?_⟩
      cases refreshed <;> trivial
    | notUnanswered =>
      refine ⟨inserts, fun inserted => ?_⟩
      cases inserted with
      | true => trivial
      | false => exact raced

theorem refundUnapproved_performs (r : Request) (tr : StatusTransition) (moved : Nat)
    (refunds : ∀ ticket, ok (.refundTicket ticket)) :
    (refundUnapproved r tr moved).Performs ok := by
  unfold refundUnapproved
  split
  · exact (refundTicketOf_performs r.ticketId refunds).bind fun _ => trivial
  · trivial

theorem settleRequestInternal_performs (r : Request) (tr : StatusTransition)
    (settles : ok (.applyTransition r tr)) (refunds : ∀ ticket, ok (.refundTicket ticket)) :
    (settleRequestInternal r tr).Performs ok :=
  ⟨settles, fun moved => refundUnapproved_performs r tr moved refunds⟩

variable (sid : UserSessionId) (kind : ApprovalKind)

theorem closeRequest_performs (target : String) (status : UndecidedApprovalRequestStatus)
    (now : OffsetDateTime) (finds : ok (.findPending ⟨sid, kind, target⟩))
    (closes : ∀ r, ok (.applyTransition r (.fromPending status.toStatus now)))
    (refunds : ∀ ticket, ok (.refundTicket ticket)) :
    (closeRequest sid kind target status now).Performs ok := by
  refine ⟨finds, fun found => ?_⟩
  cases found with
  | none => trivial
  | some r => exact settleRequestInternal_performs r _ (closes r) refunds

theorem recordDecision_performs (target : String) (dec : ApprovalDecision)
    (actor : ApprovalActor) (now : OffsetDateTime) (finds : ok (.findRow ⟨sid, kind, target⟩))
    (settles : ∀ r tr, ok (.applyTransition r tr)) (refunds : ∀ ticket, ok (.refundTicket ticket)) :
    (recordDecision sid kind target dec actor now).Performs ok := by
  simp only [recordDecision, query, single_bind, performs_perform]
  refine ⟨finds, fun found => ?_⟩
  split
  · trivial
  · exact settleRequestInternal_performs _ _ (settles _ _) refunds

theorem abandonEach_performs (now : OffsetDateTime) (rows : List Request)
    (closes : ∀ r, ok (.applyTransition r (.fromPending .abandoned now)))
    (refunds : ∀ ticket, ok (.refundTicket ticket)) : (abandonEach now rows).Performs ok := by
  induction rows with
  | nil => trivial
  | cons r rows ih =>
    exact (settleRequestInternal_performs r _ (closes r) refunds).bind fun _ => ih

end Performs

/-! ### Approvals that are remembered -/

inductive RowState
  | pending
  | decided (decision : ApprovalDecision)
  | ended
  deriving DecidableEq, Repr

def rowState : RowState :=
  match row.status with
  | .pending => .pending
  | .timedOut | .abandoned => .ended
  | .rejected => .decided .rejected
  | .approved => .decided (.approved (row.scope.getD .once))

theorem status_of_rowState_approved {scope : ApprovalScope}
    (approved : rowState r = .decided (.approved scope)) : r.status = .approved := by
  unfold rowState at approved
  cases status : r.status with
  | approved => rfl
  | _ => simp [status] at approved

def nanosecondsPerSecond : Nat := 1000000000

def secondsToDuration (seconds : Int) : Option Duration :=
  if 0 ≤ seconds then some (seconds.toNat * nanosecondsPerSecond) else none

def webApprovalGracePeriod : Query (Option Duration) := do
  let parameters ← query .getParameters
  pure (parameters.webApprovalGracePeriodSeconds.bind secondsToDuration)

def adminApprovalGracePeriod : Query (Option Duration) := do
  let parameters ← query .getParameters
  pure (parameters.adminApprovalGracePeriodSeconds.bind secondsToDuration)

def authStateTimeout : Duration := 600 * nanosecondsPerSecond

def adminApprovalTimeout : Query Duration := do
  let parameters ← query .getParameters
  pure ((parameters.adminApprovalTimeoutSeconds.bind secondsToDuration).getD authStateTimeout)

def Request.covers (primitives : Primitives) (key : WebApprovalMatchKey) (cutoff : OffsetDateTime)
    (row : Request) : Prop :=
  row.kind = key.identity.kind ∧ row.status = .approved ∧
    (∃ resolvedAt, row.resolvedAt = some resolvedAt ∧ cutoff ≤ resolvedAt) ∧
    (row.scope = some .target ∧ row.target = key.askedTarget ∨ row.scope = some .allTargets) ∧
    row.matchDigest = some (key.identity.digest primitives)

def approvalIsRemembered (primitives : Primitives) (key : WebApprovalMatchKey) (grace : Duration)
    (now : OffsetDateTime) : Query Bool := do
  let rows ← query (.approvedSince key.identity.kind (now - grace) key.askedTarget)
  pure (rows.any fun row => row.matchDigest = some (key.identity.digest primitives))

theorem covers_of_approvedSince {P : Primitives} {k : WebApprovalMatchKey}
    {cut : OffsetDateTime} {db : Db}
    (found : ((execute (.approvedSince k.identity.kind cut k.askedTarget) db).1.any
      fun r => r.matchDigest = some (k.identity.digest P)) = true) :
    ∃ r ∈ db.requests.rows, r.covers P k cut := by
  obtain ⟨r, selected, sameDigest⟩ := List.any_eq_true.mp found
  obtain ⟨mem, matched⟩ := (db.requests.mem_select _ r).mp selected
  simp only [Request.isRememberedFor, decide_eq_true_eq] at matched sameDigest
  obtain ⟨sameKind, approved, recent, inScope⟩ := matched
  refine ⟨r, mem, sameKind, approved, ?_, inScope, sameDigest⟩
  cases resolvedAt : r.resolvedAt with
  | none => simp [resolvedAt] at recent
  | some mom => exact ⟨mom, rfl, by simpa [resolvedAt] using recent⟩

open Request Statement ApprovalRequestStatus

structure PendingApproval where
  sessionId : UserSessionId
  target : String
  closeAs : Option UndecidedApprovalRequestStatus
  deriving DecidableEq, Repr

def PendingApproval.key (guard : PendingApproval) : Key := ⟨guard.sessionId, .admin, guard.target⟩

def PendingApproval.drop (guard : PendingApproval) (now : OffsetDateTime) : Query Unit :=
  match guard.closeAs with
  | some status => do
    let _ ← closeRequest guard.sessionId .admin guard.target status now
    pure ()
  | none => markConsumed guard.key now

/-! ### The system -/

inductive Task
  | authenticate (sessionId : UserSessionId) (ticketId : Uuid)
  | ask (request : NewRequest)
  | decide (key : Key) (decision : ApprovalDecision) (actor : ApprovalActor)
      (now : OffsetDateTime)
  | close (key : Key) (status : UndecidedApprovalRequestStatus) (now : OffsetDateTime)
  | endGate (guard : PendingApproval) (guarded now : OffsetDateTime)
  | consume (key : Key) (now : OffsetDateTime)
  | abandonSession (sessionId : UserSessionId) (now : OffsetDateTime)
  | abandonBefore (cutoff now : OffsetDateTime)
  | prune (cutoff : OffsetDateTime)
  deriving DecidableEq

def Task.program : Task → Query Unit
  | authenticate _ ticketId => do let _ ← spendUse ticketId
  | ask request => do let _ ← upsertRequest request
  | decide key decision actor now => do
    let _ ← recordDecision key.sessionId key.kind key.target decision actor now
  | close key status now => do let _ ← closeRequest key.sessionId key.kind key.target status now
  | endGate guard _ now => guard.drop now
  | consume key now => markConsumed key now
  | abandonSession sessionId now => abandonRequestsForSession sessionId now
  | abandonBefore cutoff now => abandonAllRequestedBefore cutoff now
  | prune cutoff => deleteAllBefore cutoff

def system : System Task Statement Statement.Outcome Db Unit where
  program := Task.program
  execute := execute

abbrev State := Config Task Statement Statement.Outcome Db Unit

def Db.unasked (tickets : Sql.Table Ticket Ticket.id) : Db where
  tickets := tickets
  requests := .empty
  parameters := ⟨none, none, none⟩

def oneTicket (uses : Int) : Sql.Table Ticket Ticket.id :=
  (Sql.Table.empty.insert ⟨ticketId, 7, some uses, none⟩).2

def NewRequest.ofAdmin (ticketId : Option Uuid) (started : OffsetDateTime) : NewRequest where
  sessionId := sessionId
  target := "db"
  nodeId := 0
  protocol := Protocol.ssh.name
  username := "alice"
  userId := 7
  remoteAddress := none
  matchDigest := none
  started := started
  about := .admin ticketId

def Request.unacknowledged : Request := { row with consumedAt := none }

def Statement.prunes : Statement → Bool
  | deleteAllBefore _ => true
  | _ => false

theorem write_of_decided (stmt : Statement) (keeps : stmt.prunes = false) (k : Key)
    (decided : r.status ∈ decided) :
    ∃ later, stmt.write k (some r) = some later ∧ later.unacknowledged = r.unacknowledged := by
  have settled := not_pending_of_decided decided
  have answered := not_unanswered_of_decided decided
  cases stmt with
  | refreshPending asked => exact ⟨r, by simp [write, isPendingAt, settled], rfl⟩
  | reopenUnanswered asked =>
    exact ⟨r, by simp [write, isUnansweredAt, answered], rfl⟩
  | insertRequest asked => exact ⟨r, by simp [write], rfl⟩
  | applyTransition aimed tr =>
    have unpinned : aimed.pinned r = false := by grind [pinned_iff]
    exact ⟨r, by simp [write, unpinned], rfl⟩
  | markConsumed marked now =>
    refine ⟨_, rfl, ?_⟩
    show (if r.isUnconsumedAt marked then r.consume now else r).unacknowledged = _
    split <;> rfl
  | deleteAllBefore cut => cases keeps
  | _ => exact ⟨r, rfl, rfl⟩

theorem Request.status_of_unacknowledged {first second : Request}
    (same : first.unacknowledged = second.unacknowledged) : first.status = second.status := by
  have stripped : ∀ r : Request, r.unacknowledged.status = r.status := fun _ => rfl
  rw [← stripped first, same, stripped]

theorem decided_of_run (c : State) (ms : List (Move Task))
    (unpruned : Config.Along system
      (Config.Performing system fun _ _ stmt => stmt.prunes = false) c ms)
      (found : c.state.requests.find? k = some r) (decided : r.status ∈ decided) :
    ∃ later, (c.run system ms).state.requests.find? k = some later ∧
      later.unacknowledged = r.unacknowledged := by
  refine Config.run_invariant _ (fun c => ∃ later, c.state.requests.find? k = some later ∧
      later.unacknowledged = r.unacknowledged) ?_ ?_ c ms unpruned ⟨r, found, rfl⟩
  · intro c t _ holds
    exact holds
  · rintro s pre t hist stmt next post log perm perf _ ⟨later, stored, same⟩
    have keeps := perm.admits system perf
    have still : later.status ∈ ApprovalRequestStatus.decided := by
      rw [status_of_unacknowledged same]
      exact decided
    obtain ⟨last, written, sameAgain⟩ := write_of_decided stmt keeps k still
    refine ⟨last, ?_, sameAgain.trans same⟩
    show (execute stmt s).2.requests.find? k = some last
    rw [find?_execute, stored, written]

theorem execute_applyTransition_of_older (db : Db) (r stored : Request)
    (tr : StatusTransition) (found : db.requests.find? r.key = some stored)
    (older : r.started < stored.started) :
    execute (.applyTransition r tr) db = ((0 : Nat), db) := by
  grind [execute_applyTransition_of_not_pinned]

theorem eval_settleRequestInternal_of_older (db : Db) (r stored : Request)
    (tr : StatusTransition) (found : db.requests.find? r.key = some stored)
    (older : r.started < stored.started) :
    (settleRequestInternal r tr).eval execute db = (false, db) := by
  have nothing := execute_applyTransition_of_older db r stored tr found older
  simp only [settleRequestInternal, query, single_bind, eval, nothing]
  simp [refundUnapproved, eval]

/-- A decided question keeps its decision in every run that does not prune it; and a settle or close
that carries a row read from an earlier asking changes nothing, whichever task performs it, and
gives no use back. -/
theorem decided_question_keeps_its_decision :
    (∀ (config : State) (moves : List (Move Task)) (key : Key) (row : Request),
      Config.Along system
        (Config.Performing system fun _ _ statement => statement.prunes = false) config moves →
      config.state.requests.find? key = some row →
      row.status ∈ ApprovalRequestStatus.decided →
      ∃ later, (config.run system moves).state.requests.find? key = some later ∧
        later.status = row.status ∧ later.scope = row.scope ∧
        later.resolvedByUsername = row.resolvedByUsername ∧
        later.resolvedByUserId = row.resolvedByUserId ∧
        later.matchDigest = row.matchDigest ∧ later.username = row.username ∧
        later.userId = row.userId ∧ later.remoteAddress = row.remoteAddress) ∧
    (∀ (config : State) (move : Move Task) (task : Task) (row stored : Request)
      (transition : StatusTransition),
      config.performed system move = some (task, .applyTransition row transition) →
      config.state.requests.find? row.key = some stored → row.started < stored.started →
      (config.step system move).state = config.state) ∧
    ∀ (db : Db) (row stored : Request) (transition : StatusTransition),
      db.requests.find? row.key = some stored → row.started < stored.started →
      (settleRequestInternal row transition).eval execute db = (false, db) := by
  refine ⟨?_, ?_, ?_⟩
  · grind [unacknowledged, decided_of_run]
  · intro config move task row stored transition perf found older
    rw [Config.state_step system perf]
    exact congrArg Prod.snd
      (execute_applyTransition_of_older config.state row stored transition found older)
  · exact eval_settleRequestInternal_of_older

def askedAndApproved : List (Move Task) :=
  [.start (.ask (.ofAdmin 1 none 10)), .advance 0, .advance 0, .advance 0,
    .start (.decide ⟨1, .admin, "db"⟩ (.approved .once) ⟨some "root", 9⟩ 11), .advance 1,
    .advance 1]

theorem decided_question_keeps_its_decision_approved :
    let config : State := (Config.initial (Db.unasked .empty)).run system askedAndApproved
    (∃ later, (config.run system [.start (.ask (.ofAdmin 1 none 20)), .advance 2, .advance 2,
        .advance 2, .advance 2, .advance 2]).state.requests.find? ⟨1, .admin, "db"⟩ = some later ∧
      later.status = .approved ∧ later.scope = some .once) ∧
    (settleRequestInternal (NewRequest.ofAdmin 1 none 5).toRow (.fromPending .abandoned 30)).eval
      execute config.state = (false, config.state) := by
  intro config
  have stored : ∃ r, config.state.requests.find? ⟨1, .admin, "db"⟩ = some r ∧
      r.status = .approved ∧ r.scope = some .once ∧ r.started = 10 := by
    refine ⟨_, rfl, ?_⟩
    decide
  obtain ⟨r, found, approved, once, started⟩ := stored
  have decided : r.status ∈ decided := by
    rw [approved]
    decide
  obtain ⟨later, laterFound, sameStatus, sameScope, _⟩ :=
    decided_question_keeps_its_decision.1 config
      [.start (.ask (.ofAdmin 1 none 20)), .advance 2, .advance 2, .advance 2, .advance 2,
        .advance 2] ⟨1, .admin, "db"⟩ r (by decide) found decided
  refine ⟨⟨later, laterFound, sameStatus.trans approved, sameScope.trans once⟩, ?_⟩
  refine decided_question_keeps_its_decision.2.2 config.state _ r _ found ?_
  rw [started]
  decide

end Warpgate.Approvals
