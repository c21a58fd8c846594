/-
This file models what is stored about sessions and the statements on it, and says once what a
statement can make of a row of each table.
-/

import Warpgate.Access.Directory
import Warpgate.Concurrent.Rely

namespace Warpgate.Sessions

open Option Sql.Table

open Access (Directory TargetAuthorization Target)
open Auth (AuthStateUserInfo Primitives)

/-! ### Rows -/

structure UserSession where
  id : UserSessionId
  userId : Option Uuid
  protocol : Protocol
  nodeId : Option NodeId
  started : OffsetDateTime
  ended : Option OffsetDateTime
  deriving DecidableEq, Repr

structure TargetSession where
  id : TargetSessionId
  userSessionId : UserSessionId
  targetId : Uuid
  ended : Option OffsetDateTime
  ticketId : Option Uuid
  deriving DecidableEq, Repr

def TargetSession.key (row : TargetSession) : UserSessionId × Uuid :=
  (row.userSessionId, row.targetId)

structure SsoLoginState where
  provider : String
  subject : Option String
  sid : Option String
  deriving DecidableEq, Repr

structure Entries where
  sessionId : Option UserSessionId
  ssoLoginState : Option SsoLoginState
  deriving DecidableEq, Repr

def ssoColumnMaxLength : Nat := 255

def fitsSsoColumn (value : String) : Bool := value.utf8ByteSize ≤ ssoColumnMaxLength

def Entries.ssoColumns (entries : Entries) : Option String × Option String × Option String :=
  match entries.ssoLoginState.bind fun state =>
      state.subject.map fun subject => (state.provider, subject, state.sid) with
  | some (provider, subject, sid) =>
    ((some provider).filter fitsSsoColumn, (some subject).filter fitsSsoColumn,
      sid.filter fitsSsoColumn)
  | none => (none, none, none)

structure HttpSession where
  id : String
  expires : Option OffsetDateTime
  data : Entries
  updated : OffsetDateTime
  userSessionId : Option UserSessionId
  ssoProvider : Option String
  ssoSubject : Option String
  ssoSid : Option String
  names : userSessionId = data.sessionId
  extracts : (ssoProvider, ssoSubject, ssoSid) = data.ssoColumns
  deriving DecidableEq

def HttpSession.storing (id : String) (entries : Entries) (expires : Option Duration)
    (now : OffsetDateTime) : HttpSession where
  id := id
  expires := expires.map (now + ·)
  data := entries
  updated := now
  userSessionId := entries.sessionId
  ssoProvider := entries.ssoColumns.1
  ssoSubject := entries.ssoColumns.2.1
  ssoSid := entries.ssoColumns.2.2
  names := rfl
  extracts := rfl

def HttpSession.replacing (row stored : HttpSession) : HttpSession := { row with id := stored.id }

@[simp] theorem HttpSession.id_replacing (r stored : HttpSession) :
    (r.replacing stored).id = stored.id := rfl

def HttpSession.touch (now : OffsetDateTime) (row : HttpSession) : HttpSession :=
  { row with updated := now }

@[simp] theorem HttpSession.id_touch (now : OffsetDateTime) (r : HttpSession) :
    (r.touch now).id = r.id := rfl

def HttpSession.isExpired (now : OffsetDateTime) (maxAge : Duration) (row : HttpSession) : Bool :=
  row.expires.any (· < now) ∨ row.updated < now - maxAge

structure RecentlyLoaded where
  current : List String
  previous : List String
  swappedAt : OffsetDateTime
  deriving DecidableEq, Repr

def recentlyLoadedSwapInterval : Duration := 3600 * 1000000000

namespace RecentlyLoaded

def record (loaded : RecentlyLoaded) (id : String) (now : OffsetDateTime) : RecentlyLoaded :=
  if loaded.swappedAt + recentlyLoadedSwapInterval ≤ now then
    { current := [id], previous := loaded.current, swappedAt := now }
  else { loaded with current := id :: loaded.current }

def contains (loaded : RecentlyLoaded) (id : String) : Bool :=
  id ∈ loaded.current ∨ id ∈ loaded.previous

end RecentlyLoaded

inductive AccessChange
  | users (ids : List Uuid)
  | username (name : String)
  | targets (ids : List Uuid)
  | all
  deriving DecidableEq, Repr

structure PendingRevocations where
  changes : List AccessChange
  closes : List UserSessionId
  deriving DecidableEq, Repr

structure Handle where
  userSessionId : UserSessionId
  protocol : Protocol
  nodeId : NodeId
  deriving DecidableEq, Repr

structure World where
  approvals : Approvals.Db
  directory : Directory
  userSessions : Sql.Table UserSession UserSession.id
  targetSessions : Sql.Table TargetSession TargetSession.key
  httpSessions : Sql.Table HttpSession HttpSession.id
  attributed : NodeId → UserSessionId → Option AuthStateUserInfo
  recentlyLoaded : NodeId → RecentlyLoaded
  pendingRevocations : NodeId → PendingRevocations
  clock : OffsetDateTime
  reachable : Bool

inductive WarpgateError
  | databaseError
  | inconsistentState (message : String)
  | userSessionAlreadyAttributed
  | userSessionEnded
  | invalidTicket (ticketId : Uuid)
  | userNotFound
  deriving DecidableEq, Repr

namespace UserSession

def starting (id : UserSessionId) (protocol : Protocol) (nodeId : Option NodeId)
    (now : OffsetDateTime) : UserSession where
  id := id
  userId := none
  protocol := protocol
  nodeId := nodeId
  started := now
  ended := none

def isOpen (row : UserSession) : Bool := row.ended.isNone

def finish (now : OffsetDateTime) (row : UserSession) : UserSession :=
  { row with ended := some now }

def isAttributable (sessionId : UserSessionId) (userId : Uuid) (row : UserSession) : Bool :=
  row.id = sessionId ∧ row.userId.all (· = userId)

def assign (userId : Uuid) (row : UserSession) : UserSession := { row with userId := some userId }

variable (now : OffsetDateTime)

@[simp] theorem id_finish (r : UserSession) : (r.finish now).id = r.id := rfl

@[simp] theorem isOpen_finish (r : UserSession) : (r.finish now).isOpen = false := rfl

@[simp] theorem id_assign (uid : Uuid) (r : UserSession) : (r.assign uid).id = r.id := rfl

end UserSession

namespace TargetSession

def isOpen (row : TargetSession) : Bool := row.ended.isNone

def finish (now : OffsetDateTime) (row : TargetSession) : TargetSession :=
  { row with ended := some now }

def forget (row : TargetSession) : TargetSession := { row with ticketId := none }

variable (now : OffsetDateTime) (r : TargetSession)

@[simp] theorem key_finish : (r.finish now).key = r.key := rfl

@[simp] theorem isOpen_finish : (r.finish now).isOpen = false := rfl

@[simp] theorem key_forget : r.forget.key = r.key := rfl

def opening (preferredId : TargetSessionId) (userSessionId : UserSessionId)
    (authorization : TargetAuthorization) : TargetSession where
  id := preferredId
  userSessionId := userSessionId
  targetId := authorization.target.id
  ended := none
  ticketId := authorization.ticketId

end TargetSession

inductive TargetSessionOpenOutcome
  | created (row : TargetSession)
  | alreadyExists (row : TargetSession)
  deriving DecidableEq, Repr

def TargetSessionOpenOutcome.row : TargetSessionOpenOutcome → TargetSession
  | created row | alreadyExists row => row

namespace World

variable (world : World)

/-! ### What the transactions do -/

def isLive (id : UserSessionId) : Bool :=
  (world.userSessions.find? id).any UserSession.isOpen

def setAttributed (handle : Handle) (user : AuthStateUserInfo) : World :=
  { world with
    attributed := fun nodeId sessionId =>
      if nodeId = handle.nodeId ∧ sessionId = handle.userSessionId then some user
      else world.attributed nodeId sessionId }

def setUserInfoIn (handle : Handle) (user : AuthStateUserInfo) :
    Except WarpgateError Unit × World :=
  if world.attributed handle.nodeId handle.userSessionId = some user then (.ok (), world)
  else
    let writable := UserSession.isAttributable handle.userSessionId user.id
    if world.userSessions.matching writable = 0 then (.error .userSessionAlreadyAttributed, world)
    else
      let written := world.userSessions.update writable (UserSession.assign user.id)
        (UserSession.id_assign user.id)
      (.ok (), ({ world with userSessions := written }).setAttributed handle user)

def stampTargetSessionIdentity (handle : Handle)
    (authorization : TargetAuthorization) : Except WarpgateError Unit × World :=
  if authorization.protocol ≠ handle.protocol then
    (.error (.inconsistentState
      "target authorization protocol does not match the user session"), world)
  else
    match world.attributed handle.nodeId handle.userSessionId with
    | none => world.setUserInfoIn handle authorization.userInfo
    | some known =>
      if known ≠ authorization.userInfo then
        (.error (.inconsistentState
          "target authorization user does not match the user session"), world)
      else (.ok (), world)

def isOpen (sessionId : UserSessionId) (targetId : Uuid) : Bool :=
  (world.targetSessions.find? (sessionId, targetId)).any TargetSession.isOpen

def ticketIsValid (ticketId : Uuid) : Bool :=
  (world.approvals.tickets.find? ticketId).any fun ticket => ticket.expiry.all (world.clock < ·)

/-- The parent and the ticket are checked again, the roles are not. -/
def openOrLookup (preferredId : TargetSessionId) (userSessionId : UserSessionId)
    (authorization : TargetAuthorization) :
    Except WarpgateError TargetSessionOpenOutcome × World :=
  if world.isLive userSessionId = false then (.error .userSessionEnded, world)
  else
    match authorization.ticketId.filter fun ticketId => !world.ticketIsValid ticketId with
    | some ticketId => (.error (.invalidTicket ticketId), world)
    | none =>
      let inserted :=
        (world.targetSessions.insert (.opening preferredId userSessionId authorization)).2
      match inserted.find? (userSessionId, authorization.target.id) with
      | none => (.error (.inconsistentState "recorded target access not found"), world)
      | some row =>
        (.ok (if row.id = preferredId then .created row else .alreadyExists row),
          { world with targetSessions := inserted })

def markEnded (id : UserSessionId) : World :=
  if world.isLive id then
    { world with
      userSessions := world.userSessions.update (fun row => row.id = id ∧ row.isOpen)
        (UserSession.finish world.clock) (UserSession.id_finish world.clock)
      targetSessions :=
        world.targetSessions.update (fun row => row.userSessionId = id ∧ row.isOpen)
          (TargetSession.finish world.clock) (TargetSession.key_finish world.clock) }
  else world

def revoke (id : UserSessionId) : World :=
  { world.markEnded id with
    httpSessions := world.httpSessions.delete fun row => row.userSessionId = some id }

def endChildrenOfEndedParents : World :=
  { world with
    targetSessions :=
      world.targetSessions.update
        (fun row => row.isOpen ∧ (world.userSessions.find? row.userSessionId).any (!·.isOpen))
        (TargetSession.finish world.clock) (TargetSession.key_finish world.clock) }

variable (filter : Approvals.Ticket → Bool)

def admittedByTicket (row : TargetSession) : Bool :=
  row.ticketId.any fun ticketId => (world.approvals.tickets.find? ticketId).any filter

def openUserSessionsAdmittedByTickets : List UserSessionId :=
  ((world.targetSessions.select fun row =>
    row.isOpen ∧ world.admittedByTicket filter row).map (·.userSessionId)).dedup

def deleteTickets : World :=
  { world with
    approvals := { world.approvals with tickets := world.approvals.tickets.delete filter }
    targetSessions :=
      world.targetSessions.update (world.admittedByTicket filter) TargetSession.forget
        TargetSession.key_forget }

def deleteUserRecords (userId : Uuid) : World :=
  { world.deleteTickets (fun ticket => ticket.userId = userId) with
    directory := world.directory.withoutUser userId }

/-- An ended login is not written back, and a row loaded here is not created again. -/
def updateSession (nodeId : NodeId) (id : String) (entries : Entries)
    (expires : Option Duration) : World :=
  let row := HttpSession.storing id entries expires world.clock
  if entries.sessionId.any (!world.isLive ·) then world
  else if (world.recentlyLoaded nodeId).contains id then
    { world with
      httpSessions :=
        world.httpSessions.update (fun stored => stored.id = id) row.replacing row.id_replacing }
  else { world with httpSessions := world.httpSessions.upsert row }

def removeStoredRow (id : String)
    (onlyIfExpired : Option (OffsetDateTime × Duration)) : Option UserSessionId × World :=
  match world.httpSessions.find? id with
  | none => (none, world)
  | some current =>
    if onlyIfExpired.any fun limit => !current.isExpired limit.1 limit.2 then (none, world)
    else
      let removed :=
        { world with httpSessions := world.httpSessions.delete fun row => row.id = id }
      match current.userSessionId with
      | none => (none, removed)
      | some userSessionId =>
        if removed.httpSessions.matching (fun row => row.userSessionId = some userSessionId) = 0
        then (some userSessionId, removed.markEnded userSessionId)
        else (none, removed)

end World

inductive SessionsFilter
  | sessions (ids : List UserSessionId)
  | user (userId : Uuid)
  | all
  | connectionBound (live : List NodeId)
  | withoutCookie (cutoff : OffsetDateTime)
  | node (nodeId : NodeId)
  deriving DecidableEq, Repr

def SessionsFilter.selects (world : World) (row : UserSession) : SessionsFilter → Bool
  | sessions ids => row.id ∈ ids
  | user userId => row.userId = some userId
  | all => true
  | connectionBound live => row.nodeId.any (· ∉ live)
  | withoutCookie cutoff =>
    row.protocol = .http ∧ row.nodeId = none ∧ row.started < cutoff ∧
      ∀ stored ∈ world.httpSessions.rows, stored.userSessionId ≠ some row.id
  | node nodeId => row.nodeId = some nodeId

/-! ### Statements -/

inductive Question
  | now
  | findTarget (targetId : Uuid)
  | authorizeTargetById (userId targetId : Uuid)
  | isOpen (sessionId : UserSessionId) (targetId : Uuid)
  | findUser (userId : Uuid)
  | findUserByName (username : String)
  | openMatching (filter : SessionsFilter)
  | openTicketless (change : AccessChange) (named : Option Uuid)
  | expiredRoleAssignments (since : Option OffsetDateTime) (now : OffsetDateTime)
  | admittedByExpiredTickets
  | findHttpSession (id : String)
  | expiredHttpSessions (now : OffsetDateTime) (maxAge : Duration)
  | ssoSessions (provider : String) (subject sid : Option String)
  | rechecked (change : AccessChange)
  deriving DecidableEq

@[reducible] def Question.Answer : Question → Type
  | now => OffsetDateTime
  | findTarget _ => Option Target
  | authorizeTargetById _ _ => Option Bool
  | isOpen _ _ => Bool
  | findUser _ => Option (Option AuthStateUserInfo)
  | findUserByName _ => Option (Option AuthStateUserInfo)
  | openMatching _ => Option (List UserSessionId)
  | openTicketless _ _ => Option (List (UserSessionId × Option Uuid × Uuid))
  | expiredRoleAssignments _ _ => Option (List Uuid)
  | admittedByExpiredTickets => Option (List UserSessionId)
  | findHttpSession _ => Option HttpSession
  | expiredHttpSessions _ _ => List HttpSession
  | ssoSessions _ _ _ => Option (List UserSessionId)
  | rechecked _ => Unit

def HttpSession.hasSso (provider : String) (subject sid : Option String)
    (row : HttpSession) : Bool :=
  row.ssoProvider = some provider ∧ subject.all (row.ssoSubject = some ·) ∧
    sid.all (row.ssoSid = some ·)

namespace World

def whenReachable {Result : Type} (world : World) (result : Result) : Option Result :=
  if world.reachable then some result else none

def openMatching (world : World) (filter : SessionsFilter) : List UserSessionId :=
  (world.userSessions.select fun row => row.isOpen ∧ filter.selects world row).map (·.id)

def isAffected (change : AccessChange) (named : Option Uuid) (parent : UserSession)
    (row : TargetSession) : Bool :=
  match change with
  | .users ids => parent.userId.any (· ∈ ids)
  | .username _ => parent.userId.any (some · = named)
  | .targets ids => row.targetId ∈ ids
  | .all => true

def openTicketless (world : World) (change : AccessChange) (named : Option Uuid) :
    List (UserSessionId × Option Uuid × Uuid) :=
  world.targetSessions.rows.filterMap fun row =>
    (world.userSessions.find? row.userSessionId).bind fun parent =>
      if row.isOpen ∧ row.ticketId = none ∧ parent.isOpen ∧ parent.userId.isSome ∧
          parent.protocol ≠ .http ∧ isAffected change named parent row then
        some (row.userSessionId, parent.userId, row.targetId)
      else none

def expiredRoleAssignments (world : World) (since : Option OffsetDateTime) (now : OffsetDateTime) :
    List Uuid :=
  ((world.directory.userRoles.select fun assignment =>
    assignment.revokedAt.isNone ∧ assignment.expiresAt.any (· ≤ now) ∧
      since.all fun since => assignment.expiresAt.any (since < ·)).map (·.userId)).dedup

def ssoSessions (world : World) (provider : String) (subject sid : Option String) :
    List UserSessionId :=
  ((world.httpSessions.select (HttpSession.hasSso provider subject sid)).filterMap
    (·.userSessionId)).dedup

end World

def Question.answer (primitives : Primitives) : (question : Question) → World → question.Answer
  | now, world => world.clock
  | findTarget targetId, world => world.directory.targets.find? targetId
  | authorizeTargetById userId targetId, world =>
    world.whenReachable (world.directory.authorizes userId targetId world.clock)
  | isOpen sessionId targetId, world => world.isOpen sessionId targetId
  | findUser userId, world => world.whenReachable (world.directory.users.find? userId)
  | findUserByName username, world =>
    world.whenReachable (world.directory.findUserByName primitives username)
  | openMatching filter, world => world.whenReachable (world.openMatching filter)
  | openTicketless change named, world => world.whenReachable (world.openTicketless change named)
  | expiredRoleAssignments since upTo, world =>
    world.whenReachable (world.expiredRoleAssignments since upTo)
  | admittedByExpiredTickets, world =>
    world.whenReachable (world.openUserSessionsAdmittedByTickets fun ticket =>
      ticket.expiry.any (· < world.clock))
  | findHttpSession id, world => world.httpSessions.find? id
  | expiredHttpSessions asOf maxAge, world =>
    world.httpSessions.select (HttpSession.isExpired asOf maxAge)
  | ssoSessions provider subject sid, world =>
    world.whenReachable (world.ssoSessions provider subject sid)
  | rechecked _, _ => ()

/-- A transaction, or an access to what a node keeps in memory. -/
inductive Statement
  | read (question : Question)
  | elapse (period : Duration)
  | setReachable (reachable : Bool)
  | setParameters (parameters : Approvals.Parameters)
  | administer (write : Access.Change)
  | register (id : UserSessionId) (protocol : Protocol) (nodeId : Option NodeId)
  | setUserInfo (handle : Handle) (user : AuthStateUserInfo)
  | stamp (handle : Handle) (authorization : TargetAuthorization)
  | openOrLookup (preferredId : TargetSessionId) (sessionId : UserSessionId)
      (authorization : TargetAuthorization)
  | markEnded (id : UserSessionId)
  | revoke (id : UserSessionId)
  | endChildrenOfEndedParents
  | deleteTicket (ticketId : Uuid)
  | deleteUserRecords (userId : Uuid)
  | pushCloses (nodeId : NodeId) (ids : List UserSessionId)
  | takeCloses (nodeId : NodeId)
  | pushChange (nodeId : NodeId) (change : AccessChange)
  | takeChanges (nodeId : NodeId)
  | recordLoaded (nodeId : NodeId) (id : String)
  | updateSession (nodeId : NodeId) (id : String) (entries : Entries) (expires : Option Duration)
  | deleteHttpSession (id : String)
  | removeStoredRow (id : String) (onlyIfExpired : Option (OffsetDateTime × Duration))
  | touch (ids : List UserSessionId)
  deriving DecidableEq

@[reducible] def Statement.Outcome : Statement → Type
  | read question => question.Answer
  | setUserInfo _ _ => Except WarpgateError Unit
  | stamp _ _ => Except WarpgateError Unit
  | openOrLookup _ _ _ => Except WarpgateError TargetSessionOpenOutcome
  | revoke _ => Option Unit
  | deleteTicket _ => Option (List UserSessionId)
  | deleteUserRecords _ => Option Unit
  | takeCloses _ => List UserSessionId
  | takeChanges _ => List AccessChange
  | removeStoredRow _ _ => Option UserSessionId
  | _ => Unit

def sortedSessions (ids : List UserSessionId) : List UserSessionId :=
  ids.insertionSort fun first second => first.toNat ≤ second.toNat

namespace PendingRevocations

def push (pending : PendingRevocations) (change : AccessChange) : PendingRevocations :=
  { pending with changes := pending.changes ++ [change] }

def pushCloses (pending : PendingRevocations) (ids : List UserSessionId) : PendingRevocations :=
  { pending with closes := (pending.closes ++ ids).dedup }

end PendingRevocations

namespace World

def withPending (world : World) (nodeId : NodeId) (pending : PendingRevocations) : World :=
  { world with pendingRevocations := Function.update world.pendingRevocations nodeId pending }

def transact {Result : Type} (world : World) (result : Result) (after : World) :
    Option Result × World :=
  if world.reachable then (some result, after) else (none, world)

end World

def Statement.execute (primitives : Primitives) :
    (statement : Statement) → World → statement.Outcome × World
  | read question, world => (question.answer primitives world, world)
  | elapse period, world => ((), { world with clock := world.clock + period })
  | setReachable reachable, world => ((), { world with reachable := reachable })
  | setParameters parameters, world =>
    ((), { world with approvals := { world.approvals with parameters := parameters } })
  | administer write, world => ((), { world with directory := write.apply world.directory })
  | register id protocol nodeId, world =>
    let row := UserSession.starting id protocol nodeId world.clock
    ((), { world with userSessions := (world.userSessions.insert row).2 })
  | setUserInfo handle user, world => world.setUserInfoIn handle user
  | stamp handle authorization, world => world.stampTargetSessionIdentity handle authorization
  | openOrLookup preferredId sessionId authorization, world =>
    world.openOrLookup preferredId sessionId authorization
  | markEnded id, world => ((), world.markEnded id)
  | revoke id, world => world.transact () (world.revoke id)
  | endChildrenOfEndedParents, world => ((), world.endChildrenOfEndedParents)
  | deleteTicket ticketId, world =>
    world.transact
      (world.openUserSessionsAdmittedByTickets fun ticket => ticket.id = ticketId)
      (world.deleteTickets fun ticket => ticket.id = ticketId)
  | deleteUserRecords userId, world => world.transact () (world.deleteUserRecords userId)
  | pushCloses nodeId ids, world =>
    ((), world.withPending nodeId ((world.pendingRevocations nodeId).pushCloses ids))
  | takeCloses nodeId, world =>
    let pending := world.pendingRevocations nodeId
    (sortedSessions pending.closes, world.withPending nodeId { pending with closes := [] })
  | pushChange nodeId change, world =>
    ((), world.withPending nodeId ((world.pendingRevocations nodeId).push change))
  | takeChanges nodeId, world =>
    let pending := world.pendingRevocations nodeId
    (pending.changes, world.withPending nodeId { pending with changes := [] })
  | recordLoaded nodeId id, world =>
    ((), { world with
      recentlyLoaded := Function.update world.recentlyLoaded nodeId
        ((world.recentlyLoaded nodeId).record id world.clock) })
  | updateSession nodeId id entries expires, world =>
    ((), world.updateSession nodeId id entries expires)
  | deleteHttpSession id, world =>
    ((), { world with httpSessions := world.httpSessions.delete fun row => row.id = id })
  | removeStoredRow id onlyIfExpired, world => world.removeStoredRow id onlyIfExpired
  | touch ids, world =>
    ((), { world with
      httpSessions := world.httpSessions.update (fun row => row.userSessionId.any (· ∈ ids))
        (HttpSession.touch world.clock) (HttpSession.id_touch world.clock) })

abbrev AnyStatement := Approvals.Statement ⊕ Statement

abbrev AnyStatement.Outcome : AnyStatement → Type :=
  Sum.elim Approvals.Statement.Outcome Statement.Outcome

def execute (primitives : Primitives) :
    (statement : AnyStatement) → World → AnyStatement.Outcome statement × World
  | .inl statement, world =>
    ((Approvals.execute statement world.approvals).1,
      { world with approvals := (Approvals.execute statement world.approvals).2 })
  | .inr statement, world => statement.execute primitives world

def Statement.attributes : Statement → Option (UserSessionId × Uuid)
  | setUserInfo handle user => some (handle.userSessionId, user.id)
  | stamp handle authorization => some (handle.userSessionId, authorization.userInfo.id)
  | _ => none

def Statement.deletesTickets : Statement → Bool
  | deleteTicket _ | deleteUserRecords _ => true
  | _ => false

/-! ### What a statement makes of a row -/

/-- All that can become of a user session. -/
inductive UserSession.Step (before : World) :
    AnyStatement → Option UserSession → Option UserSession → Prop
  | same (statement : AnyStatement) (row : Option UserSession) : Step before statement row row
  | registered (id : UserSessionId) (protocol : Protocol) (nodeId : Option NodeId) :
      Step before (.inr (.register id protocol nodeId)) none
        (some (.starting id protocol nodeId before.clock))
  | assigned (statement : Statement) (row : UserSession) (userId : Uuid)
      (attributes : statement.attributes = some (row.id, userId))
      (unowned : row.userId.all (· = userId) = true) :
      Step before (.inr statement) (some row) (some (row.assign userId))
  | finished (statement : AnyStatement) (row : UserSession) (wasOpen : row.isOpen = true) :
      Step before statement (some row) (some (row.finish before.clock))

/-- All that can become of a target session. -/
inductive TargetSession.Step (before after : World) :
    AnyStatement → Option TargetSession → Option TargetSession → Prop
  | same (statement : AnyStatement) (row : Option TargetSession) :
      Step before after statement row row
  | opened (preferredId : TargetSessionId) (sessionId : UserSessionId)
      (authorization : TargetAuthorization) (live : before.isLive sessionId = true)
      (valid : ∀ ticketId, authorization.ticketId = some ticketId →
        before.ticketIsValid ticketId = true) :
      Step before after (.inr (.openOrLookup preferredId sessionId authorization)) none
        (some (.opening preferredId sessionId authorization))
  | finished (statement : AnyStatement) (row : TargetSession) (wasOpen : row.isOpen = true)
      (orphaned : after.isLive row.userSessionId = false) :
      Step before after statement (some row) (some (row.finish before.clock))
  | forgotten (statement : Statement) (row : TargetSession) (ticketId : Uuid)
      (deletes : statement.deletesTickets = true) (carried : row.ticketId = some ticketId)
      (deleted : after.approvals.tickets.find? ticketId = none) :
      Step before after (.inr statement) (some row) (some row.forget)

inductive HttpSession.Step (before : World) :
    AnyStatement → Option HttpSession → Option HttpSession → Prop
  | same (statement : AnyStatement) (row : Option HttpSession) : Step before statement row row
  | stored (row : Option HttpSession) (nodeId : NodeId) (id : String) (entries : Entries)
      (expires : Option Duration)
      (live : ∀ sessionId, entries.sessionId = some sessionId → before.isLive sessionId = true)
      (present : (before.recentlyLoaded nodeId).contains id = true → row ≠ none) :
      Step before (.inr (.updateSession nodeId id entries expires)) row
        (some (.storing id entries expires before.clock))
  | touched (statement : AnyStatement) (row : HttpSession) :
      Step before statement (some row) (some (row.touch before.clock))
  | removed (statement : AnyStatement) (row : HttpSession) : Step before statement (some row) none

section Markings

variable (w : World) (id : UserSessionId)

theorem userSession_markEnded (k : UserSessionId) :
    (w.markEnded id).userSessions.find? k = w.userSessions.find? k ∨
      ∃ r, w.userSessions.find? k = some r ∧ r.isOpen = true ∧
        (w.markEnded id).userSessions.find? k = some (r.finish w.clock) := by
  unfold World.markEnded
  split
  · simp only [find?_update]
    cases found : w.userSessions.find? k with
    | none => exact .inl rfl
    | some r => grind
  · exact .inl rfl

theorem isLive_markEnded : (w.markEnded id).isLive id = false := by
  unfold World.markEnded
  split
  · simp only [World.isLive, find?_update]
    cases found : w.userSessions.find? id with
    | none => rfl
    | some r =>
      have same : r.id = id := key_of_find? found
      by_cases wasOpen : r.isOpen = true
      · simp [same, wasOpen]
      · simp [wasOpen]
  · next ended => simpa using ended

theorem targetSession_markEnded (k : UserSessionId × Uuid) :
    (w.markEnded id).targetSessions.find? k = w.targetSessions.find? k ∨
      ∃ r, w.targetSessions.find? k = some r ∧ r.isOpen = true ∧ r.userSessionId = id ∧
        (w.markEnded id).targetSessions.find? k = some (r.finish w.clock) := by
  unfold World.markEnded
  split
  · simp only [find?_update]
    cases found : w.targetSessions.find? k with
    | none => exact .inl rfl
    | some r => grind
  · exact .inl rfl

end Markings

theorem World.transact_cases {Result : Type} (w post : World) (res : Result) :
    (w.transact res post = (none, w) ∧ w.reachable = false) ∨
      (w.transact res post = (some res, post) ∧ w.reachable = true) := by
  unfold World.transact
  cases w.reachable with
  | true => exact .inr ⟨rfl, rfl⟩
  | false => exact .inl ⟨rfl, rfl⟩

variable {motive : World → Prop}

theorem World.transact_rec {Result : Type} (w post : World) (res : Result)
    (undone : motive w) (done : motive post) : motive (w.transact res post).2 := by
  rcases w.transact_cases post res with ⟨same, -⟩ | ⟨changed, -⟩
  · rw [same]
    exact undone
  · rw [changed]
    exact done

variable (P : Primitives) (statement stmt : AnyStatement) (w : World) (handle : Handle)
  (user : AuthStateUserInfo) (id : UserSessionId)

theorem userSession_setUserInfoIn :
    (w.setUserInfoIn handle user).2.userSessions.find? id = w.userSessions.find? id ∨
      ∃ r, w.userSessions.find? id = some r ∧ r.id = handle.userSessionId ∧
        r.userId.all (· = user.id) = true ∧
        (w.setUserInfoIn handle user).2.userSessions.find? id = some (r.assign user.id) := by
  unfold World.setUserInfoIn
  split
  · exact .inl rfl
  · dsimp only
    split
    · exact .inl rfl
    · simp only [World.setAttributed, find?_update]
      cases found : w.userSessions.find? id with
      | none => exact .inl rfl
      | some r =>
        by_cases writable : r.isAttributable handle.userSessionId user.id = true
        · have parts := writable
          simp only [UserSession.isAttributable, decide_eq_true_eq] at parts
          exact .inr ⟨r, rfl, parts.1, parts.2, by simp [writable]⟩
        · exact .inl (by simp [writable])

theorem setUserInfoIn_rec (same : motive w)
    (attr : ∀ rows memory, motive { w with userSessions := rows, attributed := memory }) :
    motive (w.setUserInfoIn handle user).2 := by
  unfold World.setUserInfoIn
  split
  · exact same
  · dsimp only
    split
    · exact same
    · exact attr _ _

theorem stamp_rec (auth : TargetAuthorization) (same : motive w)
    (attr : motive (w.setUserInfoIn handle auth.userInfo).2) :
    motive (w.stampTargetSessionIdentity handle auth).2 := by
  unfold World.stampTargetSessionIdentity
  split
  · exact same
  · grind

theorem openOrLookup_cases (pid : TargetSessionId) (sid : UserSessionId)
    (auth : TargetAuthorization) :
    (∃ error, w.openOrLookup pid sid auth = (.error error, w)) ∨
      (w.isLive sid = true ∧ (∀ tid, auth.ticketId = some tid → w.ticketIsValid tid = true) ∧
        ∃ out, w.openOrLookup pid sid auth = (.ok out, { w with targetSessions :=
            (w.targetSessions.insert (.opening pid sid auth)).2 })) := by
  unfold World.openOrLookup
  split
  · exact .inl ⟨_, rfl⟩
  · next live =>
    split
    · exact .inl ⟨_, rfl⟩
    · next valid =>
      dsimp only
      split
      · exact .inl ⟨_, rfl⟩
      · grind

theorem markEnded_rec (same : motive w)
    (ended : ∀ rows children, motive { w with userSessions := rows, targetSessions := children }) :
    motive (w.markEnded id) := by
  unfold World.markEnded
  split
  · exact ended _ _
  · exact same

theorem updateSession_rec (nid : NodeId) (id : String) (entries : Entries)
    (exp : Option Duration) (same : motive w)
    (stored : ∀ rows, motive { w with httpSessions := rows }) :
    motive (w.updateSession nid id entries exp) := by
  unfold World.updateSession
  split
  · exact same
  · split
    · exact stored _
    · exact stored _

theorem removeStoredRow_rec (id : String) (lim : Option (OffsetDateTime × Duration))
    (same : motive w)
    (removed : motive { w with httpSessions := w.httpSessions.delete fun r => r.id = id })
    (ended : ∀ sid, motive (World.markEnded
      { w with httpSessions := w.httpSessions.delete fun r => r.id = id } sid)) :
    motive (w.removeStoredRow id lim).2 := by
  unfold World.removeStoredRow
  split
  · exact same
  · grind

theorem userSession_step :
    UserSession.Step w stmt (w.userSessions.find? id)
      ((execute P stmt w).2.userSessions.find? id) := by
  rcases stmt with stmt | stmt
  · exact .same _ _
  let becomes : World → Prop := fun post =>
    UserSession.Step w (.inr stmt) (w.userSessions.find? id) (post.userSessions.find? id)
  have marks : ∀ (marked : World) ended, marked.userSessions = w.userSessions →
      marked.clock = w.clock → becomes (marked.markEnded ended) := by
    intro marked ended sameRows sameClock
    show UserSession.Step w _ _ ((marked.markEnded ended).userSessions.find? id)
    rcases userSession_markEnded marked ended id with same | ⟨r, found, wasOpen, fin⟩
    · rw [same, sameRows]
      exact .same _ _
    · rw [fin, ← sameRows, found, sameClock]
      exact .finished _ r wasOpen
  have attributes : ∀ handle user, stmt.attributes = some (handle.userSessionId, user.id) →
      becomes (w.setUserInfoIn handle user).2 := by
    intro handle user attr
    show UserSession.Step w _ _ ((w.setUserInfoIn handle user).2.userSessions.find? id)
    rcases userSession_setUserInfoIn w handle user id with
      same | ⟨r, found, its, unowned, assigned⟩
    · rw [same]
      exact .same _ _
    · rw [assigned, found]
      exact .assigned stmt r user.id (its ▸ attr) unowned
  cases stmt with
  | register newId protocol nid =>
    show UserSession.Step w _ _
      ((w.userSessions.insert (.starting newId protocol nid w.clock)).2.find? id)
    rw [find?_insert]
    cases found : w.userSessions.find? id with
    | none =>
      split
      · exact .registered newId protocol nid
      · exact .same _ _
    | some stored => simpa using UserSession.Step.same _ _
  | setUserInfo handle user => exact attributes handle user rfl
  | stamp handle auth =>
    exact stamp_rec (motive := becomes) w handle auth (.same _ _)
      (attributes handle auth.userInfo rfl)
  | openOrLookup pid sid auth =>
    show UserSession.Step w _ _ ((w.openOrLookup pid sid auth).2.userSessions.find? id)
    rcases openOrLookup_cases w pid sid auth with
      ⟨error, refused⟩ | ⟨-, -, out, done⟩
    · rw [refused]
      exact .same _ _
    · rw [done]
      exact .same _ _
  | markEnded ended => exact marks w ended rfl rfl
  | revoke ended =>
    exact World.transact_rec (motive := becomes) w _ () (.same _ _) (marks w ended rfl rfl)
  | deleteTicket tid | deleteUserRecords uid =>
    exact World.transact_rec (motive := becomes) w _ _ (.same _ _) (.same _ _)
  | updateSession nid storageId entries exp =>
    exact updateSession_rec (motive := becomes) w nid storageId entries exp (.same _ _)
      fun _ => .same _ _
  | removeStoredRow storageId lim =>
    exact removeStoredRow_rec (motive := becomes) w storageId lim (.same _ _)
      (.same _ _) fun ended => marks _ ended rfl rfl
  | _ => exact .same _ _

theorem targetSession_deleteTickets (p : Approvals.Ticket → Bool) (k : UserSessionId × Uuid) :
    (w.deleteTickets p).targetSessions.find? k = w.targetSessions.find? k ∨
      ∃ r tid, w.targetSessions.find? k = some r ∧ r.ticketId = some tid ∧
        (w.deleteTickets p).approvals.tickets.find? tid = none ∧
        (w.deleteTickets p).targetSessions.find? k = some r.forget := by
  simp only [World.deleteTickets, find?_update, find?_delete]
  cases found : w.targetSessions.find? k with
  | none => exact .inl rfl
  | some r =>
    by_cases admitted : w.admittedByTicket p r = true
    · obtain ⟨tid, carried, deleted⟩ := (any_eq_true _ _).mp admitted
      refine .inr ⟨r, tid, rfl, carried, ?_, by simp [admitted]⟩
      obtain ⟨ticket, stored, matched⟩ := (any_eq_true _ _).mp deleted
      simp [stored, filter_some, matched]
    · exact .inl (by simp [admitted])

theorem targetSession_step (k : UserSessionId × Uuid) :
    TargetSession.Step w (execute P stmt w).2 stmt (w.targetSessions.find? k)
      ((execute P stmt w).2.targetSessions.find? k) := by
  rcases stmt with stmt | stmt
  · exact .same _ _
  let becomes : World → Prop := fun post =>
    TargetSession.Step w post (.inr stmt) (w.targetSessions.find? k) (post.targetSessions.find? k)
  have marks : ∀ (marked post : World) ended, marked.targetSessions = w.targetSessions →
      marked.clock = w.clock → post.userSessions = (marked.markEnded ended).userSessions →
      post.targetSessions = (marked.markEnded ended).targetSessions → becomes post := by
    intro marked post ended sameRows sameClock parents children
    show TargetSession.Step w post _ _ (post.targetSessions.find? k)
    rw [children]
    rcases targetSession_markEnded marked ended k with
      same | ⟨r, found, wasOpen, its, fin⟩
    · rw [same, sameRows]
      exact .same _ _
    · rw [fin, ← sameRows, found, sameClock]
      refine .finished _ r wasOpen ?_
      rw [World.isLive, parents, its]
      exact isLive_markEnded marked ended
  have forgets : stmt.deletesTickets = true → ∀ (post : World) p,
      post.approvals = (w.deleteTickets p).approvals →
      post.targetSessions = (w.deleteTickets p).targetSessions → becomes post := by
    intro deletes post p tickets children
    show TargetSession.Step w post _ _ (post.targetSessions.find? k)
    rw [children]
    rcases targetSession_deleteTickets w p k with
      same | ⟨r, tid, found, carried, deleted, forgotten⟩
    · rw [same]
      exact .same _ _
    · rw [forgotten, found]
      exact .forgotten _ r tid deletes carried (tickets ▸ deleted)
  cases stmt with
  | setUserInfo handle user =>
    exact setUserInfoIn_rec (motive := becomes) w handle user (.same _ _) fun _ _ => .same _ _
  | stamp handle auth =>
    exact stamp_rec (motive := becomes) w handle auth (.same _ _)
      (setUserInfoIn_rec (motive := becomes) w handle _ (.same _ _) fun _ _ => .same _ _)
  | openOrLookup pid sid auth =>
    show becomes (w.openOrLookup pid sid auth).2
    rcases openOrLookup_cases w pid sid auth with
      ⟨error, refused⟩ | ⟨live, valid, out, done⟩
    · rw [refused]
      exact .same _ _
    · rw [done]
      show TargetSession.Step w _ _ _ ((w.targetSessions.insert (.opening pid sid auth)).2.find? k)
      rw [find?_insert]
      cases found : w.targetSessions.find? k with
      | none =>
        split
        · exact .opened pid sid auth live valid
        · exact .same _ _
      | some stored => simpa using TargetSession.Step.same _ _
  | markEnded ended => exact marks w _ ended rfl rfl rfl rfl
  | revoke ended =>
    exact World.transact_rec (motive := becomes) w _ () (.same _ _)
      (marks w _ ended rfl rfl rfl rfl)
  | endChildrenOfEndedParents =>
    show TargetSession.Step w _ _ _ (w.endChildrenOfEndedParents.targetSessions.find? k)
    simp only [World.endChildrenOfEndedParents, find?_update]
    cases found : w.targetSessions.find? k with
    | none => exact .same _ _
    | some r =>
      by_cases orphan : r.isOpen = true ∧
          (w.userSessions.find? r.userSessionId).any (!·.isOpen) = true
      · rw [map_some, if_pos (by simpa using orphan)]
        refine .finished _ r orphan.1 ?_
        obtain ⟨parent, stored, ended⟩ := (any_eq_true _ _).mp orphan.2
        show (w.userSessions.find? r.userSessionId).any UserSession.isOpen = false
        rw [stored]
        simpa using ended
      · rw [map_some, if_neg (by simpa using orphan)]
        exact .same _ _
  | deleteTicket tid | deleteUserRecords uid =>
    exact World.transact_rec (motive := becomes) w _ _ (.same _ _) (forgets rfl _ _ rfl rfl)
  | updateSession nid storageId entries exp =>
    exact updateSession_rec (motive := becomes) w nid storageId entries exp (.same _ _)
      fun _ => .same _ _
  | removeStoredRow storageId lim =>
    exact removeStoredRow_rec (motive := becomes) w storageId lim (.same _ _)
      (.same _ _) fun ended =>
        marks { w with httpSessions := w.httpSessions.delete fun r => r.id = storageId }
          _ ended rfl rfl rfl rfl
  | _ => exact .same _ _

theorem httpSession_updateSession (nid : NodeId) (id : String) (entries : Entries)
    (exp : Option Duration) (k : String) :
    HttpSession.Step w (.inr (.updateSession nid id entries exp)) (w.httpSessions.find? k)
      ((w.updateSession nid id entries exp).httpSessions.find? k) := by
  unfold World.updateSession
  split
  · exact .same _ _
  · next named =>
    have live : ∀ sid, entries.sessionId = some sid → w.isLive sid = true := by
      intro sid named'
      simpa [named'] using named
    split
    · next known =>
      simp only [find?_update]
      cases found : w.httpSessions.find? k with
      | none => exact .same _ _
      | some stored =>
        by_cases here : stored.id = id
        · rw [map_some, if_pos (by simpa using here)]
          have replaced : (HttpSession.storing id entries exp w.clock).replacing stored =
              .storing id entries exp w.clock := by
            simp [HttpSession.replacing, HttpSession.storing, here]
          rw [replaced]
          exact .stored _ nid id entries exp live fun _ => some_ne_none stored
        · rw [map_some, if_neg (by simpa using here)]
          exact .same _ _
    · next unknown =>
      simp only [find?_upsert]
      split
      · exact .stored _ nid id entries exp live fun known => absurd known unknown
      · exact .same _ _

theorem httpSession_step (k : String) :
    HttpSession.Step w stmt (w.httpSessions.find? k)
      ((execute P stmt w).2.httpSessions.find? k) := by
  rcases stmt with stmt | stmt
  · exact .same _ _
  let becomes : World → Prop := fun post =>
    HttpSession.Step w (.inr stmt) (w.httpSessions.find? k) (post.httpSessions.find? k)
  have removes : ∀ (post : World) p, post.httpSessions = w.httpSessions.delete p →
      becomes post := by
    intro post p deleted
    show HttpSession.Step w _ _ (post.httpSessions.find? k)
    rw [deleted, find?_delete]
    cases found : w.httpSessions.find? k with
    | none => exact .same _ _
    | some r =>
      rw [filter_some]
      split
      · exact .same _ _
      · exact .removed _ r
  cases stmt with
  | setUserInfo handle user =>
    exact setUserInfoIn_rec (motive := becomes) w handle user (.same _ _) fun _ _ => .same _ _
  | stamp handle auth =>
    exact stamp_rec (motive := becomes) w handle auth (.same _ _)
      (setUserInfoIn_rec (motive := becomes) w handle _ (.same _ _) fun _ _ => .same _ _)
  | openOrLookup pid sid auth =>
    show becomes (w.openOrLookup pid sid auth).2
    rcases openOrLookup_cases w pid sid auth with
      ⟨error, refused⟩ | ⟨-, -, out, done⟩
    · rw [refused]
      exact .same _ _
    · rw [done]
      exact .same _ _
  | markEnded ended =>
    exact markEnded_rec (motive := becomes) w ended (.same _ _) fun _ _ => .same _ _
  | revoke ended =>
    exact World.transact_rec (motive := becomes) w _ () (.same _ _) (removes _ _ rfl)
  | deleteTicket tid | deleteUserRecords uid =>
    exact World.transact_rec (motive := becomes) w _ _ (.same _ _) (.same _ _)
  | updateSession nid id entries exp => exact httpSession_updateSession w nid id entries exp k
  | deleteHttpSession id => exact removes _ _ rfl
  | removeStoredRow id lim =>
    refine removeStoredRow_rec (motive := becomes) w id lim (.same _ _)
      (removes _ _ rfl) fun ended => ?_
    exact markEnded_rec (motive := becomes) _ ended (removes _ _ rfl) fun _ _ => removes _ _ rfl
  | touch ids =>
    show HttpSession.Step w _ _ ((w.httpSessions.update _ (HttpSession.touch w.clock)
      (HttpSession.id_touch w.clock)).find? k)
    rw [find?_update]
    cases found : w.httpSessions.find? k with
    | none => exact .same _ _
    | some r =>
      rw [map_some]
      split
      · exact .touched _ r
      · exact .same _ _
  | _ => exact .same _ _

/-! ### What a statement makes of the rest -/

structure Surroundings where
  approvals : Approvals.Db
  directory : Directory
  recentlyLoaded : NodeId → RecentlyLoaded
  pendingRevocations : NodeId → PendingRevocations
  clock : OffsetDateTime
  reachable : Bool

def World.surroundings (world : World) : Surroundings where
  approvals := world.approvals
  directory := world.directory
  recentlyLoaded := world.recentlyLoaded
  pendingRevocations := world.pendingRevocations
  clock := world.clock
  reachable := world.reachable

namespace Surroundings

def withPending (around : Surroundings) (nodeId : NodeId) (pending : PendingRevocations) :
    Surroundings :=
  { around with pendingRevocations := Function.update around.pendingRevocations nodeId pending }

def withoutTickets (around : Surroundings) (filter : Approvals.Ticket → Bool) : Surroundings :=
  { around with
    approvals := if around.reachable then
        { around.approvals with tickets := around.approvals.tickets.delete filter }
      else around.approvals }

end Surroundings

def Statement.changes : Statement → Surroundings → Surroundings
  | elapse period, around => { around with clock := around.clock + period }
  | setReachable reachable, around => { around with reachable := reachable }
  | setParameters parameters, around =>
    { around with approvals := { around.approvals with parameters := parameters } }
  | administer write, around => { around with directory := write.apply around.directory }
  | deleteTicket ticketId, around => around.withoutTickets fun ticket => ticket.id = ticketId
  | deleteUserRecords userId, around =>
    { around.withoutTickets (fun ticket => ticket.userId = userId) with
      directory := if around.reachable then around.directory.withoutUser userId
        else around.directory }
  | pushCloses nodeId ids, around =>
    around.withPending nodeId ((around.pendingRevocations nodeId).pushCloses ids)
  | takeCloses nodeId, around =>
    around.withPending nodeId { around.pendingRevocations nodeId with closes := [] }
  | pushChange nodeId change, around =>
    around.withPending nodeId ((around.pendingRevocations nodeId).push change)
  | takeChanges nodeId, around =>
    around.withPending nodeId { around.pendingRevocations nodeId with changes := [] }
  | recordLoaded nodeId id, around =>
    { around with
      recentlyLoaded := Function.update around.recentlyLoaded nodeId
        ((around.recentlyLoaded nodeId).record id around.clock) }
  | _, around => around

open Surroundings

theorem surroundings_execute (stmt : Statement) (w : World) :
    (execute P (.inr stmt) w).2.surroundings = stmt.changes w.surroundings := by
  let keeps : World → Prop := fun post => post.surroundings = w.surroundings
  have marks : ∀ (marked : World) ended, marked.surroundings = w.surroundings →
      keeps (marked.markEnded ended) := fun marked ended same =>
    markEnded_rec (motive := keeps) marked ended same fun _ _ => same
  cases stmt with
  | setUserInfo handle user =>
    exact setUserInfoIn_rec (motive := keeps) w handle user rfl fun _ _ => rfl
  | stamp handle auth =>
    exact stamp_rec (motive := keeps) w handle auth rfl
      (setUserInfoIn_rec (motive := keeps) w handle _ rfl fun _ _ => rfl)
  | openOrLookup pid sid auth =>
    show keeps (w.openOrLookup pid sid auth).2
    rcases openOrLookup_cases w pid sid auth with
      ⟨error, refused⟩ | ⟨-, -, out, done⟩
    · rw [refused]
    · rw [done]
      rfl
  | markEnded ended => exact marks w ended rfl
  | revoke ended => exact World.transact_rec (motive := keeps) w _ () rfl (marks w ended rfl)
  | deleteTicket id | deleteUserRecords id =>
    show (w.transact _ _).2.surroundings = _
    rcases w.transact_cases _ _ with ⟨failed, unreachable⟩ | ⟨done, up⟩
    · rw [failed]
      simp [Statement.changes, withoutTickets, World.surroundings, unreachable]
    · rw [done]
      simp [Statement.changes, withoutTickets, World.surroundings, up,
        World.deleteUserRecords, World.deleteTickets]
  | updateSession nid id entries exp =>
    exact updateSession_rec (motive := keeps) w nid id entries exp rfl fun _ => rfl
  | removeStoredRow id lim =>
    exact removeStoredRow_rec (motive := keeps) w id lim rfl rfl fun ended => marks _ ended rfl
  | _ => rfl

theorem clock_le_execute : w.clock ≤ (execute P statement w).2.clock := by
  rcases statement with statement | statement
  · exact Int.le_refl _
  · have later : (execute P (.inr statement) w).2.clock =
        (statement.changes w.surroundings).clock :=
      congrArg clock (surroundings_execute P statement w)
    rw [later]
    cases statement with
    | elapse period => exact Int.le_add_of_nonneg_right (Int.natCast_nonneg period)
    | _ => exact Int.le_refl _

theorem directory_execute :
    (execute P stmt w).2.directory = w.directory ∨
      (∃ write, stmt = .inr (.administer write) ∧
        (execute P stmt w).2.directory = write.apply w.directory) ∨
      ∃ uid, stmt = .inr (.deleteUserRecords uid) ∧
        (execute P stmt w).2.directory = w.directory.withoutUser uid := by
  rcases stmt with stmt | stmt
  · exact .inl rfl
  have later : (execute P (.inr stmt) w).2.directory = (stmt.changes w.surroundings).directory :=
    congrArg directory (surroundings_execute P stmt w)
  rw [later]
  cases stmt with
  | administer write => exact .inr (.inl ⟨write, rfl, rfl⟩)
  | deleteUserRecords uid =>
    dsimp only [Statement.changes]
    split
    · exact .inr (.inr ⟨uid, rfl, rfl⟩)
    · exact .inl rfl
  | _ => exact .inl rfl

theorem userId_ticket_execute (stmt : Approvals.Statement) (db : Approvals.Db) (tid : Uuid) :
    ((Approvals.execute stmt db).2.tickets.find? tid).map (·.userId) =
      (db.tickets.find? tid).map (·.userId) := by
  have changes : ∀ p change, ((db.tickets.update p (Approvals.Ticket.changeUses change)
        (Approvals.Ticket.id_changeUses change)).find? tid).map (·.userId) =
          (db.tickets.find? tid).map (·.userId) := by
    intro p change
    rw [find?_update]
    cases db.tickets.find? tid with
    | none => rfl
    | some ticket =>
      rw [map_some]
      split <;> rfl
  cases stmt with
  | spendTicket spent | refundTicket refunded => exact changes _ _
  | _ => rfl

theorem ticket_withoutTickets (around : Surroundings) (p : Approvals.Ticket → Bool) (tid : Uuid) :
    (around.withoutTickets p).approvals.tickets.find? tid = around.approvals.tickets.find? tid ∨
      (around.withoutTickets p).approvals.tickets.find? tid = none ∧
        (around.approvals.tickets.find? tid).any p = true := by
  dsimp only [withoutTickets]
  split
  · rw [find?_delete]
    cases found : around.approvals.tickets.find? tid with
    | none => exact .inl rfl
    | some ticket => grind
  · exact .inl rfl

theorem ticket_execute (tid : Uuid) :
    ((execute P stmt w).2.approvals.tickets.find? tid).map (·.userId) =
        (w.approvals.tickets.find? tid).map (·.userId) ∨
      (execute P stmt w).2.approvals.tickets.find? tid = none ∧
        (stmt = .inr (.deleteTicket tid) ∨ ∃ uid, stmt = .inr (.deleteUserRecords uid) ∧
            (w.approvals.tickets.find? tid).map (·.userId) = some uid) := by
  rcases stmt with stmt | stmt
  · exact .inl (userId_ticket_execute stmt w.approvals tid)
  have later : (execute P (.inr stmt) w).2.approvals = (stmt.changes w.surroundings).approvals :=
    congrArg approvals (surroundings_execute P stmt w)
  rw [later]
  cases stmt with
  | deleteTicket deleted =>
    rcases ticket_withoutTickets w.surroundings (fun ticket => ticket.id = deleted) tid with
      same | ⟨gone, matched⟩
    · exact .inl (congrArg _ same)
    · obtain ⟨ticket, found, its⟩ := (any_eq_true _ _).mp matched
      have k : ticket.id = tid := key_of_find? found
      simp only [decide_eq_true_eq, k] at its
      exact .inr ⟨gone, .inl (its ▸ rfl)⟩
  | deleteUserRecords uid =>
    rcases ticket_withoutTickets w.surroundings (fun ticket => ticket.userId = uid)
      tid with same | ⟨gone, matched⟩
    · exact .inl (congrArg _ same)
    · obtain ⟨ticket, found, its⟩ := (any_eq_true _ _).mp matched
      refine .inr ⟨gone, .inr ⟨uid, rfl, ?_⟩⟩
      rw [show w.approvals.tickets.find? tid = some ticket from found]
      simpa using its
  | _ => exact .inl rfl

end Warpgate.Sessions
