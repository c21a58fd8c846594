/-
This file translates the functions that close and store sessions, and the way to an admitted one.
-/

import Warpgate.Sessions.Statements

namespace Warpgate.Sessions

open Concurrent
open Auth (AuthStateUserInfo Primitives IpAddr RememberApprovalBy WebApprovalMatchKey plain)
open Access (Target TargetAuthorization ApprovedTarget AdmittedTarget)
open Approvals (Key Request NewRequest ApprovalDecision Advertised)

abbrev Action (Result : Type) := Program AnyStatement AnyStatement.Outcome Result

abbrev act (statement : Statement) : Action statement.Outcome :=
  Program.perform (Sum.inr statement) Program.done

abbrev inquire (question : Question) : Action question.Answer := act (.read question)

abbrev ask {Result : Type} (program : Approvals.Query Result) : Action Result := program.lift

abbrev Completion := Except WarpgateError Unit

/-! ### Closing sessions -/

def settle (id : UserSessionId) : Action Unit := do
  let now ← inquire .now
  ask (Approvals.abandonRequestsForSession id now)

def revoke (id : UserSessionId) : Action Completion := do
  match ← act (.revoke id) with
  | none => pure (.error .databaseError)
  | some () =>
    settle id
    pure (.ok ())

def markEndedIncludingTargetSessions (id : UserSessionId) : Action Unit := do
  act (.markEnded id)
  settle id

def revokeEach : List UserSessionId → Action Completion
  | [] => pure (.ok ())
  | id :: ids => do
    match ← revoke id with
    | .error error => pure (.error error)
    | .ok () => revokeEach ids

def revokeOpenMatching (filter : SessionsFilter) : Action Completion := do
  match ← inquire (.openMatching filter) with
  | none => pure (.error .databaseError)
  | some ids => revokeEach ids

def closeSessions (filter : SessionsFilter) : Action Completion :=
  revokeOpenMatching filter

variable (nodeId : NodeId)

def closeAdmittedSessions (ids : List UserSessionId) : Action Unit := do
  if ids = [] then pure ()
  else
    match ← closeSessions (.sessions ids) with
    | .ok () => pure ()
    | .error _ => act (.pushCloses nodeId ids)

def deleteTicketClosingSessions (ticketId : Uuid) : Action Completion := do
  match ← act (.deleteTicket ticketId) with
  | none => pure (.error .databaseError)
  | some admitted =>
    closeAdmittedSessions nodeId admitted
    pure (.ok ())

def closeSessionsOfExpiredTickets : Action Completion := do
  match ← inquire .admittedByExpiredTickets with
  | none => pure (.error .databaseError)
  | some admitted =>
    closeAdmittedSessions nodeId admitted
    pure (.ok ())

def deleteUser (userId : Uuid) : Action Completion := do
  match ← inquire (.findUser userId) with
  | none => pure (.error .databaseError)
  | some none => pure (.error .userNotFound)
  | some (some user) =>
    match ← closeSessions (.user user.id) with
    | .error error => pure (.error error)
    | .ok () =>
      match ← act (.deleteUserRecords user.id) with
      | none => pure (.error .databaseError)
      | some () => pure (.ok ())

def stillAuthorised (userId targetId : Uuid) : Action Bool := do
  pure ((← inquire (.authorizeTargetById userId targetId)).getD false)

def recheckRows : List (UserSessionId × Option Uuid × Uuid) → List ((Uuid × Uuid) × Bool) →
    List UserSessionId → Action (List UserSessionId)
  | [], _, ids => pure ids
  | (_, none, _) :: rows, verdicts, ids => recheckRows rows verdicts ids
  | (sessionId, some userId, targetId) :: rows, verdicts, ids =>
    match verdicts.lookup (userId, targetId) with
    | some authorized => recheckRows rows verdicts (if authorized then ids else ids ++ [sessionId])
    | none => do
      let authorized ← stillAuthorised userId targetId
      recheckRows rows (((userId, targetId), authorized) :: verdicts)
        (if authorized then ids else ids ++ [sessionId])

def closeUnauthorised (change : AccessChange) (named : Option Uuid) : Action Completion := do
  match ← inquire (.openTicketless change named) with
  | none => pure (.error .databaseError)
  | some rows =>
    let ids ← recheckRows rows [] []
    if ids = [] then pure (.ok ())
    else closeSessions (.sessions (sortedSessions ids).dedup)

def tryCloseSessionsNoLongerAuthorised (change : AccessChange) : Action Completion :=
  match change with
  | .username username => do
    match ← inquire (.findUserByName username) with
    | none => pure (.error .databaseError)
    | some none => pure (.ok ())
    | some (some user) => closeUnauthorised change (some user.id)
  | .users _ | .targets _ | .all => closeUnauthorised change none

def closeSessionsNoLongerAuthorised (change : AccessChange) : Action Unit := do
  match ← tryCloseSessionsNoLongerAuthorised change with
  | .ok () => inquire (.rechecked change)
  | .error _ => act (.pushChange nodeId change)

def retryChanges (nodeId : NodeId) : List AccessChange → Action Unit
  | [] => pure ()
  | change :: changes => do
    closeSessionsNoLongerAuthorised nodeId change
    retryChanges nodeId changes

def retryEach (nodeId : NodeId) : List UserSessionId → Action Unit
  | [] => pure ()
  | id :: ids => do
    match ← closeSessions (.sessions [id]) with
    | .ok () => retryEach nodeId ids
    | .error _ =>
      act (.pushCloses nodeId [id])
      retryEach nodeId ids

def retryChunks (nodeId : NodeId) : List (List UserSessionId) → Action Unit
  | [] => pure ()
  | chunk :: chunks => do
    match ← closeSessions (.sessions chunk) with
    | .ok () => retryChunks nodeId chunks
    | .error _ =>
      retryEach nodeId chunk
      retryChunks nodeId chunks

def closeRetryChunk : Nat := 100

def chunksOf {Element : Type} (size : Nat) (elements : List Element) : List (List Element) :=
  (List.range ((elements.length + size - 1) / size)).map fun index =>
    (elements.drop (index * size)).take size

def retryPendingCloses : Action Unit := do
  let ids ← act (.takeCloses nodeId)
  retryChunks nodeId (chunksOf closeRetryChunk ids)

def retryPendingRevocations : Action Unit := do
  retryChanges nodeId (← act (.takeChanges nodeId))
  retryPendingCloses nodeId

variable (since : Option OffsetDateTime)

def closeSessionsOfExpiredRoleAssignments (now : OffsetDateTime) : Action Completion := do
  match ← inquire (.expiredRoleAssignments since now) with
  | none => pure (.error .databaseError)
  | some users =>
    if users = [] then pure (.ok ())
    else
      closeSessionsNoLongerAuthorised nodeId (.users users)
      pure (.ok ())

def expiryTick : Action (Option OffsetDateTime) := do
  let _ ← closeSessionsOfExpiredTickets nodeId
  retryPendingRevocations nodeId
  let now ← inquire .now
  match ← closeSessionsOfExpiredRoleAssignments nodeId since now with
  | .ok () => pure (some now)
  | .error _ => pure since

def expirySweep (nodeId : NodeId) : Nat → Option OffsetDateTime → Action Unit
  | 0, _ => pure ()
  | ticks + 1, since => do expirySweep nodeId ticks (← expiryTick nodeId since)

def sharedSessionOrphanGrace : Duration := 300 * 1000000000

def reap (live : List NodeId) : Action Completion := do
  let bound ← if live = [] then pure (.ok ()) else revokeOpenMatching (.connectionBound live)
  match bound with
  | .error error => pure (.error error)
  | .ok () =>
    let now ← inquire .now
    match ← revokeOpenMatching (.withoutCookie (now - sharedSessionOrphanGrace)) with
    | .error error => pure (.error error)
    | .ok () =>
      act .endChildrenOfEndedParents
      pure (.ok ())

/-! ### Browser sessions -/

def loadRow (id : String) : Option HttpSession → Action (Option Entries)
  | none => pure none
  | some row => do
    let now ← inquire .now
    if row.expires.any (· ≤ now) then pure none
    else
      act (.recordLoaded nodeId id)
      pure (some row.data)

def loadSession (id : String) : Action (Option Entries) := do
  loadRow nodeId id (← inquire (.findHttpSession id))

def removeStoredRow (id : String) (onlyIfExpired : Option (OffsetDateTime × Duration)) :
    Action Unit := do
  match ← act (.removeStoredRow id onlyIfExpired) with
  | none => pure ()
  | some ended => settle ended

def removeSession (id : String) : Action Unit := removeStoredRow id none

inductive Handling
  | unchanged
  | changed (entries : Entries)
  | renewed (newId : String) (entries : Entries)
  | purged
  deriving DecidableEq, Repr

def serveRequest (id freshId : String) (expires : Option Duration)
    (handling : Handling) : Action Unit := do
  match ← loadSession nodeId id with
  | none =>
    match handling with
    | .changed entries | .renewed _ entries =>
      act (.updateSession nodeId freshId entries expires)
    | .unchanged | .purged => pure ()
  | some _ =>
    match handling with
    | .unchanged => pure ()
    | .changed entries => act (.updateSession nodeId id entries expires)
    | .renewed newId entries =>
      act (.deleteHttpSession id)
      removeSession id
      act (.updateSession nodeId newId entries expires)
    | .purged => removeSession id

def removeExpired (now : OffsetDateTime) (maxAge : Duration) : List HttpSession → Action Unit
  | [] => pure ()
  | row :: rows => do
    removeStoredRow row.id (some (now, maxAge))
    removeExpired now maxAge rows

def gc (maxAge : Duration) : Action Unit := do
  let now ← inquire .now
  removeExpired now maxAge (← inquire (.expiredHttpSessions now maxAge))

def touch (ids : List UserSessionId) : Action Unit :=
  if ids = [] then pure () else act (.touch ids)

structure SsoReturn where
  nodeId : NodeId
  storedId : Option String
  newId : String
  expires : Option Duration
  handle : Handle
  replacement : UserSessionId
  user : AuthStateUserInfo
  accepted : Bool
  provider : String
  subject : String
  sid : Option String
  deriving DecidableEq, Repr

namespace SsoReturn

variable (login : SsoReturn)

def entries (sessionId : UserSessionId) : Entries where
  sessionId := some sessionId
  ssoLoginState := some ⟨login.provider, some login.subject, login.sid⟩

def load : Action (Option String) :=
  match login.storedId with
  | none => pure none
  | some id => do
    let loaded ← loadSession login.nodeId id
    pure (loaded.map fun _ => id)

def writeBack (sessionId : UserSessionId) : Action Unit := do
  match login.storedId with
  | none => pure ()
  | some id =>
    act (.deleteHttpSession id)
    removeSession id
  act (.updateSession login.nodeId login.newId (login.entries sessionId) login.expires)

def complete : Action Completion := do
  let loadedId ← login.load
  if login.accepted then
    match ← act (.setUserInfo login.handle login.user) with
    | .ok () =>
      login.writeBack login.handle.userSessionId
      pure (.ok ())
    | .error .userSessionAlreadyAttributed =>
      markEndedIncludingTargetSessions login.handle.userSessionId
      act (.register login.replacement .http none)
      let replaced : Handle := { login.handle with userSessionId := login.replacement }
      match ← act (.setUserInfo replaced login.user) with
      | .ok () =>
        login.writeBack login.replacement
        pure (.ok ())
      | .error error => pure (.error error)
    | .error error => pure (.error error)
  else
    act (.updateSession login.nodeId (loadedId.getD login.newId)
      (login.entries login.handle.userSessionId) login.expires)
    pure (.ok ())

end SsoReturn

def ssoBackchannelLogout (provider : String) (subject sid : Option String) :
    Action Completion := do
  match ← inquire (.ssoSessions provider subject sid) with
  | none => pure (.error .databaseError)
  | some ids => if ids = [] then pure (.ok ()) else closeSessions (.sessions ids)

/-! ### The approval gate -/

structure GatedConnection where
  remoteIp : Option IpAddr
  credentials : RememberApprovalBy
  deriving DecidableEq

structure ApprovalSubject where
  sessionId : UserSessionId
  userInfo : AuthStateUserInfo
  protocol : Protocol
  targetName : String
  remoteIp : Option IpAddr
  rememberBy : RememberApprovalBy
  ticketId : Option Uuid
  deriving DecidableEq

def GatedConnection.subjectFor (connection : GatedConnection) (sessionId : UserSessionId)
    (authorization : TargetAuthorization) : ApprovalSubject where
  sessionId := sessionId
  userInfo := authorization.userInfo
  protocol := authorization.protocol
  targetName := authorization.target.name
  remoteIp := connection.remoteIp
  rememberBy := connection.credentials
  ticketId := authorization.ticketId

namespace ApprovalSubject

def key (subject : ApprovalSubject) : Key := ⟨subject.sessionId, .admin, subject.targetName⟩

def matchKey (primitives : Primitives) (subject : ApprovalSubject) : Option WebApprovalMatchKey :=
  subject.remoteIp.bind fun remoteIp =>
    WebApprovalMatchKey.build primitives .admin remoteIp subject.protocol subject.userInfo.username
      subject.targetName subject.rememberBy

def request (primitives : Primitives) (nodeId : NodeId) (now : OffsetDateTime)
    (subject : ApprovalSubject) : NewRequest where
  sessionId := subject.sessionId
  target := subject.targetName
  nodeId := nodeId
  protocol := subject.protocol.name
  username := subject.userInfo.username
  userId := subject.userInfo.id
  remoteAddress := subject.remoteIp.map primitives.ipToString
  matchDigest := (subject.matchKey primitives).map (·.identity.digest primitives)
  started := now
  about := .admin subject.ticketId

end ApprovalSubject

inductive GateOutcome
  | approved (target : ApprovedTarget)
  | refused
  | expired
  deriving DecidableEq, Repr

inductive PolledGate
  | approved (target : ApprovedTarget)
  | refused
  | pending
  deriving DecidableEq, Repr

inductive DecisionWaitOutcome
  | decided (decision : ApprovalDecision)
  | ended
  | timedOut
  deriving DecidableEq, Repr

variable (primitives : Primitives)

def adminApprovalIsRemembered (subject : ApprovalSubject) : Action Bool := do
  match subject.matchKey primitives with
  | none => pure false
  | some key =>
    match ← ask Approvals.adminApprovalGracePeriod with
    | none => pure false
    | some grace =>
      let now ← inquire .now
      ask (Approvals.approvalIsRemembered primitives key grace now)

def announceAdminRequest (nodeId : NodeId) (subject : ApprovalSubject) : Action Advertised := do
  let now ← inquire .now
  ask (Approvals.upsertRequest (subject.request primitives nodeId now))

def closeTimedOut (subject : ApprovalSubject) : Action Bool := do
  let now ← inquire .now
  ask (Approvals.closeRequest subject.sessionId .admin subject.targetName .timedOut now)

def findRow (subject : ApprovalSubject) : Action (Option Request) :=
  ask (Approvals.query (.findRow subject.key))

def rowDecision (subject : ApprovalSubject) : Action (Option ApprovalDecision) := do
  match ← findRow subject with
  | none => pure none
  | some row =>
    match Approvals.rowState row with
    | .decided decision => pure (some decision)
    | .pending | .ended => pure none

def awaitRowDecision (subject : ApprovalSubject) : Nat → Action DecisionWaitOutcome
  | 0 => pure .timedOut
  | polls + 1 => do
    match ← findRow subject with
    | none => pure .ended
    | some row =>
      match Approvals.rowState row with
      | .pending => awaitRowDecision subject polls
      | .decided decision => pure (.decided decision)
      | .ended => pure .ended

def gateOutcome (authorization : TargetAuthorization) : ApprovalDecision → GateOutcome
  | .approved _ => .approved ⟨authorization⟩
  | .rejected => .refused

def requireAdminApproval (nodeId : NodeId)
    (authorization : TargetAuthorization) (subject : ApprovalSubject) (polls : Nat) :
    Action GateOutcome := do
  if !authorization.target.requireApproval then pure (.approved ⟨authorization⟩)
  else if ← adminApprovalIsRemembered primitives subject then pure (.approved ⟨authorization⟩)
  else
    match ← announceAdminRequest primitives nodeId subject with
    | .ticketExhausted => pure .refused
    | .asked | .alreadyAdvertised =>
      -- the timeout only bounds the number of polls
      let _ ← ask Approvals.adminApprovalTimeout
      match ← awaitRowDecision subject polls with
      | .decided decision => pure (gateOutcome authorization decision)
      | .timedOut =>
        if ← closeTimedOut subject then pure .expired
        else
          -- a decision landed between the last poll and the close
          match ← rowDecision subject with
          | some decision => pure (gateOutcome authorization decision)
          | none => pure .expired
      | .ended => pure .expired

def pollAgain (nodeId : NodeId) (subject : ApprovalSubject) : Action PolledGate := do
  match ← announceAdminRequest primitives nodeId subject with
  | .ticketExhausted => pure .refused
  | .asked | .alreadyAdvertised => pure .pending

def pollAdminApproval (nodeId : NodeId)
    (authorization : TargetAuthorization) (subject : ApprovalSubject) : Action PolledGate := do
  if !authorization.target.requireApproval then pure (.approved ⟨authorization⟩)
  else if ← adminApprovalIsRemembered primitives subject then pure (.approved ⟨authorization⟩)
  else
    match ← findRow subject with
    | none => pollAgain primitives nodeId subject
    | some row =>
      match Approvals.rowState row with
      | .ended => pollAgain primitives nodeId subject
      | .pending =>
        let window ← ask Approvals.adminApprovalTimeout
        let now ← inquire .now
        if (window : Int) ≤ now - row.started then
          let _ ← closeTimedOut subject
          pollAgain primitives nodeId subject
        else pure .pending
      | .decided decision =>
        let now ← inquire .now
        ask (Approvals.markConsumed subject.key now)
        match decision with
        | .approved _ => pure (.approved ⟨authorization⟩)
        | .rejected => pure .refused

/-! ### Connections -/

inductive TargetSessionStart
  | started (target : AdmittedTarget)
  | needsApproval (authorization : TargetAuthorization)
  deriving DecidableEq, Repr

def openTargetSessionRow (handle : Handle) (preferredId : TargetSessionId)
    (approved : ApprovedTarget) : Action (Except WarpgateError AdmittedTarget) := do
  match ← act (.openOrLookup preferredId handle.userSessionId approved.authorization) with
  | .error error => pure (.error error)
  | .ok outcome => pure (.ok ⟨outcome.row.id, approved⟩)

def needsTargetApproval (handle : Handle) (target : Target) : Action Bool := do
  if !target.requireApproval then pure false
  else pure (!(← inquire (.isOpen handle.userSessionId target.id)))

def startTargetSession (handle : Handle) (preferredId : TargetSessionId)
    (authorization : TargetAuthorization) : Action (Except WarpgateError TargetSessionStart) := do
  match ← act (.stamp handle authorization) with
  | .error error => pure (.error error)
  | .ok () =>
    if ← needsTargetApproval handle authorization.target then
      pure (.ok (.needsApproval authorization))
    else
      match ← openTargetSessionRow handle preferredId ⟨authorization⟩ with
      | .error error => pure (.error error)
      | .ok admitted => pure (.ok (.started admitted))

def registerApprovedTargetSession (handle : Handle) (preferredId : TargetSessionId)
    (approved : ApprovedTarget) : Action (Except WarpgateError AdmittedTarget) := do
  match ← act (.stamp handle approved.authorization) with
  | .error error => pure (.error error)
  | .ok () => openTargetSessionRow handle preferredId approved

inductive Basis
  | roles
  | granted (ticketId : Option Uuid)
  deriving DecidableEq, Repr

inductive Way
  | wait
  | gate
  | poll
  deriving DecidableEq, Repr

structure Connection where
  handle : Handle
  userInfo : AuthStateUserInfo
  targetId : Uuid
  basis : Basis
  way : Way
  gated : GatedConnection
  preferredId : TargetSessionId
  polls : Nat
  deriving DecidableEq

namespace Connection

variable (connection : Connection)

def subject (authorization : TargetAuthorization) : ApprovalSubject :=
  connection.gated.subjectFor connection.handle.userSessionId authorization

def authorize : Action (Option TargetAuthorization) := do
  match ← inquire (.findTarget connection.targetId) with
  | none => pure none
  | some target =>
    match connection.basis with
    | .granted ticketId =>
      pure (some ⟨connection.userInfo, target, connection.handle.protocol, ticketId⟩)
    | .roles =>
      if ← stillAuthorised connection.userInfo.id target.id then
        pure (some ⟨connection.userInfo, target, connection.handle.protocol, none⟩)
      else pure none

def register (approved : Option ApprovedTarget) :
    Action (Except WarpgateError (Option AdmittedTarget)) := do
  match approved with
  | none => pure (.ok none)
  | some approved =>
    match ← registerApprovedTargetSession connection.handle connection.preferredId approved with
    | .error error => pure (.error error)
    | .ok admitted => pure (.ok (some admitted))

def waitAtGate (primitives : Primitives) (connection : Connection)
    (authorization : TargetAuthorization) : Action (Option ApprovedTarget) := do
  match ← requireAdminApproval primitives connection.handle.nodeId authorization
      (connection.subject authorization) connection.polls with
  | .approved approved => pure (some approved)
  | .refused | .expired => pure none

def pollGate (primitives : Primitives) (connection : Connection)
    (authorization : TargetAuthorization) : Action (Option ApprovedTarget) := do
  match ← pollAdminApproval primitives connection.handle.nodeId authorization
      (connection.subject authorization) with
  | .approved approved => pure (some approved)
  | .refused | .pending => pure none

def startOr (authorization : TargetAuthorization)
    (gate : TargetAuthorization → Action (Option ApprovedTarget)) :
    Action (Except WarpgateError (Option AdmittedTarget)) := do
  match ← startTargetSession connection.handle connection.preferredId authorization with
  | .error error => pure (.error error)
  | .ok (.started admitted) => pure (.ok (some admitted))
  | .ok (.needsApproval authorization) => connection.register (← gate authorization)

def proceed (primitives : Primitives) (connection : Connection)
    (authorization : TargetAuthorization) :
    Action (Except WarpgateError (Option AdmittedTarget)) :=
  match connection.way with
  | .wait => connection.startOr authorization (connection.waitAtGate primitives)
  | .poll => connection.startOr authorization (connection.pollGate primitives)
  | .gate => do connection.register (← connection.waitAtGate primitives authorization)

def connect (primitives : Primitives) (connection : Connection) :
    Action (Except WarpgateError (Option AdmittedTarget)) := do
  match ← connection.authorize with
  | none => pure (.ok none)
  | some authorization => connection.proceed primitives authorization

end Connection

/-! ### The system -/

inductive Task
  | approvals (task : Approvals.Task)
  | connect (connection : Connection)
  | elapse (period : Duration)
  | setReachable (reachable : Bool)
  | setParameters (parameters : Approvals.Parameters)
  | administer (write : Access.Change)
  | register (id : UserSessionId) (protocol : Protocol) (nodeId : Option NodeId)
  | login (handle : Handle) (user : AuthStateUserInfo)
  | endSession (id : UserSessionId)
  | closeSessions (filter : SessionsFilter)
  | changeAccess (nodeId : NodeId) (change : AccessChange)
  | closeAdmitted (nodeId : NodeId) (ids : List UserSessionId)
  | expirySweep (nodeId : NodeId) (ticks : Nat)
  | deleteTicket (nodeId : NodeId) (ticketId : Uuid)
  | deleteUser (userId : Uuid)
  | reap (live : List NodeId)
  | request (nodeId : NodeId) (id freshId : String) (expires : Option Duration)
      (handling : Handling)
  | gc (maxAge : Duration)
  | touch (ids : List UserSessionId)
  | ssoReturn (login : SsoReturn)
  | ssoLogout (provider : String) (subject sid : Option String)
  deriving DecidableEq

def completing (program : Action Unit) : Action Completion := do
  program
  pure (.ok ())

def Task.program : Task → Action Completion
  | approvals task => completing (ask task.program)
  | connect connection => do
    match ← connection.connect primitives with
    | .error error => pure (.error error)
    | .ok _ => pure (.ok ())
  | elapse period => completing (act (.elapse period))
  | setReachable reachable => completing (act (.setReachable reachable))
  | setParameters parameters => completing (act (.setParameters parameters))
  | administer write => completing (act (.administer write))
  | register id protocol nodeId => completing (act (.register id protocol nodeId))
  | login handle user => act (.setUserInfo handle user)
  | endSession id => completing (markEndedIncludingTargetSessions id)
  | closeSessions filter => Sessions.closeSessions filter
  | changeAccess nodeId change => completing (closeSessionsNoLongerAuthorised nodeId change)
  | closeAdmitted nodeId ids => completing (closeAdmittedSessions nodeId ids)
  | expirySweep nodeId ticks => completing (Sessions.expirySweep nodeId ticks none)
  | deleteTicket nodeId ticketId => deleteTicketClosingSessions nodeId ticketId
  | deleteUser userId => Sessions.deleteUser userId
  | reap live => Sessions.reap live
  | request nodeId id freshId expires handling =>
    completing (serveRequest nodeId id freshId expires handling)
  | gc maxAge => completing (Sessions.gc maxAge)
  | touch ids => completing (Sessions.touch ids)
  | ssoReturn returned => returned.complete
  | ssoLogout provider subject sid => ssoBackchannelLogout provider subject sid

def system : System Task AnyStatement AnyStatement.Outcome World Completion where
  program := Task.program primitives
  execute := execute primitives

abbrev State := Config Task AnyStatement AnyStatement.Outcome World Completion

def World.fresh (directory : Access.Directory)
    (tickets : Sql.Table Approvals.Ticket Approvals.Ticket.id) : World where
  approvals := { tickets := tickets, requests := .empty, parameters := ⟨none, none, none⟩ }
  directory := directory
  userSessions := .empty
  targetSessions := .empty
  httpSessions := .empty
  attributed := fun _ _ => none
  recentlyLoaded := fun _ => ⟨[], [], 0⟩
  pendingRevocations := fun _ => ⟨[], []⟩
  clock := 0
  reachable := true

def alice : AuthStateUserInfo := ⟨7, "alice"⟩

def database : Access.Target where
  id := 5
  name := "db"
  protocol := .ssh
  isPublic := false
  requireApproval := false

def aliceHasRole : Access.Directory where
  users := (Sql.Table.empty.insert alice).2
  targets := (Sql.Table.empty.insert database).2
  userRoles := (Sql.Table.empty.insert ⟨7, 3, none, none⟩).2
  targetRoles := [⟨5, 3⟩]

def aliceConnects (sessionId : UserSessionId) (basis : Basis) : Connection where
  handle := ⟨sessionId, .ssh, 0⟩
  userInfo := alice
  targetId := 5
  basis := basis
  way := .wait
  gated := ⟨none, .nothing⟩
  preferredId := 100
  polls := 1

open Option Sql.Table World AnyStatement

variable {world w : World}

section

/-! ### What holds in every run -/

def World.HasEnded (world : World) (id : UserSessionId) : Prop :=
  ∃ row, world.userSessions.find? id = some row ∧ row.isOpen = false

variable {id : UserSessionId}

theorem World.HasEnded.not_live (ended : w.HasEnded id) : w.isLive id = false := by
  obtain ⟨r, found, closed⟩ := ended
  simp [isLive, found, closed]

theorem World.hasEnded_of_not_live (present : w.userSessions.find? id ≠ none)
    (ended : w.isLive id = false) : w.HasEnded id := by
  obtain ⟨r, found⟩ := ne_none_iff_exists'.mp present
  exact ⟨r, found, by simpa [isLive, found] using ended⟩

variable (P : Primitives) (statement stmt : AnyStatement)

theorem hasEnded_execute (ended : w.HasEnded id) : (execute P stmt w).2.HasEnded id := by
  obtain ⟨r, found, closed⟩ := ended
  have step := userSession_step P stmt w id
  rw [found] at step
  generalize later : (execute P stmt w).2.userSessions.find? id = stored at step
  cases step with
  | same => exact ⟨r, later, closed⟩
  | assigned stmt r uid attributes unowned => exact ⟨r.assign uid, later, closed⟩
  | finished stmt r wasOpen => exact ⟨_, later, rfl⟩

theorem userSession_present (present : w.userSessions.find? id ≠ none) :
    (execute P statement w).2.userSessions.find? id ≠ none := by
  have step := userSession_step P statement w id
  generalize w.userSessions.find? id = prev at step present
  generalize (execute P statement w).2.userSessions.find? id = later at step
  cases step with
  | same => exact present
  | registered | assigned | finished => exact some_ne_none _

def World.Sound (world : World) : Prop :=
  ∀ row ∈ world.targetSessions.rows, row.isOpen = true → world.isLive row.userSessionId = true

def World.Childless (world : World) (id : UserSessionId) : Prop :=
  ∀ row ∈ world.targetSessions.rows, row.userSessionId = id → row.isOpen = false

theorem World.Sound.childless (sound : w.Sound) (ended : w.isLive id = false) : w.Childless id := by
  rintro r mem rfl
  by_contra isOpen
  rw [sound r mem (by simpa using isOpen)] at ended
  cases ended

theorem isLive_markEnded_of_ne (w : World) {ended id : UserSessionId} (other : id ≠ ended) :
    (w.markEnded ended).isLive id = w.isLive id := by
  unfold markEnded
  split
  · simp only [isLive, find?_update]
    cases found : w.userSessions.find? id with
    | none => rfl
    | some r =>
      have same : r.id ≠ ended := key_of_find? found ▸ other
      simp [same]
  · rfl

theorem childless_markEnded (w : World) (live : w.isLive id = true) :
    (w.markEnded id).Childless id := by
  intro r mem its
  rw [markEnded, if_pos live] at mem
  obtain ⟨old, -, changed⟩ := List.mem_map.mp mem
  by_cases ends : old.userSessionId = id ∧ old.isOpen = true
  · rw [if_pos (by simpa using ends)] at changed
    rw [← changed]
    rfl
  · grind

theorem sound_markEnded (sound : w.Sound) (id : UserSessionId) : (w.markEnded id).Sound := by
  by_cases live : w.isLive id = true
  · intro r mem isOpen
    have other : r.userSessionId ≠ id := by
      intro its
      rw [childless_markEnded w live r mem its] at isOpen
      cases isOpen
    rw [isLive_markEnded_of_ne w other]
    rcases targetSession_markEnded w id r.key with same | ⟨old, -, -, -, fin⟩
    · rw [find?_of_mem mem] at same
      exact sound r (mem_of_find? same.symm) isOpen
    · rw [find?_of_mem mem, some.injEq] at fin
      rw [fin] at isOpen
      cases isOpen
  · rw [markEnded, if_neg live]
    exact sound

theorem isLive_or_childless (live : w.isLive id = true) :
    (execute P stmt w).2.isLive id = true ∨ (execute P stmt w).2.Childless id := by
  rcases stmt with stmt | stmt
  · exact .inl live
  let keeps : World → Prop := fun post => post.isLive id = true ∨ post.Childless id
  have marks : ∀ (marked : World) ended, marked.isLive id = true →
      keeps (marked.markEnded ended) := by
    intro marked ended live
    by_cases same : id = ended
    · subst same
      exact .inr (childless_markEnded marked live)
    · exact .inl ((isLive_markEnded_of_ne marked same).trans live)
  have attributes : ∀ handle user, keeps (w.setUserInfoIn handle user).2 := by
    intro handle user
    refine .inl ?_
    obtain ⟨r, found, isOpen⟩ := (any_eq_true _ _).mp live
    rcases userSession_setUserInfoIn w handle user id with
      same | ⟨old, stored, -, -, assigned⟩
    · rw [isLive, same, found]
      exact isOpen
    · rw [found, some.injEq] at stored
      subst stored
      rw [isLive, assigned]
      exact isOpen
  cases stmt with
  | register newId protocol nid =>
    obtain ⟨stored, found, isOpen⟩ := (any_eq_true _ _).mp live
    refine .inl ?_
    show ((w.userSessions.insert (.starting newId protocol nid w.clock)).2.find? id).any
      UserSession.isOpen = true
    rw [find?_insert, found]
    simpa using isOpen
  | setUserInfo handle user => exact attributes handle user
  | stamp handle auth =>
    exact stamp_rec (motive := keeps) w handle auth (.inl live) (attributes handle auth.userInfo)
  | openOrLookup pid sid auth =>
    show keeps (w.openOrLookup pid sid auth).2
    rcases openOrLookup_cases w pid sid auth with
      ⟨error, refused⟩ | ⟨-, -, out, done⟩
    · rw [refused]
      exact .inl live
    · rw [done]
      exact .inl live
  | markEnded ended => exact marks w ended live
  | revoke ended =>
    exact transact_rec (motive := keeps) w _ () (.inl live) (marks w ended live)
  | deleteTicket tid | deleteUserRecords uid =>
    exact transact_rec (motive := keeps) w _ _ (.inl live) (.inl live)
  | updateSession nid storageId entries exp =>
    exact updateSession_rec (motive := keeps) w nid storageId entries exp
      (.inl live) fun _ => .inl live
  | removeStoredRow storageId lim =>
    exact removeStoredRow_rec (motive := keeps) w storageId lim (.inl live)
      (.inl live) fun ended => marks _ ended live
  | _ => exact .inl live

theorem sound_execute (sound : w.Sound) : (execute P stmt w).2.Sound := by
  intro r mem isOpen
  have parent : ∀ id, r.userSessionId = id → w.isLive id = true →
      (execute P stmt w).2.isLive r.userSessionId = true := by
    rintro id rfl live
    rcases isLive_or_childless P stmt live with still | childless
    · exact still
    · rw [childless r mem rfl] at isOpen
      cases isOpen
  have step := targetSession_step P stmt w r.key
  rw [find?_of_mem mem] at step
  generalize found : w.targetSessions.find? r.key = prev at step
  cases step with
  | same => exact parent _ rfl (sound r (mem_of_find? found) isOpen)
  | opened pid sid auth live valid => exact parent sid rfl live
  | finished stmt old wasOpen orphaned => cases isOpen
  | forgotten stmt old tid deletes carried deleted =>
    exact parent _ rfl (sound old (mem_of_find? found) isOpen)

structure World.Closed (world : World) (id : UserSessionId) : Prop where
  ended : world.HasEnded id
  unnamed : ∀ row ∈ world.httpSessions.rows, row.userSessionId ≠ some id
  childless : world.Childless id

theorem closed_execute (closed : w.Closed id) : (execute P stmt w).2.Closed id where
  ended := hasEnded_execute P stmt closed.ended
  unnamed := by
    intro r mem
    have unlive := closed.ended.not_live
    have step := httpSession_step P stmt w r.id
    rw [find?_of_mem mem] at step
    generalize found : w.httpSessions.find? r.id = earlier at step
    cases step with
    | same => exact closed.unnamed r (mem_of_find? found)
    | stored r nodeId storageId entries expires live present =>
      intro named
      rw [live id named] at unlive
      cases unlive
    | touched stmt old => exact closed.unnamed old (mem_of_find? found)
  childless := by
    intro r mem its
    have step := targetSession_step P stmt w r.key
    rw [find?_of_mem mem] at step
    generalize found : w.targetSessions.find? r.key = earlier at step
    cases step with
    | same => exact closed.childless r (mem_of_find? found) its
    | opened preferredId sid authorization live valid =>
      have same : sid = id := its
      rw [same, closed.ended.not_live] at live
      cases live
    | finished stmt old wasOpen orphaned => rfl
    | forgotten stmt old ticketId deletes carried deleted =>
      exact closed.childless old (mem_of_find? found) its

theorem closed_revoke (sound : w.Sound) (present : w.userSessions.find? id ≠ none) :
    (w.revoke id).Closed id where
  ended := by
    refine hasEnded_of_not_live ?_ (isLive_markEnded w id)
    obtain ⟨r, found⟩ := ne_none_iff_exists'.mp present
    show (w.markEnded id).userSessions.find? id ≠ none
    rcases userSession_markEnded w id id with same | ⟨_, -, -, fin⟩
    · rw [same]
      exact present
    · rw [fin]
      exact some_ne_none _
  unnamed := by
    intro r mem
    simpa using (List.mem_filter.mp mem).2
  childless := (sound_markEnded sound id).childless (isLive_markEnded w id)

/-- In every run, whatever is done by whom after the revocation of a session has committed, no
stored browser session names it and no target session of it is open. -/
theorem revoked_login_stays_closed (primitives : Primitives) (world : World) (sound : world.Sound)
    (first rest : List (Move Task)) (move : Move Task) (task : Task) (id : UserSessionId) :
    let reached : State := (Config.initial world).run (system primitives) first
    let later := (reached.step (system primitives) move).run (system primitives) rest
    reached.performed (system primitives) move = some (task, .inr (.revoke id)) →
    reached.state.reachable = true → reached.state.userSessions.find? id ≠ none →
    (∀ r ∈ later.state.httpSessions.rows, r.userSessionId ≠ some id) ∧
      ∀ r ∈ later.state.targetSessions.rows, r.userSessionId = id → r.isOpen = false := by
  intro reached later revokes up present
  have post : (reached.step (system primitives) move).state = reached.state.revoke id := by
    rw [Config.state_step (system primitives) revokes]
    show (reached.state.transact () (reached.state.revoke id)).2 = _
    rw [transact, if_pos up]
  have closed : (reached.step (system primitives) move).state.Closed id := by
    rw [post]
    refine closed_revoke ?_ present
    exact Config.run_state_invariant World.Sound
      (fun statement _ => sound_execute primitives statement) _ first sound
  have still : later.state.Closed id := Config.run_state_invariant (fun s => World.Closed s id)
      (fun statement _ => closed_execute primitives statement) _ rest closed
  exact ⟨still.unnamed, still.childless⟩

def writeBacksAfterRevocation : List (Move Task) × List (Move Task) :=
  ([.start (.register 1 .ssh (some 0)), .advance 0,
    .start (.request 0 "" "a" none (.changed ⟨some 1, none⟩)), .advance 1, .advance 1,
    .start (.connect (aliceConnects 1 .roles)), .advance 2, .advance 2, .advance 2, .advance 2,
    .start (.request 0 "a" "b" none (.changed ⟨some 1, none⟩)), .advance 3, .advance 3, .advance 3,
    .start (.request 1 "c" "d" none (.changed ⟨some 1, none⟩)), .advance 4,
    .start (.closeSessions .all), .advance 5],
   [.advance 3, .advance 4, .start (.connect (aliceConnects 1 .roles)), .advance 6, .advance 6,
    .advance 6, .advance 6])

theorem revoked_login_stays_closed_write_backs :
    let reached : State := (Config.initial (World.fresh aliceHasRole .empty)).run (system plain)
        writeBacksAfterRevocation.1
    let later := (reached.step (system plain) (.advance 5)).run (system plain)
      writeBacksAfterRevocation.2
    (reached.state.httpSessions.rows.length = 1 ∧ reached.state.isOpen 1 5 = true) ∧
      (∀ r ∈ later.state.httpSessions.rows, r.userSessionId ≠ some 1) ∧
        ∀ r ∈ later.state.targetSessions.rows, r.userSessionId = 1 → r.isOpen = false :=
  ⟨by decide +kernel, revoked_login_stays_closed plain (fresh aliceHasRole .empty)
      (fun _ mem => (by cases mem)) writeBacksAfterRevocation.1 writeBacksAfterRevocation.2
      (.advance 5) (.closeSessions .all) 1
      (by decide +kernel) (by decide +kernel) (by decide +kernel)⟩

/-- What stays of a login whatever happens: where and when it began, whose it is once it is
somebody's, and when it ended once it has. -/
def UserSession.Lasts (earlier later : Option UserSession) : Prop :=
  ∀ row ∈ earlier, ∃ last ∈ later, last.protocol = row.protocol ∧ last.nodeId = row.nodeId ∧
    last.started = row.started ∧ (∀ userId ∈ row.userId, last.userId = some userId) ∧
    ∀ ended ∈ row.ended, last.ended = some ended

theorem UserSession.Lasts.execute {earlier : Option UserSession}
    (lasts : Lasts earlier (w.userSessions.find? id)) :
    Lasts earlier ((Sessions.execute P stmt w).2.userSessions.find? id) := by
  intro r found
  obtain ⟨last, stored, sameProtocol, sameNode, sameStart, owned, ended⟩ := lasts r found
  have step := userSession_step P stmt w id
  rw [stored] at step
  generalize (Sessions.execute P stmt w).2.userSessions.find? id = later at step
  cases step with
  | same => grind
  | assigned stmt last uid attributes unowned =>
    refine ⟨_, rfl, sameProtocol, sameNode, sameStart, fun user isUser => ?_, ended⟩
    rw [owned user isUser, all_some, decide_eq_true_eq] at unowned
    exact congrArg some unowned.symm
  | finished stmt last wasOpen =>
    refine ⟨_, rfl, sameProtocol, sameNode, sameStart, owned, fun time wasEnded => ?_⟩
    rw [UserSession.isOpen, ended time wasEnded] at wasOpen
    cases wasOpen

/-- In every run a login keeps where and when it began, its owner and its end. -/
theorem user_session_lasts (primitives : Primitives) (config : State) (moves : List (Move Task))
    (id : UserSessionId) : UserSession.Lasts (config.state.userSessions.find? id)
      ((config.run (system primitives) moves).state.userSessions.find? id) :=
  Config.run_state_invariant
    (fun s => UserSession.Lasts (config.state.userSessions.find? id) (s.userSessions.find? id))
    (fun stmt _ lasts => lasts.execute primitives stmt) config moves
    fun r found => ⟨r, found, rfl, rfl, rfl, fun _ same => same, fun _ same => same⟩

/-- A target session is open while its login is, and its login outlasts it in the table. -/
def World.Tied (world : World) : Prop :=
  ∀ row ∈ world.targetSessions.rows, (row.isOpen = true → world.isLive row.userSessionId = true) ∧
    (row.isOpen = false → world.HasEnded row.userSessionId)

theorem World.Tied.execute (tied : w.Tied) : (Sessions.execute P stmt w).2.Tied := by
  intro r mem
  have sound : w.Sound := fun r mem => (tied r mem).1
  refine ⟨sound_execute P stmt sound r mem, fun closed => ?_⟩
  have step := targetSession_step P stmt w r.key
  rw [find?_of_mem mem] at step
  generalize found : w.targetSessions.find? r.key = prev at step
  cases step with
  | same => exact hasEnded_execute P stmt ((tied r (mem_of_find? found)).2 closed)
  | opened pid sid auth live valid => cases closed
  | finished stmt old wasOpen orphaned =>
    -- its login was open until now, so that it is still there
    have live := sound old (mem_of_find? found) wasOpen
    refine hasEnded_of_not_live (userSession_present P stmt fun absent => ?_) orphaned
    rw [isLive, show w.userSessions.find? old.userSessionId = none from absent] at live
    cases live
  | forgotten stmt old tid deletes carried deleted =>
    exact hasEnded_execute P _ ((tied old (mem_of_find? found)).2 closed)

/-- In every run that begins without target sessions, each is open only while its login is. -/
theorem target_session_is_tied_to_its_login (primitives : Primitives) (world : World)
    (moves : List (Move Task)) :
    ((Config.initial { world with targetSessions := .empty }).run (system primitives)
      moves : State).state.Tied :=
  Config.run_state_invariant World.Tied (fun stmt _ tied => tied.execute primitives stmt) _ moves
    fun _ mem => (by cases mem)

end

variable {Result : Type}

theorem World.whenReachable_cases (w : World) (res : Result) :
    w.whenReachable res = none ∨ w.whenReachable res = some res := by
  unfold whenReachable
  cases w.reachable with
  | true => exact .inr rfl
  | false => exact .inl rfl

theorem execute_revoke_cases (P : Primitives) (id : UserSessionId) (w : World) :
    execute P (.inr (.revoke id)) w = (none, w) ∨
      execute P (.inr (.revoke id)) w = (some (), w.revoke id) :=
  (w.transact_cases (w.revoke id) ()).imp And.left And.left

theorem mem_openMatching {p : SessionsFilter} {id : UserSessionId} :
    id ∈ w.openMatching p ↔ ∃ r, w.userSessions.find? id = some r ∧ r.isOpen = true ∧
        p.selects w r = true := by
  simp only [openMatching, List.mem_map, mem_select, decide_eq_true_eq]
  constructor
  · rintro ⟨r, ⟨mem, matched⟩, rfl⟩
    exact ⟨r, find?_of_mem mem, matched⟩
  · rintro ⟨r, found, matched⟩
    exact ⟨r, ⟨mem_of_find? found, matched⟩, key_of_find? found⟩

theorem isLive_or_found (w : World) {ids : List UserSessionId} {id : UserSessionId}
    (named : id ∈ ids) : w.isLive id = false ∨ id ∈ w.openMatching (.sessions ids) := by
  cases live : w.isLive id with
  | false => exact .inl rfl
  | true =>
    obtain ⟨r, found, isOpen⟩ := (any_eq_true _ _).mp live
    have same : r.id = id := key_of_find? found
    exact .inr (mem_openMatching.mpr
      ⟨r, found, isOpen, by simpa [SessionsFilter.selects, same] using named⟩)

/-! ### Closing sessions next to other tasks -/

section

variable {P : Primitives} {assumed asm : AnyStatement → World → Prop} {rely : World → World → Prop}
  {refl : ∀ world, rely world world}
  {trans : ∀ first second third, rely first second → rely second third → rely first third}

abbrev MeetsNextTo (primitives : Primitives) (assumed : AnyStatement → World → Prop)
    (rely : World → World → Prop) (refl : ∀ world, rely world world)
    (trans : ∀ first second third, rely first second → rely second third → rely first third)
    {Result : Type}
    (ensures : History AnyStatement.Outcome → Result → World → Prop)
    (history : History AnyStatement.Outcome) (program : Action Result)
    (world : World) : Prop :=
  program.Meets (execute primitives) assumed (Contract.relying rely refl trans) ensures history
    world

variable {ensures : History AnyStatement.Outcome → Result → World → Prop}
  {history hist : History AnyStatement.Outcome}

theorem meets_act {stmt : Statement} {cont : stmt.Outcome → Action Result}
    (goesOn : ∀ later, rely w later → asm (.inr stmt) later →
      MeetsNextTo P asm rely refl trans ensures
        (⟨.inr stmt, (execute P (.inr stmt) later).1⟩ :: hist)
        (cont (execute P (.inr stmt) later).1) (execute P (.inr stmt) later).2) :
    MeetsNextTo P asm rely refl trans ensures hist (act stmt >>= cont) w :=
  fun later relied here => ⟨trivial, goesOn later relied here⟩

theorem meets_inquire {q : Question} {cont : q.Answer → Action Result}
    (goesOn : ∀ later, rely w later → asm (.inr (.read q)) later →
      MeetsNextTo P asm rely refl trans ensures (⟨.inr (.read q), q.answer P later⟩ :: hist)
        (cont (q.answer P later)) later) :
    MeetsNextTo P asm rely refl trans ensures hist (inquire q >>= cont) w :=
  fun later relied here => ⟨trivial, goesOn later relied here⟩

def AnyStatement.Closes : AnyStatement → Prop
  | .inl _ => True
  | .inr (.read _) => True
  | .inr (.revoke _) => True
  | _ => False

variable {gone : World → Prop} {id : UserSessionId}

structure Closable (primitives : Primitives) (rely : World → World → Prop) (gone : World → Prop)
    (id : UserSessionId) : Prop where
  others : ∀ world later, rely world later → gone world → gone later
  own : ∀ statement world, AnyStatement.Closes statement → gone world →
    gone (execute primitives statement world).2
  ends : ∀ world, world.isLive id = false → gone world

theorem settle_closes (ended : UserSessionId) : (settle ended).Performs Closes :=
  ⟨trivial, fun _ => (Program.performs_true _).lift⟩

theorem revoke_closes (revoked : UserSessionId) : (revoke revoked).Performs Closes := by
  refine ⟨trivial, fun out => ?_⟩
  cases out with
  | none => trivial
  | some done => exact (settle_closes revoked).bind fun _ => trivial

theorem revokeEach_closes (ids : List UserSessionId) : (revokeEach ids).Performs Closes := by
  induction ids with
  | nil => trivial
  | cons first ids ih =>
    refine (revoke_closes first).bind fun res => ?_
    cases res with
    | error error => trivial
    | ok done => exact ih

theorem closeSessions_closes (p : SessionsFilter) : (closeSessions p).Performs Closes := by
  refine ⟨trivial, fun listed => ?_⟩
  cases listed with
  | none => trivial
  | some ids => exact revokeEach_closes ids

variable (closable : Closable P rely gone id)
include closable

theorem meets_closes {prog : Action Result} (closes : prog.Performs Closes) (holds : gone world) :
    MeetsNextTo P assumed rely refl trans (fun _ _ reached => gone reached) history prog world :=
  Program.Performs.meets_keeps Closes gone
    (fun stmt state isClose _ => closable.own stmt state isClose) closable.others closes
    holds

theorem settle_meets (ended : UserSessionId) {listed : Prop} (holds : gone w ∨ listed) :
    MeetsNextTo P asm rely refl trans (fun _ _ reached => gone reached ∨ listed)
      hist (settle ended) w :=
  Program.Performs.meets_keeps Closes (fun reached => gone reached ∨ listed)
    (fun stmt s closes _ => Or.imp_left (closable.own stmt s closes))
    (fun s later relied => Or.imp_left (closable.others s later relied))
    (settle_closes ended) holds

theorem revoke_meets (revoked : UserSessionId)
    {listed : Prop} (holds : gone world ∨ id = revoked ∨ listed) :
    MeetsNextTo P assumed rely refl trans
      (fun _ result reached => result = .ok () → gone reached ∨ listed) history (revoke revoked)
      world := by
  refine meets_act fun later relied _ => ?_
  rcases execute_revoke_cases P revoked later with failed | done
  · rw [failed]
    exact fun ok => by cases ok
  · have after : gone (later.revoke revoked) ∨ listed := by
      rcases holds with already | rfl | listed
      · have kept := closable.own (.inr (.revoke revoked)) later trivial
          (closable.others world later relied already)
        rw [done] at kept
        exact .inl kept
      · exact .inl (closable.ends _ (isLive_markEnded later id))
      · exact .inr listed
    rw [done]
    exact (settle_meets closable revoked after).seq fun _ _ _ kept _ => kept

theorem revokeEach_meets (ids : List UserSessionId) (holds : gone w ∨ id ∈ ids) :
    MeetsNextTo P asm rely refl trans
      (fun _ res reached => res = .ok () → gone reached) hist (revokeEach ids) w := by
  induction ids generalizing w hist with
  | nil =>
    rcases holds with already | listed
    · exact fun _ => already
    · cases listed
  | cons first ids ih =>
    have split : gone w ∨ id = first ∨ id ∈ ids := by simpa using holds
    refine (revoke_meets closable first split).seq fun seen res reached post => ?_
    cases res with
    | error error => exact fun ok => by cases ok
    | ok done => exact ih (post rfl)

theorem closeSessions_meets (p : SessionsFilter)
    (finds : ∀ later, gone later ∨ id ∈ later.openMatching p) :
    MeetsNextTo P asm rely refl trans
      (fun _ res reached => res = .ok () → gone reached) hist (closeSessions p) world := by
  refine meets_inquire fun later _ _ => ?_
  have ans := later.whenReachable_cases (later.openMatching p)
  change (Question.openMatching p).answer P later = none ∨
    (Question.openMatching p).answer P later = some _ at ans
  rcases ans with failed | listed
  · rw [failed]
    exact fun ok => by cases ok
  · rw [listed]
    exact revokeEach_meets closable _ (finds later)

end

open Access (TargetAuthorization ApprovedTarget)

/-! ### What each program performs -/

def AnyStatement.takesOver : AnyStatement → Bool
  | .inr (.deleteTicket _) | .inr (.takeCloses _) | .inr (.takeChanges _) => true
  | _ => false

def AnyStatement.isRegistration : AnyStatement → Bool
  | .inr (.openOrLookup _ _ _) => true
  | _ => false

def AnyStatement.Ordinary (statement : AnyStatement) : Prop :=
  statement.takesOver = false ∧ statement.isRegistration = false

abbrev Action.Ordinary (program : Action Result) : Prop := program.Performs AnyStatement.Ordinary

theorem ask_ordinary (prog : Approvals.Query Result) : (ask prog).Ordinary :=
  Program.Performs.lift (prog.performs_true.imp fun _ _ => ⟨rfl, rfl⟩)

theorem inquire_ordinary (q : Question) : (inquire q).Ordinary :=
  ⟨⟨rfl, rfl⟩, fun _ => trivial⟩

theorem ordinary_of_closes {prog : Action Result}
    (closes : prog.Performs Closes) : prog.Ordinary := by
  refine closes.imp fun stmt isClose => ?_
  rcases stmt with stmt | stmt
  · exact ⟨rfl, rfl⟩
  · cases stmt <;> first | exact ⟨rfl, rfl⟩ | cases isClose

variable (id : UserSessionId) (nid : NodeId) (change : AccessChange) (ids : List UserSessionId)

theorem settle_ordinary : (settle id).Ordinary :=
  ordinary_of_closes (settle_closes id)

theorem markEndedIncludingTargetSessions_ordinary :
    (markEndedIncludingTargetSessions id).Ordinary :=
  ⟨⟨rfl, rfl⟩, fun _ => settle_ordinary id⟩

theorem closeSessions_ordinary (p : SessionsFilter) : (closeSessions p).Ordinary :=
  ordinary_of_closes (closeSessions_closes p)

theorem closeAdmittedSessions_ordinary : (closeAdmittedSessions nid ids).Ordinary := by
  unfold closeAdmittedSessions
  split
  · trivial
  · refine (closeSessions_ordinary (.sessions ids)).bind fun res => ?_
    cases res with
    | error error => exact ⟨⟨rfl, rfl⟩, fun _ => trivial⟩
    | ok done => trivial

theorem closeSessionsOfExpiredTickets_ordinary : (closeSessionsOfExpiredTickets nid).Ordinary := by
  refine (inquire_ordinary .admittedByExpiredTickets).bind fun admitted => ?_
  cases admitted with
  | none => trivial
  | some admitted => exact (closeAdmittedSessions_ordinary nid admitted).bind fun _ => trivial

theorem deleteUser_ordinary (uid : Uuid) : (deleteUser uid).Ordinary := by
  refine (inquire_ordinary (.findUser uid)).bind fun found => ?_
  rcases found with - | - | user
  · trivial
  · trivial
  · refine (closeSessions_ordinary (.user user.id)).bind fun res => ?_
    cases res with
    | error error => trivial
    | ok done =>
      refine ⟨⟨rfl, rfl⟩, fun out => ?_⟩
      cases out <;> trivial

theorem reap_ordinary (live : List NodeId) : (reap live).Ordinary := by
  unfold reap
  extract_lets rest
  have last : ∀ bound, (rest bound).Ordinary := by
    intro bound
    cases bound with
    | error error => trivial
    | ok done =>
      refine (inquire_ordinary .now).bind fun now => ?_
      refine (closeSessions_ordinary _).bind fun res => ?_
      cases res with
      | error error => trivial
      | ok done => exact ⟨⟨rfl, rfl⟩, fun _ => trivial⟩
  split
  · exact last (.ok ())
  · exact (closeSessions_ordinary _).bind last

theorem stillAuthorised_ordinary (uid tgt : Uuid) : (stillAuthorised uid tgt).Ordinary :=
  (inquire_ordinary (.authorizeTargetById uid tgt)).bind fun _ => trivial

theorem recheckRows_ordinary (rows : List (UserSessionId × Option Uuid × Uuid))
    (verdicts : List ((Uuid × Uuid) × Bool)) (ids : List UserSessionId) :
    (recheckRows rows verdicts ids).Ordinary := by
  induction rows generalizing verdicts ids with
  | nil => trivial
  | cons r rows ih =>
    obtain ⟨sid, uid, tgt⟩ := r
    cases uid with
    | none => exact ih verdicts ids
    | some uid =>
      unfold recheckRows
      split
      · exact ih _ _
      · exact (stillAuthorised_ordinary uid tgt).bind fun _ => ih _ _

theorem closeUnauthorised_ordinary (named : Option Uuid) :
    (closeUnauthorised change named).Ordinary := by
  refine (inquire_ordinary (.openTicketless change named)).bind fun listed => ?_
  cases listed with
  | none => trivial
  | some rows =>
    refine (recheckRows_ordinary rows [] []).bind fun ids => ?_
    split
    · trivial
    · exact closeSessions_ordinary _

theorem tryCloseSessionsNoLongerAuthorised_ordinary :
    (tryCloseSessionsNoLongerAuthorised change).Ordinary := by
  cases change with
  | username name =>
    refine (inquire_ordinary (.findUserByName name)).bind fun found => ?_
    rcases found with - | - | user
    · trivial
    · trivial
    · exact closeUnauthorised_ordinary _ _
  | _ => exact closeUnauthorised_ordinary _ _

theorem closeSessionsNoLongerAuthorised_ordinary :
    (closeSessionsNoLongerAuthorised nid change).Ordinary := by
  refine (tryCloseSessionsNoLongerAuthorised_ordinary change).bind fun res => ?_
  cases res with
  | error error => exact ⟨⟨rfl, rfl⟩, fun _ => trivial⟩
  | ok done => exact inquire_ordinary (.rechecked change)

theorem retryChanges_ordinary (changes : List AccessChange) :
    (retryChanges nid changes).Ordinary := by
  induction changes with
  | nil => trivial
  | cons change changes ih =>
    exact (closeSessionsNoLongerAuthorised_ordinary nid change).bind fun _ => ih

theorem retryEach_ordinary : (retryEach nid ids).Ordinary := by
  induction ids with
  | nil => trivial
  | cons id ids ih =>
    refine (closeSessions_ordinary (.sessions [id])).bind fun res => ?_
    cases res with
    | error error => exact ⟨⟨rfl, rfl⟩, fun _ => ih⟩
    | ok done => exact ih

theorem retryChunks_ordinary (chunks : List (List UserSessionId)) :
    (retryChunks nid chunks).Ordinary := by
  induction chunks with
  | nil => trivial
  | cons chunk chunks ih =>
    refine (closeSessions_ordinary (.sessions chunk)).bind fun res => ?_
    cases res with
    | error error => exact (retryEach_ordinary nid chunk).bind fun _ => ih
    | ok done => exact ih

theorem closeSessionsOfExpiredRoleAssignments_ordinary (since : Option OffsetDateTime)
    (now : OffsetDateTime) : (closeSessionsOfExpiredRoleAssignments nid since now).Ordinary := by
  refine (inquire_ordinary (.expiredRoleAssignments since now)).bind fun listed => ?_
  cases listed with
  | none => trivial
  | some users =>
    dsimp only
    split
    · trivial
    · exact (closeSessionsNoLongerAuthorised_ordinary nid _).bind fun _ => trivial

theorem loadSession_ordinary (id : String) : (loadSession nid id).Ordinary := by
  refine (inquire_ordinary (.findHttpSession id)).bind fun found => ?_
  cases found with
  | none => trivial
  | some r =>
    refine (inquire_ordinary .now).bind fun now => ?_
    split
    · trivial
    · exact ⟨⟨rfl, rfl⟩, fun _ => trivial⟩

theorem removeStoredRow_ordinary (id : String) (lim : Option (OffsetDateTime × Duration)) :
    (removeStoredRow id lim).Ordinary := by
  refine ⟨⟨rfl, rfl⟩, fun out => ?_⟩
  cases out with
  | none => trivial
  | some ended => exact settle_ordinary ended

theorem serveRequest_ordinary (id freshId : String) (exp : Option Duration) (handling : Handling) :
    (serveRequest nid id freshId exp handling).Ordinary := by
  refine (loadSession_ordinary nid id).bind fun loaded => ?_
  cases loaded with
  | none => cases handling <;> first | trivial | exact ⟨⟨rfl, rfl⟩, fun _ => trivial⟩
  | some entries =>
    cases handling with
    | unchanged => trivial
    | changed entries => exact ⟨⟨rfl, rfl⟩, fun _ => trivial⟩
    | renewed newId entries =>
      exact ⟨⟨rfl, rfl⟩, fun _ => (removeStoredRow_ordinary id none).bind fun _ =>
        ⟨⟨rfl, rfl⟩, fun _ => trivial⟩⟩
    | purged => exact removeStoredRow_ordinary id none

theorem gc_ordinary (age : Duration) : (gc age).Ordinary := by
  refine (inquire_ordinary .now).bind fun now => ?_
  refine (inquire_ordinary (.expiredHttpSessions now age)).bind fun rows => ?_
  induction rows with
  | nil => trivial
  | cons r rows ih => exact (removeStoredRow_ordinary r.id _).bind fun _ => ih

theorem touch_ordinary : (touch ids).Ordinary := by
  unfold touch
  split
  · trivial
  · exact ⟨⟨rfl, rfl⟩, fun _ => trivial⟩

theorem SsoReturn.writeBack_ordinary (login : SsoReturn) (sid : UserSessionId) :
    (login.writeBack sid).Ordinary := by
  unfold SsoReturn.writeBack
  split
  · exact ⟨⟨rfl, rfl⟩, fun _ => trivial⟩
  · exact ⟨⟨rfl, rfl⟩, fun _ => (removeStoredRow_ordinary _ none).bind fun _ =>
      ⟨⟨rfl, rfl⟩, fun _ => trivial⟩⟩

theorem SsoReturn.complete_ordinary (login : SsoReturn) : login.complete.Ordinary := by
  have load : login.load.Ordinary := by
    unfold SsoReturn.load
    split
    · trivial
    · exact (loadSession_ordinary _ _).bind fun _ => trivial
  refine load.bind fun loadedId => ?_
  split
  · refine ⟨⟨rfl, rfl⟩, fun res => ?_⟩
    rcases res with error | done
    · cases error with
      | userSessionAlreadyAttributed =>
        refine (markEndedIncludingTargetSessions_ordinary _).bind fun _ => ?_
        refine ⟨⟨rfl, rfl⟩, fun _ => ⟨⟨rfl, rfl⟩, fun res => ?_⟩⟩
        rcases res with error | done
        · trivial
        · exact (login.writeBack_ordinary _).bind fun _ => trivial
      | _ => trivial
    · exact (login.writeBack_ordinary _).bind fun _ => trivial
  · exact ⟨⟨rfl, rfl⟩, fun _ => trivial⟩

theorem ssoBackchannelLogout_ordinary (prov : String) (subj sid : Option String) :
    (ssoBackchannelLogout prov subj sid).Ordinary := by
  refine (inquire_ordinary (.ssoSessions prov subj sid)).bind fun listed => ?_
  cases listed with
  | none => trivial
  | some ids =>
    dsimp only
    split
    · trivial
    · exact closeSessions_ordinary _

section Gate

variable (P : Primitives) (nid : NodeId) (auth : TargetAuthorization) (subj : ApprovalSubject)

theorem adminApprovalIsRemembered_ordinary : (adminApprovalIsRemembered P subj).Ordinary := by
  unfold adminApprovalIsRemembered
  split
  · trivial
  · refine (ask_ordinary _).bind fun grace => ?_
    cases grace with
    | none => trivial
    | some grace => exact (inquire_ordinary .now).bind fun _ => ask_ordinary _

theorem announceAdminRequest_ordinary : (announceAdminRequest P nid subj).Ordinary :=
  (inquire_ordinary .now).bind fun _ => ask_ordinary _

theorem closeTimedOut_ordinary : (closeTimedOut subj).Ordinary :=
  (inquire_ordinary .now).bind fun _ => ask_ordinary _

theorem findRow_ordinary : (findRow subj).Ordinary := ask_ordinary _

theorem rowDecision_ordinary : (rowDecision subj).Ordinary := by
  refine (findRow_ordinary subj).bind fun found => ?_
  cases found with
  | none => trivial
  | some r =>
    dsimp only
    split <;> trivial

theorem awaitRowDecision_ordinary (polls : Nat) : (awaitRowDecision subj polls).Ordinary := by
  induction polls with
  | zero => trivial
  | succ polls ih =>
    refine (findRow_ordinary subj).bind fun found => ?_
    cases found with
    | none => trivial
    | some r =>
      dsimp only
      split
      · exact ih
      · trivial
      · trivial

theorem requireAdminApproval_ordinary (polls : Nat) :
    (requireAdminApproval P nid auth subj polls).Performs Ordinary := by
  unfold requireAdminApproval
  split
  · trivial
  refine (adminApprovalIsRemembered_ordinary P subj).bind fun remembered => ?_
  split
  · trivial
  refine (announceAdminRequest_ordinary P nid subj).bind fun adv => ?_
  cases adv
  case ticketExhausted => trivial
  all_goals
    refine (ask_ordinary _).bind fun _ => ?_
    refine (awaitRowDecision_ordinary subj polls).bind fun waited => ?_
    cases waited with
    | decided dec | ended => trivial
    | timedOut =>
      refine (closeTimedOut_ordinary subj).bind fun closed => ?_
      split
      · trivial
      · refine (rowDecision_ordinary subj).bind fun dec => ?_
        cases dec <;> trivial

theorem pollAgain_ordinary : (pollAgain P nid subj).Ordinary := by
  refine (announceAdminRequest_ordinary P nid subj).bind fun adv => ?_
  cases adv <;> trivial

theorem pollAdminApproval_ordinary : (pollAdminApproval P nid auth subj).Performs Ordinary := by
  unfold pollAdminApproval
  split
  · trivial
  refine (adminApprovalIsRemembered_ordinary P subj).bind fun remembered => ?_
  split
  · trivial
  refine (findRow_ordinary subj).bind fun found => ?_
  cases found with
  | none => exact pollAgain_ordinary P nid subj
  | some r =>
    dsimp only
    split
    · exact pollAgain_ordinary P nid subj
    · refine (ask_ordinary _).bind fun window => (inquire_ordinary .now).bind fun now => ?_
      split
      · exact (closeTimedOut_ordinary subj).bind fun _ => pollAgain_ordinary P nid subj
      · trivial
    · refine (inquire_ordinary .now).bind fun now => (ask_ordinary _).bind fun _ => ?_
      split <;> trivial

end Gate

section Connections

variable (P : Primitives)

def AnyStatement.LeavesQueues (statement : AnyStatement) : Prop := statement.takesOver = false

theorem leavesQueues_of_ordinary {prog : Action Result}
    (ordinary : prog.Ordinary) : prog.Performs LeavesQueues :=
  ordinary.imp fun _ isOrdinary => isOrdinary.1

variable (handle : Handle) (pid : TargetSessionId) (conn : Connection) (auth : TargetAuthorization)

theorem openTargetSessionRow_leavesQueues (approved : ApprovedTarget) :
    (openTargetSessionRow handle pid approved).Performs LeavesQueues := by
  refine ⟨rfl, fun out => ?_⟩
  cases out <;> trivial

theorem needsTargetApproval_ordinary (target : Access.Target) :
    (needsTargetApproval handle target).Ordinary := by
  unfold needsTargetApproval
  split
  · trivial
  · exact (inquire_ordinary _).bind fun _ => trivial

theorem startTargetSession_leavesQueues :
    (startTargetSession handle pid auth).Performs LeavesQueues := by
  refine ⟨rfl, fun stamped => ?_⟩
  cases stamped with
  | error error => trivial
  | ok done =>
    have asks := needsTargetApproval_ordinary handle auth.target
    refine (leavesQueues_of_ordinary asks).bind fun needed => ?_
    split
    · trivial
    · refine (openTargetSessionRow_leavesQueues handle pid _).bind fun opened => ?_
      cases opened <;> trivial

theorem Connection.register_leavesQueues (approved : Option ApprovedTarget) :
    (conn.register approved).Performs LeavesQueues := by
  cases approved with
  | none => trivial
  | some approved =>
    refine ⟨rfl, fun stamped => ?_⟩
    cases stamped with
    | error error => trivial
    | ok done =>
      refine (openTargetSessionRow_leavesQueues conn.handle _ approved).bind fun opened => ?_
      cases opened <;> trivial

theorem Connection.waitAtGate_ordinary : (conn.waitAtGate P auth).Ordinary := by
  refine (requireAdminApproval_ordinary P _ _ _ _).bind fun out => ?_
  cases out <;> trivial

theorem Connection.pollGate_ordinary : (conn.pollGate P auth).Ordinary := by
  refine (pollAdminApproval_ordinary P _ _ _).bind fun out => ?_
  cases out <;> trivial

theorem Connection.startOr_leavesQueues
    {gate : TargetAuthorization → Action (Option ApprovedTarget)}
    (ordinary : ∀ auth, (gate auth).Ordinary) : (conn.startOr auth gate).Performs LeavesQueues := by
  refine (startTargetSession_leavesQueues _ _ auth).bind fun started => ?_
  rcases started with error | admitted | waiting
  · trivial
  · trivial
  · exact (leavesQueues_of_ordinary (ordinary waiting)).bind fun approved =>
      conn.register_leavesQueues approved

theorem Connection.authorize_ordinary : conn.authorize.Ordinary := by
  refine (inquire_ordinary (.findTarget conn.targetId)).bind fun found => ?_
  cases found with
  | none => trivial
  | some target =>
    dsimp only
    split
    · trivial
    · refine (stillAuthorised_ordinary _ _).bind fun authorized => ?_
      split <;> trivial

theorem Connection.connect_leavesQueues : (conn.connect P).Performs LeavesQueues := by
  refine (leavesQueues_of_ordinary conn.authorize_ordinary).bind fun authorized => ?_
  cases authorized with
  | none => trivial
  | some auth =>
    dsimp only
    unfold Connection.proceed
    split
    · exact conn.startOr_leavesQueues auth (conn.waitAtGate_ordinary P)
    · exact conn.startOr_leavesQueues auth (conn.pollGate_ordinary P)
    · exact (leavesQueues_of_ordinary (conn.waitAtGate_ordinary P auth)).bind fun approved =>
          conn.register_leavesQueues approved

end Connections

theorem completing_ordinary {prog : Action Unit} (ordinary : prog.Ordinary) :
    (completing prog).Ordinary :=
  ordinary.bind fun _ => trivial

theorem Task.program_cases (P : Primitives) (t : Task) :
    (t.program P).Ordinary ∨ (∃ conn, t = .connect conn ∧ (t.program P).Performs LeavesQueues) ∨
      (∃ nid ticks, t = .expirySweep nid ticks) ∨ ∃ nid tid, t = .deleteTicket nid tid := by
  cases t with
  | connect conn =>
    refine .inr (.inl ⟨conn, rfl, ?_⟩)
    refine (conn.connect_leavesQueues P).bind fun res => ?_
    cases res <;> trivial
  | expirySweep nid ticks => exact .inr (.inr (.inl ⟨nid, ticks, rfl⟩))
  | deleteTicket nid tid => exact .inr (.inr (.inr ⟨nid, tid, rfl⟩))
  | approvals t => exact .inl (completing_ordinary (ask_ordinary _))
  | endSession id =>
    exact .inl (completing_ordinary (markEndedIncludingTargetSessions_ordinary id))
  | closeSessions p => exact .inl (closeSessions_ordinary p)
  | changeAccess nid change =>
    exact .inl (completing_ordinary (closeSessionsNoLongerAuthorised_ordinary nid change))
  | closeAdmitted nid ids =>
    exact .inl (completing_ordinary (closeAdmittedSessions_ordinary nid ids))
  | deleteUser uid => exact .inl (deleteUser_ordinary uid)
  | reap live => exact .inl (reap_ordinary live)
  | request nid id freshId exp handling =>
    exact .inl (completing_ordinary (serveRequest_ordinary nid id freshId exp handling))
  | gc age => exact .inl (completing_ordinary (gc_ordinary age))
  | touch ids => exact .inl (completing_ordinary (touch_ordinary ids))
  | ssoReturn returned => exact .inl returned.complete_ordinary
  | ssoLogout prov subj sid => exact .inl (ssoBackchannelLogout_ordinary prov subj sid)
  | _ => exact .inl ⟨⟨rfl, rfl⟩, fun _ => trivial⟩

end Warpgate.Sessions
