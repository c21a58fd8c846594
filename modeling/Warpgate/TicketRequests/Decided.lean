/-
This file models self-service ticket requests: each is decided at most once.
-/

import Warpgate.Basic
import Warpgate.Concurrent.Locks
import Warpgate.Sql.Table

namespace Warpgate.TicketRequests

open Concurrent

section

inductive TicketRequestStatus
  | pending
  | approved
  | denied
  deriving DecidableEq, Repr

/-! ### Requests and tickets -/

structure TicketRequest where
  id : Uuid
  userId : Uuid
  targetId : Uuid
  requestedDurationSeconds : Option Int
  description : String
  status : TicketRequestStatus
  resolvedByUserId : Option Uuid
  ticketId : Option Uuid
  created : OffsetDateTime
  resolvedAt : Option OffsetDateTime
  denyReason : Option String
  deriving DecidableEq, Repr

def TicketRequest.isPending (userId targetId : Uuid) (request : TicketRequest) : Bool :=
  request.userId = userId && request.targetId = targetId && request.status = .pending

structure Ticket where
  id : Uuid
  secretHash : String
  userId : Uuid
  targetId : Uuid
  created : OffsetDateTime
  expiry : Option OffsetDateTime
  usesLeft : Option Int
  description : String
  selfService : Bool
  deriving DecidableEq, Repr

structure Target where
  id : Uuid
  name : String
  ticketMaxDurationSeconds : Option Int
  ticketRequestsDisabled : Bool
  ticketRequireApproval : Bool
  ticketMaxUses : Option Int
  deriving DecidableEq, Repr

structure User where
  id : Uuid
  username : String
  deriving DecidableEq, Repr

structure Parameters where
  ticketSelfServiceEnabled : Bool
  ticketAutoApproveExistingAccess : Bool
  ticketMaxDurationSeconds : Option Int
  ticketMaxUses : Option Int
  ticketRequireDescription : Bool
  ticketRequestShowAllTargets : Bool
  deriving DecidableEq, Repr

structure World where
  requests : Sql.Table TicketRequest TicketRequest.id
  tickets : Sql.Table Ticket Ticket.id
  targets : Sql.Table Target Target.id
  users : Sql.Table User User.id
  policy : Parameters
  access : List (Uuid × Uuid)
  clock : OffsetDateTime
  drawn : List Uuid

structure World.Initial (world : World) : Prop where
  requests : world.requests = Sql.Table.empty

structure Draw where
  ticketId : Uuid
  secret : String
  secretHash : String
  deriving DecidableEq, Repr

structure NewTicket where
  draw : Draw
  userId : Uuid
  targetId : Uuid
  durationSeconds : Option Int
  uses : Option Int
  description : String
  deriving DecidableEq, Repr

def NewTicket.row (ticket : NewTicket) (now : OffsetDateTime) : Ticket where
  id := ticket.draw.ticketId
  secretHash := ticket.draw.secretHash
  userId := ticket.userId
  targetId := ticket.targetId
  created := now
  expiry := ticket.durationSeconds.map fun seconds => now + seconds * 1000000000
  usesLeft := ticket.uses
  description := ticket.description
  selfService := true

structure NewRequest where
  id : Uuid
  userId : Uuid
  targetId : Uuid
  durationSeconds : Option Int
  description : String
  deriving DecidableEq, Repr

def NewRequest.pending (request : NewRequest) (now : OffsetDateTime) : TicketRequest where
  id := request.id
  userId := request.userId
  targetId := request.targetId
  requestedDurationSeconds := request.durationSeconds
  description := request.description
  status := .pending
  resolvedByUserId := none
  ticketId := none
  created := now
  resolvedAt := none
  denyReason := none

def NewRequest.approved (request : NewRequest) (ticketId : Uuid) (now : OffsetDateTime) :
    TicketRequest :=
  { request.pending now with
    status := .approved
    ticketId := some ticketId
    resolvedAt := some now }

inductive Resolution
  | approve (adminUserId : Option Uuid)
  | deny (adminUserId : Option Uuid) (reason : Option String)
  deriving DecidableEq, Repr

def Resolution.status : Resolution → TicketRequestStatus
  | approve _ => .approved
  | deny _ _ => .denied

def Resolution.apply (now : OffsetDateTime) (request : TicketRequest) :
    Resolution → TicketRequest
  | approve adminUserId =>
    { request with
      status := .approved
      resolvedByUserId := adminUserId
      resolvedAt := some now }
  | deny adminUserId reason =>
    { request with
      status := .denied
      resolvedByUserId := adminUserId
      resolvedAt := some now
      denyReason := reason }

variable (reso : Resolution) (now : OffsetDateTime) (req : TicketRequest)

@[simp] theorem Resolution.id_apply : (reso.apply now req).id = req.id := by
  cases reso <;> rfl

@[simp] theorem Resolution.userId_apply : (reso.apply now req).userId = req.userId := by
  cases reso <;> rfl

@[simp] theorem Resolution.targetId_apply : (reso.apply now req).targetId = req.targetId := by
  cases reso <;> rfl

@[simp] theorem Resolution.ticketId_apply : (reso.apply now req).ticketId = req.ticketId := by
  cases reso <;> rfl

@[simp] theorem Resolution.status_apply : (reso.apply now req).status = reso.status := by
  cases reso <;> rfl

theorem Resolution.status_ne_pending : reso.status ≠ .pending := by
  intro same
  cases reso <;> cases same

inductive Removal
  | ticket (ticketId : Uuid)
  | target (targetId : Uuid)
  | user (userId : Uuid)
  | old (cutoff : OffsetDateTime) (activeTicketIds : List Uuid)
  deriving DecidableEq

inductive Change
  | writePolicy (policy : Parameters)
  | writeTarget (target : Target)
  | writeUser (user : User)
  | setAccess (access : List (Uuid × Uuid))
  | elapse (period : Duration)
  deriving DecidableEq

/-! ### Statements -/

inductive Statement
  | getParameters
  | findTargetByName (name : String)
  | authorizeTargetById (userId targetId : Uuid)
  | countPending (userId targetId : Uuid)
  | insertApproved (request : NewRequest) (ticket : NewTicket)
  | insertPending (request : NewRequest)
  | findPending (requestId : Uuid)
  | countUsers (userId : Uuid)
  | countTargets (targetId : Uuid)
  | resolve (requestId : Uuid) (resolution : Resolution)
  | findApproved (requestId userId : Uuid)
  | findTarget (targetId : Uuid)
  | findUser (userId : Uuid)
  | commitActivation (requestId userId : Uuid) (ticket : NewTicket)
  | findRequest (requestId : Uuid)
  | selectActiveTicketIds
  | remove (removal : Removal)
  | change (made : Change)
  deriving DecidableEq

inductive Claim
  | failed
  | lost
  | missing
  | won (request : TicketRequest)
  deriving DecidableEq, Repr

@[reducible] def Statement.Outcome : Statement → Type
  | getParameters => Parameters
  | findTargetByName _ => Option Target
  | authorizeTargetById _ _ => Bool
  | countPending _ _ => Nat
  | insertApproved _ _ => Option TicketRequest
  | insertPending _ => Option TicketRequest
  | findPending _ => Option TicketRequest
  | countUsers _ => Nat
  | countTargets _ => Nat
  | resolve _ _ => Option TicketRequest
  | findApproved _ _ => Option TicketRequest
  | findTarget _ => Option Target
  | findUser _ => Option User
  | commitActivation _ _ _ => Claim
  | findRequest _ => Option TicketRequest
  | selectActiveTicketIds => List Uuid
  | remove _ => Unit
  | change _ => Unit

namespace World

variable (world : World)

def countPending (userId targetId : Uuid) : Nat :=
  world.requests.matching (TicketRequest.isPending userId targetId)

def insertPending (request : NewRequest) : Option TicketRequest × World :=
  match world.requests.insert (request.pending world.clock) with
  | (false, _) => (none, world)
  | (true, requests) =>
    (some (request.pending world.clock),
      { world with requests := requests, drawn := request.id :: world.drawn })

def insertApproved (request : NewRequest) (ticket : NewTicket) : Option TicketRequest × World :=
  match world.tickets.insert (ticket.row world.clock),
      world.requests.insert (request.approved ticket.draw.ticketId world.clock) with
  | (true, tickets), (true, requests) =>
    (some (request.approved ticket.draw.ticketId world.clock),
      { world with
        tickets := tickets
        requests := requests
        drawn := request.id :: ticket.draw.ticketId :: world.drawn })
  | _, _ => (none, world)

def findPending (requestId : Uuid) : Option TicketRequest :=
  (world.requests.find? requestId).filter fun request => request.status = .pending

def resolve (requestId : Uuid) (resolution : Resolution) : Option TicketRequest × World :=
  ((world.requests.find? requestId).map (resolution.apply world.clock),
    { world with
      requests := world.requests.update (fun request => request.id = requestId)
        (fun request => resolution.apply world.clock request)
        fun request => resolution.id_apply world.clock request })

def findApproved (requestId userId : Uuid) : Option TicketRequest :=
  (world.requests.find? requestId).filter fun request =>
    request.userId = userId && request.status = .approved

def isClaimable (requestId userId : Uuid) (request : TicketRequest) : Bool :=
  request.id = requestId && request.userId = userId && request.status = .approved &&
    request.ticketId.isNone

def claim (requestId userId ticketId : Uuid) : Sql.Table TicketRequest TicketRequest.id :=
  world.requests.update (isClaimable requestId userId)
    (fun request => { request with ticketId := some ticketId }) fun _ => rfl

def commitActivation (requestId userId : Uuid) (ticket : NewTicket) : Claim × World :=
  match world.tickets.insert (ticket.row world.clock) with
  | (false, _) => (.failed, world)
  | (true, tickets) =>
    if world.requests.matching (isClaimable requestId userId) = 1 then
      match (world.claim requestId userId ticket.draw.ticketId).find? requestId with
      | none => (.missing, world)
      | some updated =>
        (.won updated,
          { world with
            tickets := tickets
            requests := world.claim requestId userId ticket.draw.ticketId
            drawn := ticket.draw.ticketId :: world.drawn })
    else (.lost, world)

def activeTicketIds : List Uuid :=
  (world.tickets.select fun ticket => ticket.expiry.all (world.clock < ·)).map Ticket.id

def remove : Removal → World
  | .ticket ticketId =>
    { world with
      requests := world.requests.delete fun request => request.ticketId = some ticketId
      tickets := world.tickets.delete fun ticket => ticket.id = ticketId }
  | .target targetId =>
    if (world.targets.find? targetId).isNone then world
    else
      { world with
        requests := world.requests.delete fun request => request.targetId = targetId
        tickets := world.tickets.delete fun ticket => ticket.targetId = targetId
        targets := world.targets.delete fun target => target.id = targetId }
  | .user userId =>
    { world with
      requests := world.requests.delete fun request =>
        request.userId = userId ||
          request.ticketId.any fun ticketId =>
            (world.tickets.find? ticketId).any fun ticket => ticket.userId = userId
      tickets := world.tickets.delete fun ticket => ticket.userId = userId
      users := world.users.delete fun user => user.id = userId }
  | .old cutoff activeTicketIds =>
    { world with
      requests := world.requests.delete fun request =>
        request.created < cutoff && request.ticketId.all (· ∉ activeTicketIds) }

def change : Change → World
  | .writePolicy policy => { world with policy := policy }
  | .writeTarget target => { world with targets := world.targets.upsert target }
  | .writeUser user => { world with users := world.users.upsert user }
  | .setAccess access => { world with access := access }
  | .elapse period => { world with clock := world.clock + period }

end World

def execute : (statement : Statement) → World → statement.Outcome × World
  | .getParameters, world => (world.policy, world)
  | .findTargetByName name, world =>
    (world.targets.rows.find? fun target => target.name = name, world)
  | .authorizeTargetById userId targetId, world =>
    (decide ((userId, targetId) ∈ world.access), world)
  | .countPending userId targetId, world => (world.countPending userId targetId, world)
  | .insertApproved request ticket, world => world.insertApproved request ticket
  | .insertPending request, world => world.insertPending request
  | .findPending requestId, world => (world.findPending requestId, world)
  | .countUsers userId, world => (world.users.matching fun user => user.id = userId, world)
  | .countTargets targetId, world =>
    (world.targets.matching fun target => target.id = targetId, world)
  | .resolve requestId resolution, world => world.resolve requestId resolution
  | .findApproved requestId userId, world => (world.findApproved requestId userId, world)
  | .findTarget targetId, world => (world.targets.find? targetId, world)
  | .findUser userId, world => (world.users.find? userId, world)
  | .commitActivation requestId userId ticket, world =>
    world.commitActivation requestId userId ticket
  | .findRequest requestId, world => (world.requests.find? requestId, world)
  | .selectActiveTicketIds, world => (world.activeTicketIds, world)
  | .remove removal, world => ((), world.remove removal)
  | .change made, world => ((), world.change made)

def Statement.draws : Statement → List Uuid
  | insertPending request => [request.id]
  | insertApproved request ticket => [request.id, ticket.draw.ticketId]
  | commitActivation _ _ ticket => [ticket.draw.ticketId]
  | _ => []

def Statement.ready (statement : Statement) (world : World) : Bool :=
  statement.draws.all (· ∉ world.drawn)

abbrev Action (Result : Type) := Program Statement Statement.Outcome Result

abbrev act (statement : Statement) : Action statement.Outcome :=
  Program.perform statement Program.done

inductive WarpgateError
  | userNotFound (userId : Uuid)
  | other (message : String)
  | database
  deriving DecidableEq, Repr

inductive CreateTicketRequestError
  | invalidInput (message : String)
  | internal (error : WarpgateError)
  deriving DecidableEq, Repr

inductive ActivateTicketRequestError
  | notFound
  | alreadyActivated
  | targetGone
  | internal (error : WarpgateError)
  deriving DecidableEq, Repr

structure TicketRequestResult where
  request : TicketRequest
  target : Target
  autoApprovedSecret : Option String
  deriving DecidableEq, Repr

structure ActivatedTicket where
  request : TicketRequest
  target : Target
  secret : String
  deriving DecidableEq, Repr

structure CreateTicketRequestParams where
  userId : Uuid
  targetName : String
  durationSeconds : Option Int
  description : String
  deriving DecidableEq, Repr

def isWhitespace (character : Char) : Bool :=
  let code := character.toNat
  (9 ≤ code && code ≤ 13) || code = 0x20 || code = 0x85 || code = 0xA0 || code = 0x1680 ||
    (0x2000 ≤ code && code ≤ 0x200A) || code = 0x2028 || code = 0x2029 || code = 0x202F ||
    code = 0x205F || code = 0x3000

def maxTextLength : Nat := 2000

variable (policy : Parameters)

def maxDurationSeconds (target : Target) : Option Int :=
  target.ticketMaxDurationSeconds.or policy.ticketMaxDurationSeconds

def maxUses (target : Target) : Option Int :=
  target.ticketMaxUses.or policy.ticketMaxUses

/-! ### Programs -/

def effectiveDuration (maxDuration : Option Int) :
    Option Int → Except String (Option Int)
  | some duration =>
    if duration ≤ 0 then .error "Duration must be a positive number"
    else if duration < 60 then .error "Minimum ticket duration is 60 seconds"
    else
      match maxDuration with
      | some limit =>
        if limit < duration then
          .error s!"Requested duration exceeds maximum of {limit} seconds"
        else .ok (some duration)
      | none => .ok (some duration)
  | none => .ok maxDuration

def checkRequest (target : Target) (hasAccess : Bool)
    (params : CreateTicketRequestParams) : Except String (Option Int) :=
  if !policy.ticketRequestShowAllTargets && !hasAccess then .error "Target not found"
  else if target.ticketRequestsDisabled then
    .error "Ticket requests are not allowed for this target"
  else if policy.ticketRequireDescription && params.description.toList.all isWhitespace then
    .error "A description is required for ticket requests"
  else if maxTextLength < params.description.length then
    .error "Description must be 2000 characters or fewer"
  else effectiveDuration (maxDurationSeconds policy target) params.durationSeconds

def autoApproves (target : Target) (hasAccess : Bool) : Bool :=
  hasAccess && policy.ticketAutoApproveExistingAccess && !target.ticketRequireApproval

variable (params : CreateTicketRequestParams) (requestId : Uuid)

def newRequest (target : Target) (duration : Option Int) : NewRequest where
  id := requestId
  userId := params.userId
  targetId := target.id
  durationSeconds := duration
  description := params.description

def newTicket (draw : Draw) (policy : Parameters)
    (target : Target) (duration : Option Int) : NewTicket where
  draw := draw
  userId := params.userId
  targetId := target.id
  durationSeconds := duration
  uses := maxUses policy target
  description := params.description

def storeRequest (request : NewRequest) (ticket : NewTicket) (target : Target)
    (autoApprove : Bool) : Action (Except CreateTicketRequestError TicketRequestResult) :=
  if autoApprove then do
    match ← act (.insertApproved request ticket) with
    | none => pure (.error (.internal .database))
    | some row => pure (.ok ⟨row, target, some ticket.draw.secret⟩)
  else do
    match ← act (.insertPending request) with
    | none => pure (.error (.internal .database))
    | some row => pure (.ok ⟨row, target, none⟩)

def createTicketRequest (draw : Draw) :
    Action (Except CreateTicketRequestError TicketRequestResult) := do
  let policy ← act .getParameters
  if !policy.ticketSelfServiceEnabled then
    pure (.error (.invalidInput "Self-service tickets are not enabled"))
  else
    match ← act (.findTargetByName params.targetName) with
    | none => pure (.error (.invalidInput "Target not found"))
    | some target => do
      let hasAccess ← act (.authorizeTargetById params.userId target.id)
      match checkRequest policy target hasAccess params with
      | .error message => pure (.error (.invalidInput message))
      | .ok duration => do
        let existingPending ← act (.countPending params.userId target.id)
        if 0 < existingPending then
          pure (.error (.invalidInput "You already have a pending request for this target"))
        else
          storeRequest (newRequest params requestId target duration)
            (newTicket params draw policy target duration) target
            (autoApproves policy target hasAccess)

def resolveRequest (resolution : Resolution) :
    Action (Except WarpgateError (Option TicketRequest)) := do
  match ← act (.resolve requestId resolution) with
  | none => pure (.error .database)
  | some updated => pure (.ok (some updated))

def approveTicketRequest (adminUserId : Option Uuid) :
    Action (Except WarpgateError (Option TicketRequest)) := do
  match ← act (.findPending requestId) with
  | none => pure (.ok none)
  | some request => do
    let users ← act (.countUsers request.userId)
    if users = 0 then pure (.error (.userNotFound request.userId))
    else
      let targets ← act (.countTargets request.targetId)
      if targets = 0 then pure (.error (.other "Target no longer exists"))
      else resolveRequest request.id (.approve adminUserId)

def truncateReason (reason : String) : String :=
  if maxTextLength < reason.length then String.ofList (reason.toList.take maxTextLength)
  else reason

def denyTicketRequest (adminUserId : Option Uuid) (reason : Option String) :
    Action (Except WarpgateError (Option TicketRequest)) := do
  match ← act (.findPending requestId) with
  | none => pure (.ok none)
  | some request => resolveRequest request.id (.deny adminUserId (reason.map truncateReason))

structure PreparedActivation where
  request : TicketRequest
  target : Target
  effectiveDuration : Option Int
  maxUses : Option Int
  username : String
  deriving DecidableEq, Repr

def recapDuration : Option Int → Option Int → Option Int
  | some duration, some limit => some (min duration limit)
  | some duration, none => some duration
  | none, limit => limit

def prepareActivation (requestId userId : Uuid) :
    Action (Except ActivateTicketRequestError PreparedActivation) := do
  match ← act (.findApproved requestId userId) with
  | none => pure (.error .notFound)
  | some request =>
    if request.ticketId.isSome then pure (.error .alreadyActivated)
    else
      match ← act (.findTarget request.targetId) with
      | none => pure (.error .targetGone)
      | some target => do
        let policy ← act .getParameters
        let user ← act (.findUser userId)
        pure (.ok
          { request := request
            target := target
            effectiveDuration := recapDuration request.requestedDurationSeconds
              (maxDurationSeconds policy target)
            maxUses := maxUses policy target
            username := (user.map User.username).getD "" })

def PreparedActivation.ticket (prepared : PreparedActivation) (draw : Draw) : NewTicket where
  draw := draw
  userId := prepared.request.userId
  targetId := prepared.request.targetId
  durationSeconds := prepared.effectiveDuration
  uses := prepared.maxUses
  description := prepared.request.description

def commitActivation (prepared : PreparedActivation) (draw : Draw) :
    Action (Except ActivateTicketRequestError ActivatedTicket) := do
  match ← act (.commitActivation prepared.request.id prepared.request.userId
      (prepared.ticket draw)) with
  | .failed => pure (.error (.internal .database))
  | .lost => do
    -- the transaction is rolled back, and with it the ticket
    let found ← act (.findRequest prepared.request.id)
    if found.any (·.ticketId.isSome) then pure (.error .alreadyActivated)
    else pure (.error .notFound)
  | .missing => pure (.error .notFound)
  | .won updated => pure (.ok ⟨updated, prepared.target, draw.secret⟩)

def activateTicketRequest (requestId userId : Uuid) (draw : Draw) :
    Action (Except ActivateTicketRequestError ActivatedTicket) := do
  match ← prepareActivation requestId userId with
  | .error error => pure (.error error)
  | .ok prepared => commitActivation prepared draw

inductive Task
  | create (params : CreateTicketRequestParams) (requestId : Uuid) (draw : Draw)
  | approve (requestId : Uuid) (adminUserId : Option Uuid)
  | deny (requestId : Uuid) (adminUserId : Option Uuid) (reason : Option String)
  | activate (requestId userId : Uuid) (draw : Draw)
  | deleteTicket (ticketId : Uuid)
  | deleteTarget (targetId : Uuid)
  | deleteUser (userId : Uuid)
  | cleanUp (cutoff : OffsetDateTime)
  | change (made : Change)
  deriving DecidableEq

inductive Answer
  | created (result : Except CreateTicketRequestError TicketRequestResult)
  | resolved (result : Except WarpgateError (Option TicketRequest))
  | activated (result : Except ActivateTicketRequestError ActivatedTicket)
  | done

def cleanUp (cutoff : OffsetDateTime) : Action Unit := do
  let activeTicketIds ← act .selectActiveTicketIds
  act (.remove (.old cutoff activeTicketIds))

def Task.program : Task → Action Answer
  | create params requestId draw => do
    return .created (← createTicketRequest params requestId draw)
  | approve requestId adminUserId => do
    return .resolved (← approveTicketRequest requestId adminUserId)
  | deny requestId adminUserId reason => do
    return .resolved (← denyTicketRequest requestId adminUserId reason)
  | activate requestId userId draw => do
    return .activated (← activateTicketRequest requestId userId draw)
  | deleteTicket ticketId => do
    act (.remove (.ticket ticketId))
    return .done
  | deleteTarget targetId => do
    act (.remove (.target targetId))
    return .done
  | deleteUser userId => do
    act (.remove (.user userId))
    return .done
  | cleanUp cutoff => do
    TicketRequests.cleanUp cutoff
    return .done
  | change made => do
    act (.change made)
    return .done

def system : System Task Statement Statement.Outcome World Answer where
  program := Task.program
  execute := execute
  ready := Statement.ready

abbrev Config := Concurrent.Config Task Statement Statement.Outcome World Answer

def installation : World where
  requests := Sql.Table.empty
  tickets := Sql.Table.empty
  targets := (Sql.Table.empty.insert
    { id := 2
      name := "db"
      ticketMaxDurationSeconds := none
      ticketRequestsDisabled := false
      ticketRequireApproval := true
      ticketMaxUses := none }).2
  users := (Sql.Table.empty.insert ⟨1, "alice"⟩).2
  policy :=
    { ticketSelfServiceEnabled := true
      ticketAutoApproveExistingAccess := true
      ticketMaxDurationSeconds := some 28800
      ticketMaxUses := none
      ticketRequireDescription := false
      ticketRequestShowAllTargets := true }
  access := []
  clock := 0
  drawn := []

theorem installation_initial : installation.Initial := ⟨rfl⟩

def asks (requestId ticketId : Uuid) : Task :=
  .create ⟨1, "db", some 3600, "maintenance"⟩ requestId ⟨ticketId, "secret", "hash"⟩

def advances (index count : Nat) : List (Move Task) := List.replicate count (.advance index)

end

open List Option Sql.Table Program Config World TicketRequest

section

/-! ### What a statement does to a request -/

def Statement.mints (world : World) (requestId : Uuid) : Statement → List Uuid
  | insertApproved request ticket =>
    if request.id = requestId ∧ (world.insertApproved request ticket).1.isSome then
      [ticket.draw.ticketId]
    else []
  | commitActivation claimed userId ticket =>
    match (world.commitActivation claimed userId ticket).1 with
    | .won _ => if claimed = requestId then [ticket.draw.ticketId] else []
    | _ => []
  | _ => []

def minted (log : List (Entry Task Statement World)) (requestId : Uuid) : List Uuid :=
  log.flatMap fun entry => entry.statement.mints entry.before requestId

variable (stmt : Statement) (w : World) (rid : Uuid) (adminUserId : Option Uuid)
  (request req : NewRequest) (ticket : NewTicket)

@[simp] theorem minted_cons (e : Entry Task Statement World)
    (log : List (Entry Task Statement World)) (rid : Uuid) :
    minted (e :: log) rid = e.statement.mints e.before rid ++ minted log rid :=
  flatMap_cons

inductive RowStep (statement : Statement) (world : World) (requestId : Uuid) :
    Option TicketRequest → Option TicketRequest → List Uuid → Prop
  | kept (row : Option TicketRequest) : RowStep statement world requestId row row []
  | removed (row : Option TicketRequest) : RowStep statement world requestId row none []
  | created (request : TicketRequest) (fresh : requestId ∉ world.drawn)
      (drawn : requestId ∈ (execute statement world).2.drawn)
      (pending : request.status = .pending) :
      RowStep statement world requestId none (some request) []
  | createdApproved (request : TicketRequest) (ticketId : Uuid) (fresh : requestId ∉ world.drawn)
      (drawn : requestId ∈ (execute statement world).2.drawn)
      (approved : request.status = .approved) (holds : request.ticketId = some ticketId) :
      RowStep statement world requestId none (some request) [ticketId]
  | resolved (request : TicketRequest) (resolution : Resolution)
      (performs : statement = .resolve requestId resolution) :
      RowStep statement world requestId (some request)
        (some (resolution.apply world.clock request)) []
  | claimed (request : TicketRequest) (ticketId : Uuid) (approved : request.status = .approved)
      (unclaimed : request.ticketId = none) :
      RowStep statement world requestId (some request)
        (some { request with ticketId := some ticketId }) [ticketId]

theorem RowStep.of_eq {stmt : Statement} {w : World} {rid : Uuid}
    {first second : Option TicketRequest} {tickets : List Uuid} (same : second = first)
    (none_minted : tickets = []) : RowStep stmt w rid first second tickets := by
  subst same none_minted
  exact .kept _

theorem RowStep.of_filter {stmt : Statement} {w : World} {rid : Uuid}
    (r : Option TicketRequest) (kept : TicketRequest → Bool) :
    RowStep stmt w rid r (r.filter kept) [] := by
  cases filtered : r.filter kept with
  | none => exact .removed r
  | some req => exact .of_eq (filter_eq_some_iff.mp filtered).1.symm rfl

theorem insertPending_cases :
    w.insertPending req = (none, w) ∨ ∃ requests : Sql.Table TicketRequest TicketRequest.id,
        w.requests.find? req.id = none ∧ requests.rows = req.pending w.clock :: w.requests.rows ∧
        (∀ rid, requests.find? rid = if req.id = rid then some (req.pending w.clock)
          else w.requests.find? rid) ∧ w.insertPending req =
          (some (req.pending w.clock),
            { w with requests := requests, drawn := req.id :: w.drawn }) := by
  rcases w.requests.insert_cases (req.pending w.clock) with
    refused | ⟨requests, inserted, free, rows, lookup⟩
  · exact .inl (by rw [insertPending, refused])
  · exact .inr ⟨requests, free, rows, lookup, by rw [insertPending, inserted]⟩

theorem insertApproved_cases :
    w.insertApproved req ticket = (none, w) ∨
      ∃ (requests : Sql.Table TicketRequest TicketRequest.id)
        (tickets : Sql.Table Ticket Ticket.id),
        w.requests.find? req.id = none ∧ requests.rows =
          req.approved ticket.draw.ticketId w.clock :: w.requests.rows ∧
        (∀ rid, requests.find? rid = if req.id = rid then
            some (req.approved ticket.draw.ticketId w.clock) else w.requests.find? rid) ∧
        w.insertApproved req ticket =
          (some (req.approved ticket.draw.ticketId w.clock), { w with
              tickets := tickets
              requests := requests
              drawn := req.id :: ticket.draw.ticketId :: w.drawn }) := by
  rcases w.tickets.insert_cases (ticket.row w.clock) with
    refused | ⟨tickets, insertedTicket, -, -, -⟩
  · exact .inl (by rw [insertApproved, refused])
  rcases w.requests.insert_cases (req.approved ticket.draw.ticketId w.clock) with
    refused | ⟨requests, inserted, free, rows, lookup⟩
  · exact .inl (by rw [insertApproved, insertedTicket, refused])
  · exact .inr ⟨requests, tickets, free, rows, lookup,
      by rw [insertApproved, insertedTicket, inserted]⟩

theorem rowStep_insertPending (fresh : req.id ∉ w.drawn) :
    RowStep (.insertPending req) w rid (w.requests.find? rid)
      ((w.insertPending req).2.requests.find? rid) [] := by
  rcases insertPending_cases w req with refused | ⟨requests, free, -, lookup, stored⟩
  · exact .of_eq (by rw [refused]) rfl
  · have drawn : req.id ∈ (execute (.insertPending req) w).2.drawn := by
      rw [execute, stored]
      exact .head _
    rw [stored, lookup]
    by_cases same : req.id = rid
    · subst same
      rw [free, if_pos rfl]
      exact .created _ fresh drawn rfl
    · rw [if_neg same]
      exact .kept _

theorem rowStep_insertApproved (fresh : req.id ∉ w.drawn) :
    RowStep (.insertApproved req ticket) w rid (w.requests.find? rid)
      ((w.insertApproved req ticket).2.requests.find? rid)
      ((Statement.insertApproved req ticket).mints w rid) := by
  rw [Statement.mints]
  rcases insertApproved_cases w req ticket with
    refused | ⟨requests, tickets, free, -, lookup, stored⟩
  · rw [refused]
    exact .of_eq rfl (if_neg fun minted => by cases minted.2)
  · have drawn : req.id ∈ (execute (.insertApproved req ticket) w).2.drawn := by
      rw [execute, stored]
      exact .head _
    rw [stored, lookup]
    by_cases same : req.id = rid
    · subst same
      rw [free, if_pos rfl, if_pos ⟨rfl, rfl⟩]
      exact .createdApproved _ _ fresh drawn rfl rfl
    · rw [if_neg same, if_neg fun minted => same minted.1]
      exact .kept _

theorem find?_claim (rid uid tid other : Uuid) :
    (w.claim rid uid tid).find? other = (w.requests.find? other).map fun req =>
        if isClaimable rid uid req then { req with ticketId := some tid }
        else req := by
  rw [claim, find?_update]

theorem isClaimable_iff {rid uid : Uuid} {req : TicketRequest} :
    isClaimable rid uid req = true ↔
      req.id = rid ∧ req.userId = uid ∧ req.status = .approved ∧ req.ticketId = none := by
  simp [isClaimable, and_assoc]

theorem commitActivation_cases (rid uid : Uuid) (ticket : NewTicket) :
    ((∀ updated, (w.commitActivation rid uid ticket).1 ≠ .won updated) ∧
        (w.commitActivation rid uid ticket).2 = w) ∨
      ∃ req updated tickets, w.requests.find? rid = some req ∧
        req.status = .approved ∧ req.ticketId = none ∧ isClaimable rid uid req = true ∧
        w.commitActivation rid uid ticket =
          (.won updated, { w with
              tickets := tickets
              requests := w.claim rid uid ticket.draw.ticketId
              drawn := ticket.draw.ticketId :: w.drawn }) := by
  rcases w.tickets.insert_cases (ticket.row w.clock) with
    refused | ⟨tickets, insertedTicket, -, -, -⟩
  · rw [World.commitActivation, refused]
    exact .inl ⟨nofun, rfl⟩
  by_cases once : w.requests.matching (World.isClaimable rid uid) = 1
  · obtain ⟨req, found, claimable⟩ := (w.requests.matching_pos_iff (World.isClaimable rid uid) rid
        fun r matched => (isClaimable_iff.mp matched).1).mp (by omega)
    obtain ⟨-, -, approved, unclaimed⟩ := isClaimable_iff.mp claimable
    have lookup := find?_claim w rid uid ticket.draw.ticketId rid
    rw [found, map_some, if_pos claimable] at lookup
    refine .inr ⟨req, { req with ticketId := some ticket.draw.ticketId }, tickets,
      found, approved, unclaimed, claimable, ?_⟩
    simp only [World.commitActivation, insertedTicket, if_pos once, lookup]
  · have lost : w.commitActivation rid uid ticket = (.lost, w) := by
      simp only [World.commitActivation, insertedTicket, if_neg once]
    rw [lost]
    exact .inl ⟨nofun, rfl⟩

theorem rowStep_commitActivation (rid claimed uid : Uuid) (ticket : NewTicket) :
    RowStep (.commitActivation claimed uid ticket) w rid
      (w.requests.find? rid) ((w.commitActivation claimed uid ticket).2.requests.find? rid)
      ((Statement.commitActivation claimed uid ticket).mints w rid) := by
  rw [Statement.mints]
  rcases commitActivation_cases w claimed uid ticket with
    ⟨unclaimed, same⟩ | ⟨req, updated, tickets, found, approved, unclaimed, claimable, won⟩
  · refine .of_eq (by rw [same]) ?_
    cases ended : (w.commitActivation claimed uid ticket).1 with
    | won updated => exact absurd ended (unclaimed updated)
    | failed | lost | missing => rfl
  · rw [won]
    show RowStep _ _ _ _ ((w.claim claimed uid ticket.draw.ticketId).find? rid) _
    rw [find?_claim]
    by_cases same : claimed = rid
    · subst same
      rw [found, map_some, if_pos claimable]
      show RowStep _ _ _ _ _ (if claimed = claimed then _ else _)
      rw [if_pos rfl]
      exact .claimed req _ approved unclaimed
    · show RowStep _ _ _ _ _ (if claimed = rid then _ else _)
      rw [if_neg same]
      refine .of_eq ?_ rfl
      cases other : w.requests.find? rid with
      | none => rfl
      | some r =>
        have elsewhere : ¬isClaimable claimed uid r = true := fun claimable =>
          same ((isClaimable_iff.mp claimable).1.symm.trans (key_of_find? other))
        rw [map_some, if_neg elsewhere]

theorem rowStep_resolve (rid resolved : Uuid) (reso : Resolution) :
    RowStep (.resolve resolved reso) w rid (w.requests.find? rid)
      ((w.resolve resolved reso).2.requests.find? rid) [] := by
  rw [resolve, find?_update]
  cases found : w.requests.find? rid with
  | none => exact .kept none
  | some req =>
    have atKey : req.id = rid := key_of_find? found
    rw [map_some, atKey]
    by_cases same : rid = resolved
    · subst same
      rw [if_pos (decide_eq_true rfl)]
      exact .resolved req reso rfl
    · rw [if_neg (by simpa using same)]
      exact .kept _

theorem rowStep_remove (removal : Removal) :
    RowStep (.remove removal) w rid (w.requests.find? rid)
      ((w.remove removal).requests.find? rid) [] := by
  cases removal with
  | target tgt =>
    rw [remove]
    split
    · exact .kept _
    · rw [find?_delete]
      exact .of_filter _ _
  | _ =>
    rw [remove, find?_delete]
    exact .of_filter _ _

theorem rowStep_execute (ready : stmt.ready w = true) :
    RowStep stmt w rid (w.requests.find? rid) ((execute stmt w).2.requests.find? rid)
      (stmt.mints w rid) := by
  cases stmt with
  | insertPending req =>
    have fresh : req.id ∉ w.drawn := by simpa [Statement.ready, Statement.draws] using ready
    exact rowStep_insertPending w rid req fresh
  | insertApproved req ticket =>
    have fresh : req.id ∉ w.drawn ∧ ticket.draw.ticketId ∉ w.drawn := by
      simpa [Statement.ready, Statement.draws] using ready
    exact rowStep_insertApproved w rid req ticket fresh.1
  | commitActivation claimed uid ticket => exact rowStep_commitActivation w rid claimed uid ticket
  | resolve resolved reso => exact rowStep_resolve w rid resolved reso
  | remove removal => exact rowStep_remove w rid removal
  | change made => cases made <;> exact .kept _
  | _ => exact .kept _

theorem drawn_execute : w.drawn ⊆ (execute stmt w).2.drawn := by
  cases stmt with
  | insertPending req =>
    rw [execute]
    rcases insertPending_cases w req with refused | ⟨_, -, -, -, stored⟩
    · rw [refused]
      exact fun _ mem => mem
    · rw [stored]
      exact subset_cons_self _ _
  | insertApproved req ticket =>
    rw [execute]
    rcases insertApproved_cases w req ticket with refused | ⟨_, _, -, -, -, stored⟩
    · rw [refused]
      exact fun _ mem => mem
    · rw [stored]
      exact fun _ mem => .tail _ (.tail _ mem)
  | commitActivation claimed uid ticket =>
    rw [execute]
    rcases commitActivation_cases w claimed uid ticket with
      ⟨-, same⟩ | ⟨_, _, _, -, -, -, -, won⟩
    · rw [same]
      exact fun _ mem => mem
    · rw [won]
      exact subset_cons_self _ _
  | remove removal =>
    cases removal with
    | target tgt =>
      rw [execute, remove]
      split <;> exact fun _ mem => mem
    | _ => exact fun _ mem => mem
  | change made => cases made <;> exact fun _ mem => mem
  | _ => exact fun _ mem => mem

def Statement.creates : Statement → Prop
  | getParameters | findTargetByName _ | authorizeTargetById _ _ | countPending _ _
  | insertApproved _ _ | insertPending _ => True
  | _ => False

def Statement.resolves : Statement → Prop
  | findPending _ | countUsers _ | countTargets _ | resolve _ _ => True
  | _ => False

def Statement.activates : Statement → Prop
  | findApproved _ _ | findTarget _ | getParameters | findUser _ | commitActivation _ _ _
  | findRequest _ => True
  | _ => False

theorem createTicketRequest_performs (params : CreateTicketRequestParams) (rid : Uuid)
    (draw : Draw) : (createTicketRequest params rid draw).Performs Statement.creates := by
  simp only [createTicketRequest, act_bind]
  refine ⟨trivial, fun policy => ?_⟩
  dsimp only
  split
  · trivial
  refine ⟨trivial, fun target => ?_⟩
  cases target with
  | none => trivial
  | some target =>
    refine ⟨trivial, fun hasAccess => ?_⟩
    dsimp only
    split
    · trivial
    refine ⟨trivial, fun existingPending => ?_⟩
    dsimp only
    split
    · trivial
    rw [storeRequest]
    split <;> refine ⟨trivial, fun r => ?_⟩ <;> cases r <;> trivial

theorem resolveRequest_performs (reso : Resolution) :
    (resolveRequest rid reso).Performs Statement.resolves := by
  refine ⟨trivial, fun updated => ?_⟩
  cases updated <;> trivial

theorem approveTicketRequest_performs :
    (approveTicketRequest rid adminUserId).Performs Statement.resolves := by
  simp only [approveTicketRequest, act_bind]
  refine ⟨trivial, fun found => ?_⟩
  cases found with
  | none => trivial
  | some req =>
    refine ⟨trivial, fun users => ?_⟩
    dsimp only
    split
    · trivial
    · refine ⟨trivial, fun targets => ?_⟩
      dsimp only
      split
      · trivial
      · exact resolveRequest_performs _ _

theorem denyTicketRequest_performs (reason : Option String) :
    (denyTicketRequest rid adminUserId reason).Performs Statement.resolves := by
  refine ⟨trivial, fun found => ?_⟩
  cases found with
  | none => trivial
  | some req => exact resolveRequest_performs _ _

theorem prepareActivation_performs (rid uid : Uuid) :
    (prepareActivation rid uid).Performs Statement.activates := by
  simp only [prepareActivation, act_bind]
  refine ⟨trivial, fun found => ?_⟩
  cases found with
  | none => trivial
  | some req =>
    dsimp only
    split
    · trivial
    refine ⟨trivial, fun target => ?_⟩
    cases target with
    | none => trivial
    | some target => exact ⟨trivial, fun policy => ⟨trivial, fun user => trivial⟩⟩

theorem commitActivation_performs (prepared : PreparedActivation) (draw : Draw) :
    (commitActivation prepared draw).Performs Statement.activates := by
  simp only [commitActivation, act_bind]
  refine ⟨trivial, fun claim => ?_⟩
  cases claim with
  | lost =>
    refine ⟨trivial, fun found => ?_⟩
    dsimp only
    split <;> trivial
  | _ => trivial

theorem activateTicketRequest_performs (rid uid : Uuid) (draw : Draw) :
    (activateTicketRequest rid uid draw).Performs Statement.activates := by
  refine (prepareActivation_performs rid uid).bind fun prepared => ?_
  cases prepared with
  | error error => trivial
  | ok prepared => exact commitActivation_performs prepared draw

end

variable {log : List (Entry Task Statement World)} {t : Task}
  {pre post : List (Thread Task Statement Statement.Outcome Answer)}

section

variable (requestId : Uuid)

/-! ### One decision -/

def readsPending : Event Statement Statement.Outcome → Bool
  | ⟨.findPending _, some request⟩ => request.id = requestId
  | _ => false

def decides : Event Statement Statement.Outcome → Bool
  | ⟨.resolve resolved _, _⟩ => resolved = requestId
  | _ => false

def deciding (thread : Thread Task Statement Statement.Outcome Answer) : Bool :=
  thread.inside (readsPending requestId) (decides requestId)

def DecisionsApart (config : Config) (_ : Task) : Statement → Prop
  | .resolve requestId _ => config.threads.countP (deciding requestId) ≤ 1
  | _ => True

instance DecisionsApart.decidable (config : Config) (task : Task) (statement : Statement) :
    Decidable (DecisionsApart config task statement) := by
  cases statement <;> dsimp only [DecisionsApart] <;> infer_instance

def mayDecide (history : History Statement.Outcome) : Statement → Prop
  | .resolve requestId _ =>
    history.any (readsPending requestId) = true ∧ history.any (decides requestId) = false
  | _ => True

variable {rid : Uuid} {hist : History Statement.Outcome} {w : World} {stmt : Statement}
  {status : TicketRequestStatus}

theorem resolveRequest_follows (reso : Resolution) (read : hist.any (readsPending rid) = true)
    (undecided : hist.any (decides rid) = false) :
    (resolveRequest rid reso).Follows mayDecide (fun _ _ => True) hist := by
  refine ⟨⟨read, undecided⟩, fun updated => ?_⟩
  cases updated <;> trivial

theorem approveTicketRequest_follows (rid : Uuid) (adminUserId : Option Uuid) :
    (approveTicketRequest rid adminUserId).Follows mayDecide (fun _ _ => True) [] := by
  simp only [approveTicketRequest, act_bind]
  refine ⟨trivial, fun found => ?_⟩
  cases found with
  | none => trivial
  | some req =>
    refine ⟨trivial, fun users => ?_⟩
    dsimp only
    split
    · trivial
    · refine ⟨trivial, fun targets => ?_⟩
      dsimp only
      split
      · trivial
      · exact resolveRequest_follows _ (by simp [readsPending]) (by simp [decides])

theorem denyTicketRequest_follows (rid : Uuid) (adminUserId : Option Uuid)
    (reason : Option String) :
    (denyTicketRequest rid adminUserId reason).Follows mayDecide (fun _ _ => True) [] := by
  refine ⟨trivial, fun found => ?_⟩
  cases found with
  | none => trivial
  | some req => exact resolveRequest_follows _ (by simp [readsPending]) (by simp [decides])

theorem program_follows_mayDecide (t : Task) :
    t.program.Follows mayDecide (fun _ _ => True) [] := by
  cases t with
  | create params rid draw =>
    refine ((createTicketRequest_performs params rid draw).follows
      (fun seen stmt ok => ?_) fun _ _ => trivial).seq fun _ _ _ => trivial
    cases stmt <;> trivial
  | approve rid adminUserId =>
    exact (approveTicketRequest_follows rid adminUserId).seq fun _ _ _ => trivial
  | deny rid adminUserId reason =>
    exact (denyTicketRequest_follows rid adminUserId reason).seq fun _ _ _ => trivial
  | activate rid uid draw =>
    refine ((activateTicketRequest_performs rid uid draw).follows
      (fun seen stmt ok => ?_) fun _ _ => trivial).seq fun _ _ _ => trivial
    cases stmt <;> trivial
  | cleanUp cut => exact ⟨trivial, fun _ => ⟨trivial, fun _ => trivial⟩⟩
  | _ => exact ⟨trivial, fun _ => trivial⟩

structure RowSound (row : Option TicketRequest) (drawn : Prop) (tickets : List Uuid) : Prop where
  rowDrawn : row.isSome = true → drawn
  ticketsDrawn : tickets ≠ [] → drawn
  once : tickets.length ≤ 1
  approved : ∀ request ∈ row, tickets ≠ [] →
    request.status = .approved ∧ request.ticketId.isSome = true

theorem RowSound.step {pre post : Option TicketRequest} {minted tickets : List Uuid}
    (sound : RowSound pre (rid ∈ w.drawn) tickets) (step : RowStep stmt w rid pre post minted)
    (pending : ∀ reso, stmt = .resolve rid reso → ∀ req ∈ pre, req.status = .pending) :
    RowSound post (rid ∈ (execute stmt w).2.drawn) (minted ++ tickets) := by
  have grows : rid ∈ w.drawn → rid ∈ (execute stmt w).2.drawn :=
    fun drawn => drawn_execute stmt w drawn
  have unminted : rid ∉ w.drawn → tickets = [] := fun fresh =>
    Classical.byContradiction fun some_minted => fresh (sound.ticketsDrawn some_minted)
  cases step with
  | kept => exact ⟨grows ∘ sound.rowDrawn, grows ∘ sound.ticketsDrawn, sound.once, sound.approved⟩
  | removed => exact ⟨nofun, grows ∘ sound.ticketsDrawn, sound.once, nofun⟩
  | created req fresh drawn pending =>
    rw [unminted fresh]
    exact ⟨fun _ => drawn, fun _ => drawn, Nat.zero_le 1, fun _ _ minted => absurd rfl minted⟩
  | createdApproved req tid fresh drawn approved holds =>
    rw [unminted fresh]
    refine ⟨fun _ => drawn, fun _ => drawn, Nat.le_refl 1, ?_⟩
    rintro _ ⟨⟩ -
    exact ⟨approved, by rw [holds]; rfl⟩
  | resolved req reso perf =>
    have none_minted : tickets = [] := by
      by_contra some_minted
      have approved := (sound.approved req rfl some_minted).1
      rw [pending reso perf req rfl] at approved
      cases approved
    subst none_minted
    exact ⟨fun _ => grows (sound.rowDrawn rfl), fun minted => absurd rfl minted, Nat.zero_le 1,
      fun _ _ minted => absurd rfl minted⟩
  | claimed req tid approved unclaimed =>
    have none_minted : tickets = [] := by
      by_contra some_minted
      have ticket := (sound.approved req rfl some_minted).2
      rw [unclaimed] at ticket
      cases ticket
    subst none_minted
    refine ⟨fun _ => grows (sound.rowDrawn rfl), fun _ => grows (sound.rowDrawn rfl),
      Nat.le_refl 1, ?_⟩
    rintro _ ⟨⟩ -
    exact ⟨approved, rfl⟩

def Stands (status : TicketRequestStatus) (world : World) : Prop :=
  requestId ∈ world.drawn ∧
    ∀ request ∈ world.requests.find? requestId, request.status = status

theorem Stands.execute (stands : Stands rid status w) (ready : stmt.ready w = true)
    (undecided : ∀ reso, stmt ≠ .resolve rid reso) :
    Stands rid status (TicketRequests.execute stmt w).2 := by
  refine ⟨drawn_execute stmt w stands.1, ?_⟩
  have step := rowStep_execute stmt w rid ready
  have pre := stands.2
  generalize w.requests.find? rid = r at step pre
  generalize (TicketRequests.execute stmt w).2.requests.find? rid = later at step
  generalize stmt.mints w rid = minted at step
  cases step with
  | kept => exact pre
  | removed => exact nofun
  | created req fresh | createdApproved req tid fresh => exact absurd stands.1 fresh
  | resolved req reso perf => exact absurd perf (undecided reso)
  | claimed req tid =>
    rintro _ ⟨⟩
    exact pre req rfl

structure Sound (config : Config) : Prop where
  rows : ∀ requestId, RowSound (config.state.requests.find? requestId)
    (requestId ∈ config.state.drawn) (minted config.log requestId)
  deciding : ∀ requestId, ∀ thread ∈ config.threads, deciding requestId thread = true →
    Stands requestId .pending config.state

theorem Sound.initial (initial : w.Initial) : Sound (Config.initial w) where
  rows := by
    intro rid
    have absent : w.requests.find? rid = none := by
      rw [initial.requests]
      rfl
    rw [Config.initial, absent]
    exact ⟨nofun, fun some_minted => absurd rfl some_minted, Nat.zero_le 1, nofun⟩
  deciding := by
    intro rid th mem
    cases mem

theorem Sound.pending_of_resolve {reso : Resolution}
    {next : Option TicketRequest → Program Statement Statement.Outcome Answer}
    (sound : Sound ⟨w, pre ++ ⟨t, hist, .perform (.resolve rid reso) next⟩ :: post, log⟩)
    (ok : mayDecide hist (.resolve rid reso)) : Stands rid .pending w :=
  sound.deciding rid _ mem_append_cons_self (Thread.inside_perform.mpr ok)

theorem stands_of_readsPending (drawn : ∀ rid, (w.requests.find? rid).isSome = true → rid ∈ w.drawn)
    (reads : readsPending rid ⟨stmt, (execute stmt w).1⟩ = true) :
    Stands rid .pending (execute stmt w).2 := by
  cases stmt with
  | findPending asked =>
    rw [execute] at reads ⊢
    cases found : w.findPending asked with
    | none =>
      rw [found] at reads
      cases reads
    | some req =>
      rw [found] at reads
      have atKey : req.id = rid := by simpa [readsPending] using reads
      obtain ⟨stored, pending⟩ := filter_eq_some_iff.mp found
      have same : asked = rid := (key_of_find? stored).symm.trans atKey
      subst same
      refine ⟨drawn asked (by rw [stored]; rfl), ?_⟩
      intro other isOther
      have pending' : req.status = .pending := by simpa using pending
      rw [show w.requests.find? asked = some req from stored] at isOther
      rw [← some.inj isOther]
      exact pending'
  | _ => cases reads

theorem Sound.perform {next : stmt.Outcome → Program Statement Statement.Outcome Answer}
    (sound : Sound ⟨w, pre ++ ⟨t, hist, .perform stmt next⟩ :: post, log⟩)
    (ok : mayDecide hist stmt) (ready : stmt.ready w = true)
    (apart : DecisionsApart ⟨w, pre ++ ⟨t, hist, .perform stmt next⟩ :: post, log⟩ t stmt) :
    Sound ⟨(execute stmt w).2, pre ++ ⟨t, ⟨stmt, (execute stmt w).1⟩ :: hist,
        next (execute stmt w).1⟩ :: post, ⟨t, stmt, w⟩ :: log⟩ where
  rows := by
    intro rid
    rw [minted_cons]
    refine (sound.rows rid).step (rowStep_execute stmt w rid ready) ?_
    rintro reso rfl
    exact (sound.pending_of_resolve ok).2
  deciding := by
    intro rid
    refine inside_perform (sound.deciding rid) ?_ ?_
    · exact stands_of_readsPending fun rid => (sound.rows rid).rowDrawn
    · by_cases dec : ∃ reso, stmt = .resolve rid reso
      · obtain ⟨reso, rfl⟩ := dec
        refine .inr ⟨by simp [decides], ?_⟩
        exact alone_of_countP apart (Thread.inside_perform.mpr ok)
      · exact .inl fun stands => stands.execute ready (not_exists.mp dec)

def Known (config : Config) : Prop :=
  Config.ThreadsFollow (fun _ => mayDecide) (fun _ _ _ => True) config ∧ Sound config

theorem known_run (initial : w.Initial) (ms : List (Move Task))
    (along : Config.Along system (Config.Performing system DecisionsApart) (Config.initial w) ms) :
    Known ((Config.initial w).run system ms) := by
  refine run_invariant_of_protocol program_follows_mayDecide
    (Config.Performing system DecisionsApart) Sound ?_ ?_ w ms along (Sound.initial initial)
  · intro c t _ sound
    exact ⟨sound.rows, fun rid => inside_start (sound.deciding rid)⟩
  · intro s pre t hist stmt next post log perm perf ok sound
    exact sound.perform ok (ready_of_performed system perf) (perm.admits system perf)

theorem stands_run {c : Config} {ms : List (Move Task)} (decided : status ≠ .pending)
    (along : Along system (fun reached m =>
      Performing system DecisionsApart reached m ∧ Known reached) c ms)
    (stands : Stands rid status c.state) : Stands rid status (c.run system ms).state := by
  refine run_invariant _ (fun reached => Stands rid status reached.state)
    (fun _ _ _ holds => holds) ?_ c ms along stands
  rintro w pre t hist stmt next post log ⟨-, follows, sound⟩ - ready stands
  by_cases dec : ∃ reso, stmt = .resolve rid reso
  · obtain ⟨reso, rfl⟩ := dec
    have ok := (follows _ mem_append_cons_self).1
    have pending := (sound.pending_of_resolve ok).2
    refine ⟨drawn_execute _ w stands.1, ?_⟩
    have gone : w.requests.find? rid = none := by
      cases found : w.requests.find? rid with
      | none => rfl
      | some req => exact absurd ((stands.2 req found).symm.trans (pending req found)) decided
    rintro req isRequest
    rw [show (system.execute (.resolve rid reso) w).2 =
      (w.resolve rid reso).2 from rfl, resolve, find?_update, gone] at isRequest
    cases isRequest
  · exact stands.execute ready (not_exists.mp dec)

/-- Where no two approvals or denials of one request overlap, a decision stands for as long as the
request is there, the request mints at most one ticket, and one that is denied has minted none. -/
theorem decided_once (world : World) (initial : world.Initial) (moves : List (Move Task))
    (along : Config.Along system (Config.Performing system DecisionsApart)
      (Config.initial world) moves) (requestId : Uuid) :
    (∀ first second request later, moves = first ++ second →
        ((Config.initial world).run system first).state.requests.find? requestId = some request →
        request.status ≠ .pending →
        ((Config.initial world).run system moves).state.requests.find? requestId = some later →
        later.status = request.status) ∧
      (minted ((Config.initial world).run system moves).log requestId).length ≤ 1 ∧
      ∀ request,
        ((Config.initial world).run system moves).state.requests.find? requestId = some request →
        request.status = .denied →
        minted ((Config.initial world).run system moves).log requestId = [] := by
  have rows := (known_run initial moves along).2.rows requestId
  refine ⟨?_, rows.once, ?_⟩
  · rintro first second request later rfl found decided foundLater
    have alongKnown := along_and_invariant system (fun moves => known_run initial moves)
      (first ++ second) along
    obtain ⟨-, afterwards⟩ := (along_append system _ first second).mp alongKnown
    have known := known_run initial first ((along_append system _ first second).mp along).1
    have stands : Stands requestId request.status
        ((Config.initial world).run system first).state := by
      refine ⟨(known.2.rows requestId).rowDrawn (by rw [found]; rfl), ?_⟩
      intro other isOther
      rw [found] at isOther
      rw [← Option.some.inj isOther]
    rw [run_append] at foundLater
    exact (stands_run decided afterwards stands).2 later foundLater
  · intro request found denied
    by_contra some_minted
    have approved := (rows.approved request found some_minted).1
    rw [denied] at approved
    cases approved

def oneAfterTheOther : List (Move Task) :=
  .start (asks 3 4) :: advances 0 5 ++ .start (.approve 3 (some 9)) :: advances 1 4 ++
    .start (.activate 3 1 ⟨5, "secret", "hash"⟩) :: advances 2 5 ++
    .start (.deny 3 (some 9) none) :: advances 3 2

theorem decided_one_after_the_other :
    (minted ((Config.initial installation).run system oneAfterTheOther).log 3).length ≤ 1 ∧
      minted ((Config.initial installation).run system oneAfterTheOther).log 3 = [5] :=
  ⟨(decided_once installation installation_initial oneAfterTheOther (by decide +kernel) 3).2.1,
    by decide +kernel⟩

def bothDecide : List (Move Task) :=
  .start (asks 3 4) :: advances 0 5 ++ .start (.approve 3 (some 9)) :: advances 1 1 ++
    .start (.deny 3 (some 8) none) :: advances 2 1 ++ advances 1 3 ++
    .start (.activate 3 1 ⟨5, "secret", "hash"⟩) :: advances 3 5

theorem denied_after_approval :
    (((Config.initial installation).run system bothDecide).state.requests.find? 3).map
        TicketRequest.status = some .approved ∧
      (((Config.initial installation).run system (bothDecide ++ advances 2 1)).state.requests.find?
        3).map (fun request => (request.status, request.ticketId)) = some (.denied, some 5) ∧
      minted ((Config.initial installation).run system (bothDecide ++ advances 2 1)).log 3 = [5] ∧
      (((Config.initial installation).run system (bothDecide ++ advances 2 1)).state.tickets.find?
        5).isSome = true := by
  decide +kernel

/-! ### One ticket -/

/-- What was minted for a request is one ticket, which its row names. -/
structure Accounts (row : Option TicketRequest) (drawn : Prop) (tickets : List Uuid) : Prop where
  fresh : ¬drawn → row = none ∧ tickets = []
  once : tickets.length ≤ 1
  named : ∀ request ∈ row, ∀ ticketId ∈ tickets, request.ticketId = some ticketId

theorem Accounts.step {pre post : Option TicketRequest} {minted tickets : List Uuid}
    (accounts : Accounts pre (rid ∈ w.drawn) tickets) (step : RowStep stmt w rid pre post minted) :
    Accounts post (rid ∈ (execute stmt w).2.drawn) (minted ++ tickets) := by
  obtain ⟨fresh, once, named⟩ := accounts
  have later := fun undrawn : rid ∉ (execute stmt w).2.drawn =>
    fresh fun drawn => undrawn (drawn_execute stmt w drawn)
  cases step with
  | kept => exact ⟨later, once, named⟩
  | removed => exact ⟨fun undrawn => ⟨rfl, (later undrawn).2⟩, once, by simp⟩
  | created req isFresh drawn pending =>
    rw [(fresh isFresh).2]
    exact ⟨absurd drawn, Nat.zero_le 1, fun _ _ _ mem => (by cases mem)⟩
  | createdApproved req tid isFresh drawn approved holds =>
    rw [(fresh isFresh).2]
    refine ⟨absurd drawn, Nat.le_refl 1, ?_⟩
    rintro _ ⟨⟩ _ mem
    rw [mem_singleton.mp mem, holds]
  | resolved req reso perf =>
    refine ⟨fun undrawn => (by cases (later undrawn).1), once, ?_⟩
    rintro _ ⟨⟩
    rw [Resolution.ticketId_apply]
    exact named req rfl
  | claimed req tid approved unclaimed =>
    have none_minted : tickets = [] := eq_nil_iff_forall_not_mem.mpr fun _ mem => by
      cases unclaimed.symm.trans (named req rfl _ mem)
    subst none_minted
    refine ⟨fun undrawn => (by cases (later undrawn).1), Nat.le_refl 1, ?_⟩
    rintro _ ⟨⟩ _ mem
    exact congrArg some (mem_singleton.mp mem).symm

/-- However decisions and activations of a request overlap, it mints at most one ticket, and names
it for as long as it is stored. -/
theorem mints_one_ticket (world : World) (moves : List (Move Task)) (requestId : Uuid) :
    let reached := (Config.initial { world with requests := .empty }).run system moves
    (minted reached.log requestId).length ≤ 1 ∧
      ∀ request ∈ reached.state.requests.find? requestId, ∀ ticketId ∈ minted reached.log requestId,
        request.ticketId = some ticketId := by
  have accounts := run_invariant (fun _ _ => True) (fun c : Config => Accounts
      (c.state.requests.find? requestId) (requestId ∈ c.state.drawn) (minted c.log requestId))
    (fun _ _ _ kept => kept)
    (fun w _ _ _ stmt _ _ _ _ _ ready kept => kept.step (rowStep_execute stmt w requestId ready))
    (Config.initial { world with requests := .empty }) moves
    (along_of_forall system (fun _ _ => trivial) _ _)
    ⟨fun _ => ⟨rfl, rfl⟩, Nat.zero_le 1, fun _ mem => (by cases mem)⟩
  exact ⟨accounts.once, accounts.named⟩

end

variable (userId targetId : Uuid)

/-! ### One pending request -/

def Statement.asksFor : Statement → Bool
  | insertPending request => request.userId = userId && request.targetId = targetId
  | _ => false

theorem countPending_insertPending_le (w : World) (req : NewRequest) (uid tgt : Uuid) :
    (w.insertPending req).2.countPending uid tgt ≤ w.countPending uid tgt +
        if (Statement.insertPending req).asksFor uid tgt then 1 else 0 := by
  rcases insertPending_cases w req with refused | ⟨requests, -, rows, -, stored⟩
  · rw [refused]
    exact Nat.le_add_right _ _
  · rw [stored]
    show requests.rows.countP _ ≤ _
    rw [rows, countP_cons, show (req.pending w.clock).isPending uid tgt = _ from Bool.and_true _]
    exact Nat.le_refl _

theorem countPending_execute_le (stmt : Statement) (w : World) (uid tgt : Uuid) :
    (execute stmt w).2.countPending uid tgt ≤
      w.countPending uid tgt + if stmt.asksFor uid tgt then 1 else 0 := by
  cases stmt with
  | insertPending req => exact countPending_insertPending_le w req uid tgt
  | insertApproved req ticket =>
    rw [execute]
    rcases insertApproved_cases w req ticket with refused | ⟨requests, _, -, rows, -, stored⟩
    · rw [refused]
      exact Nat.le_refl _
    · rw [stored]
      show requests.rows.countP _ ≤ _
      rw [rows, countP_cons_of_neg (by simp [isPending, NewRequest.approved])]
      exact Nat.le_refl _
  | commitActivation claimed claimer ticket =>
    rw [execute]
    rcases commitActivation_cases w claimed claimer ticket with
      ⟨-, same⟩ | ⟨_, _, _, -, -, -, -, won⟩
    · rw [same]
      exact Nat.le_refl _
    · rw [won]
      exact matching_update_le w.requests (isClaimable claimed claimer)
        (fun req => { req with ticketId := some ticket.draw.ticketId }) (fun _ => rfl)
        (isPending uid tgt) fun r _ pending => pending
  | resolve rid reso =>
    rw [execute]
    refine matching_update_le w.requests _ _
      (fun req => reso.id_apply w.clock req) _ fun r _ pending => ?_
    simp [isPending, reso.status_ne_pending] at pending
  | remove removal =>
    rw [execute]
    cases removal with
    | target removed =>
      rw [remove]
      split
      · exact Nat.le_refl _
      · exact matching_delete_le _ _ _
    | _ => exact matching_delete_le _ _ _
  | change made => cases made <;> exact Nat.le_refl _
  | _ => exact Nat.le_refl _

def countsNone : Event Statement Statement.Outcome → Bool
  | ⟨.countPending user target, count⟩ => user = userId && target = targetId && count = 0
  | _ => false

def stores (event : Event Statement Statement.Outcome) : Bool :=
  event.1.asksFor userId targetId

def creating (thread : Thread Task Statement Statement.Outcome Answer) : Bool :=
  thread.inside (countsNone userId targetId) (stores userId targetId)

def CreationsApart (config : Config) (_ : Task) : Statement → Prop
  | .insertPending request =>
    config.threads.countP (creating request.userId request.targetId) ≤ 1
  | _ => True

instance CreationsApart.decidable (config : Config) (task : Task) (statement : Statement) :
    Decidable (CreationsApart config task statement) := by
  cases statement <;> dsimp only [CreationsApart] <;> infer_instance

def mayStore (history : History Statement.Outcome) : Statement → Prop
  | .insertPending request =>
    history.any (countsNone request.userId request.targetId) = true ∧
      history.any (stores request.userId request.targetId) = false
  | _ => True

theorem createTicketRequest_follows (params : CreateTicketRequestParams) (rid : Uuid)
    (draw : Draw) :
    (createTicketRequest params rid draw).Follows mayStore (fun _ _ => True) [] := by
  simp only [createTicketRequest, act_bind]
  refine ⟨trivial, fun policy => ?_⟩
  dsimp only
  split
  · trivial
  refine ⟨trivial, fun target => ?_⟩
  cases target with
  | none => trivial
  | some target =>
    refine ⟨trivial, fun hasAccess => ?_⟩
    dsimp only
    split
    · trivial
    refine ⟨trivial, fun existingPending => ?_⟩
    dsimp only
    split
    · trivial
    case isFalse noneCounted =>
      have cnt : existingPending = 0 := Nat.eq_zero_of_not_pos noneCounted
      subst cnt
      rw [storeRequest]
      split
      · refine ⟨trivial, fun r => ?_⟩
        cases r <;> trivial
      · refine ⟨⟨by simp [countsNone, newRequest], by simp [stores, Statement.asksFor]⟩,
          fun r => ?_⟩
        cases r <;> trivial

theorem program_follows_mayStore (t : Task) : t.program.Follows mayStore (fun _ _ => True) [] := by
  have resolving : ∀ seen stmt, Statement.resolves stmt → mayStore seen stmt := by
    intro seen stmt ok
    cases stmt <;> trivial
  have activating : ∀ seen stmt, Statement.activates stmt → mayStore seen stmt := by
    intro seen stmt ok
    cases stmt <;> trivial
  cases t with
  | create params rid draw =>
    exact (createTicketRequest_follows params rid draw).seq fun _ _ _ => trivial
  | approve rid adminUserId =>
    exact ((approveTicketRequest_performs rid adminUserId).follows resolving
      fun _ _ => trivial).seq fun _ _ _ => trivial
  | deny rid adminUserId reason =>
    exact ((denyTicketRequest_performs rid adminUserId reason).follows resolving
      fun _ _ => trivial).seq fun _ _ _ => trivial
  | activate rid uid draw =>
    exact ((activateTicketRequest_performs rid uid draw).follows activating
      fun _ _ => trivial).seq fun _ _ _ => trivial
  | cleanUp cut => exact ⟨trivial, fun _ => ⟨trivial, fun _ => trivial⟩⟩
  | _ => exact ⟨trivial, fun _ => trivial⟩

structure OnePending (config : Config) : Prop where
  once : ∀ userId targetId, config.state.countPending userId targetId ≤ 1
  creating : ∀ userId targetId, ∀ thread ∈ config.threads,
    creating userId targetId thread = true → config.state.countPending userId targetId = 0

variable {w : World} {uid tgt : Uuid} {stmt : Statement}
  {hist : History Statement.Outcome}

theorem OnePending.initial (initial : w.Initial) : OnePending (Config.initial w) where
  once := by
    intro uid tgt
    rw [Config.initial, countPending, initial.requests]
    exact Nat.zero_le 1
  creating := by
    intro uid tgt th mem
    cases mem

theorem countPending_of_countsNone (counts : countsNone uid tgt ⟨stmt, (execute stmt w).1⟩ = true) :
    (execute stmt w).2.countPending uid tgt = 0 := by
  cases stmt with
  | countPending user target =>
    simp only [countsNone, Bool.and_eq_true, decide_eq_true_eq] at counts
    obtain ⟨⟨rfl, rfl⟩, noneCounted⟩ := counts
    exact noneCounted
  | _ => cases counts

theorem asksFor_eq_true (stores : stmt.asksFor uid tgt = true) :
    ∃ req : NewRequest, stmt = .insertPending req ∧ req.userId = uid ∧ req.targetId = tgt := by
  cases stmt <;> grind [Statement.asksFor]

theorem OnePending.perform {next : stmt.Outcome → Program Statement Statement.Outcome Answer}
    (sound : OnePending ⟨w, pre ++ ⟨t, hist, .perform stmt next⟩ :: post, log⟩)
    (ok : mayStore hist stmt)
    (apart : CreationsApart ⟨w, pre ++ ⟨t, hist, .perform stmt next⟩ :: post, log⟩ t stmt) :
    OnePending ⟨(execute stmt w).2, pre ++ ⟨t, ⟨stmt, (execute stmt w).1⟩ :: hist,
        next (execute stmt w).1⟩ :: post, ⟨t, stmt, w⟩ :: log⟩ where
  once := by
    intro uid tgt
    have step := countPending_execute_le stmt w uid tgt
    by_cases stores : stmt.asksFor uid tgt = true
    · obtain ⟨req, rfl, rfl, rfl⟩ := asksFor_eq_true stores
      rw [if_pos stores, sound.creating req.userId req.targetId _ mem_append_cons_self
        (Thread.inside_perform.mpr ok)] at step
      exact step
    · rw [if_neg stores] at step
      exact Nat.le_trans step (sound.once uid tgt)
  creating := by
    intro uid tgt
    refine inside_perform (sound.creating uid tgt) countPending_of_countsNone ?_
    by_cases stores : stmt.asksFor uid tgt = true
    · obtain ⟨req, rfl, rfl, rfl⟩ := asksFor_eq_true stores
      exact .inr ⟨stores, alone_of_countP apart (Thread.inside_perform.mpr ok)⟩
    · grind [countPending_execute_le]

/-- Where no two creations of one user for one target overlap, at most one request of a user for a
target is pending. -/
theorem one_pending (world : World) (initial : world.Initial) (moves : List (Move Task))
    (along : Config.Along system (Config.Performing system CreationsApart)
      (Config.initial world) moves) (userId targetId : Uuid) :
    (((Config.initial world).run system moves).state.requests.select
      (TicketRequest.isPending userId targetId)).length ≤ 1 := by
  have sound : OnePending ((Config.initial world).run system moves) := by
    refine (run_invariant_of_protocol program_follows_mayStore
      (Config.Performing system CreationsApart) OnePending ?_ ?_ world moves along
      (OnePending.initial initial)).2
    · intro c t _ sound
      exact ⟨sound.once, fun userId targetId =>
        inside_start (sound.creating userId targetId)⟩
    · intro s before t history statement next after log perm perf ok sound
      exact sound.perform ok (perm.admits system perf)
  rw [Sql.Table.select, ← countP_eq_length_filter]
  exact sound.once userId targetId

def askAgain : List (Move Task) :=
  .start (asks 3 4) :: advances 0 5 ++ .start (.deny 3 none (some "no")) :: advances 1 2 ++
    .start (asks 5 6) :: advances 2 5

theorem one_pending_again :
    (((Config.initial installation).run system askAgain).state.requests.select
        (TicketRequest.isPending 1 2)).length ≤ 1 ∧
      ((Config.initial installation).run system askAgain).state.requests.rows.length = 2 :=
  ⟨one_pending installation installation_initial askAgain (by decide +kernel) 1 2,
    by decide +kernel⟩

def bothAsk : List (Move Task) :=
  .start (asks 3 4) :: advances 0 4 ++ .start (asks 5 6) :: advances 1 5 ++ advances 0 1

theorem two_pending :
    (((Config.initial installation).run system bothAsk).state.requests.select
      (TicketRequest.isPending 1 2)).length = 2 := by
  decide +kernel

end Warpgate.TicketRequests
