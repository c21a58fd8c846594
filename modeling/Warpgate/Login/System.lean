/-
This file models the logins of a cluster of nodes.
-/

import Warpgate.Auth.State
import Warpgate.Concurrent.Rely

namespace Warpgate.Login

open Concurrent Option Approvals
open Approvals (Key Request NewRequest ApprovalDecision)
open Auth (Primitives IpAddr CredentialPolicy StoredCredential AuthStateUserInfo AuthResult
  AuthState Call Effect WebApprovalMatchKey plain)

/-! ### Attempts -/

structure Attempt where
  state : AuthState
  nodeId : NodeId
  locked : Bool
  received : Nat
  forwarding : Bool

def broadcastCapacity : Nat := 8

namespace Attempt

variable (attempt : Attempt)

def key : Key :=
  ⟨attempt.state.sessionId, .user, attempt.state.targetName⟩

def call (made : Call) (attempt : Attempt) : Option Effect × Attempt :=
  ((attempt.state.handle made).1, { attempt with state := (attempt.state.handle made).2 })

def commitBypass : Option Key × Attempt :=
  match attempt.call .commitBypass with
  | (some _, bypassed) => (some attempt.key, { bypassed with locked := true })
  | (none, unchanged) => (none, unchanged)

def request (primitives : Primitives) (attempt : Attempt) : NewRequest where
  sessionId := attempt.state.sessionId
  target := attempt.state.targetName
  nodeId := attempt.nodeId
  protocol := attempt.state.protocol.name
  username := attempt.state.userInfo.username
  userId := attempt.state.userInfo.id
  remoteAddress := attempt.state.remoteIp.map primitives.ipToString
  matchDigest := (attempt.state.webApprovalMatchKey primitives).map (·.identity.digest primitives)
  started := attempt.state.started
  about := .user attempt.state.identificationString

def lockAdvertise (primitives : Primitives) (attempt : Attempt) : Option NewRequest × Attempt :=
  if attempt.state.needsWebApproval then
    (some (attempt.request primitives), { attempt with locked := true })
  else (none, attempt)

def recv : Option AuthResult × Attempt :=
  let sent := attempt.state.stateChangeSignal.length
  if attempt.received + broadcastCapacity < sent then
    (none, { attempt with received := sent - broadcastCapacity, forwarding := true })
  else
    (attempt.state.stateChangeSignal[attempt.received]?,
      { attempt with received := attempt.received + 1, forwarding := true })

def unlock : Attempt := { attempt with locked := false }

def idle : Attempt := { attempt with forwarding := false }

end Attempt

structure NewLogin where
  nodeId : NodeId
  sessionId : UserSessionId
  username : String
  protocol : Protocol
  targetName : String
  policy : CredentialPolicy
  remoteIp : Option IpAddr
  started : OffsetDateTime
  identificationString : String

def Attempt.begin (login : NewLogin) (user : AuthStateUserInfo) : Attempt where
  state := .new login.sessionId login.remoteIp user login.protocol login.targetName login.policy
    login.started login.identificationString
  nodeId := login.nodeId
  locked := false
  received := 0
  forwarding := false

abbrev Users (primitives : Primitives) :=
  Sql.Table AuthStateUserInfo fun user => primitives.toLowercase user.username

structure World (primitives : Primitives) where
  db : Approvals.Db
  users : Users primitives
  nodes : List NodeId
  attempts : List Attempt
  store : NodeId → UserSessionId → Option Nat

/-! ### Statements -/

inductive Statement
  | create (login : NewLogin)
  | call (index : Nat) (made : Call)
  | commitBypass (index : Nat)
  | matchKey (index : Nat)
  | lockAdvertise (index : Nat)
  | unlock (index : Nat)
  | recv (index : Nat)
  | idle (index : Nat)
  | remove (nodeId : NodeId) (sessionId : UserSessionId)
  | removeIfSame (nodeId : NodeId) (sessionId : UserSessionId) (index : Nat)
  | getState (nodeId : NodeId) (sessionId : UserSessionId)
  | deliver (index : Nat) (row : Request) (decision : ApprovalDecision)
  | findUser (username : String)
  | findNode (row : Request)
  | forgetNode (nodeId : NodeId)

@[reducible] def Statement.Outcome : Statement → Type
  | create _ => Unit
  | call _ _ => Option Effect
  | commitBypass _ => Option Key
  | matchKey _ => Option WebApprovalMatchKey
  | lockAdvertise _ => Option NewRequest
  | unlock _ => Unit
  | recv _ => Option AuthResult
  | idle _ => Unit
  | remove _ _ => Unit
  | removeIfSame _ _ _ => Unit
  | getState _ _ => Option Nat
  | deliver _ _ _ => Option Effect
  | findUser _ => Option AuthStateUserInfo
  | findNode _ => Bool
  | forgetNode _ => Unit

variable {primitives : Primitives}

namespace World

def atAttempt {Result : Type} (world : World primitives) (index : Nat) (absent : Result)
    (change : Attempt → Result × Attempt) : Result × World primitives :=
  match world.attempts[index]? with
  | none => (absent, world)
  | some attempt =>
    ((change attempt).1, { world with attempts := world.attempts.set index (change attempt).2 })

def setStore (world : World primitives) (nodeId : NodeId) (sessionId : UserSessionId)
    (index : Option Nat) : World primitives :=
  { world with
    store := fun otherNode otherSession =>
      if otherNode = nodeId ∧ otherSession = sessionId then index
      else world.store otherNode otherSession }

end World

def Statement.execute (primitives : Primitives) :
    (statement : Statement) → World primitives → statement.Outcome × World primitives
  | create login, world =>
    match world.users.find? (primitives.toLowercase login.username) with
    | none => ((), world)
    | some user =>
      let begun := { world with attempts := world.attempts ++ [Attempt.begin login user] }
      ((), begun.setStore login.nodeId login.sessionId (some world.attempts.length))
  | call index made, world => world.atAttempt index none (Attempt.call made)
  | commitBypass index, world => world.atAttempt index none Attempt.commitBypass
  | matchKey index, world =>
    (world.attempts[index]?.bind fun attempt => attempt.state.webApprovalMatchKey primitives,
      world)
  | lockAdvertise index, world =>
    world.atAttempt index none (Attempt.lockAdvertise primitives)
  | unlock index, world => world.atAttempt index () fun attempt => ((), attempt.unlock)
  | recv index, world => world.atAttempt index none Attempt.recv
  | idle index, world => world.atAttempt index () fun attempt => ((), attempt.idle)
  | remove nodeId sessionId, world => ((), world.setStore nodeId sessionId none)
  | removeIfSame nodeId sessionId index, world =>
    ((), if world.store nodeId sessionId = some index then
      world.setStore nodeId sessionId none else world)
  | getState nodeId sessionId, world => (world.store nodeId sessionId, world)
  | deliver index row decision, world =>
    world.atAttempt index none (Attempt.call (.deliver row.target row.userId decision))
  | findUser username, world => (world.users.find? (primitives.toLowercase username), world)
  | findNode row, world => (row.nodeId ∈ world.nodes, world)
  | forgetNode nodeId, world => ((), { world with nodes := world.nodes.filter (· ≠ nodeId) })

abbrev AnyStatement := Approvals.Statement ⊕ Statement

abbrev AnyStatement.Outcome : AnyStatement → Type :=
  Sum.elim Approvals.Statement.Outcome Statement.Outcome

def execute (primitives : Primitives) :
    (statement : AnyStatement) → World primitives →
      AnyStatement.Outcome statement × World primitives
  | .inl statement, world =>
    ((Approvals.execute statement world.db).1,
      { world with db := (Approvals.execute statement world.db).2 })
  | .inr statement, world => statement.execute primitives world

def ready (primitives : Primitives) : AnyStatement → World primitives → Bool
  | .inr (.call index _), world
  | .inr (.commitBypass index), world
  | .inr (.matchKey index), world
  | .inr (.lockAdvertise index), world
  | .inr (.deliver index _ _), world => world.attempts[index]?.any (!·.locked)
  | .inr (.recv index), world =>
    world.attempts[index]?.any fun attempt =>
      !attempt.forwarding && attempt.received < attempt.state.stateChangeSignal.length
  | _, _ => true

abbrev Action (Result : Type) := Program AnyStatement AnyStatement.Outcome Result

abbrev act (statement : Statement) : Action statement.Outcome :=
  Program.perform (Sum.inr statement) Program.done

abbrev ask {Result : Type} (program : Approvals.Query Result) : Action Result := program.lift

/-! ### Programs -/

def tryWebApprovalBypass (primitives : Primitives) (index : Nat) (now closedAt : OffsetDateTime) :
    Action Bool := do
  match ← ask Approvals.webApprovalGracePeriod with
  | none => pure false
  | some grace =>
    match ← act (.matchKey index) with
    | none => pure false
    | some key =>
      if ← ask (Approvals.approvalIsRemembered primitives key grace now) then
        match ← act (.commitBypass index) with
        | none => pure false
        | some asked =>
          let _ ← ask
            (Approvals.closeRequest asked.sessionId asked.kind asked.target .abandoned closedAt)
          act (.unlock index)
          pure true
      else pure false

def advertiseUserRequest (index : Nat) : Action Bool := do
  match ← act (.lockAdvertise index) with
  | none => pure false
  | some request =>
    let _ ← ask (Approvals.upsertRequest request)
    act (.unlock index)
    pure true

def onWebApprovalNeeded (primitives : Primitives) (index : Nat) (now closedAt : OffsetDateTime) :
    Action Unit := do
  if ← tryWebApprovalBypass primitives index now closedAt then pure ()
  else
    let _ ← advertiseUserRequest index

def forwardWebAuthRequest (primitives : Primitives) (index : Nat)
    (now closedAt : OffsetDateTime) : Action Unit := do
  match ← act (.recv index) with
  | some (.need kinds) =>
    if .webUserApproval ∈ kinds then
      onWebApprovalNeeded primitives index now closedAt
      act (.idle index)
    else act (.idle index)
  | _ => act (.idle index)

def deliverUserDecision (nodeId : NodeId) (row : Request) (now : OffsetDateTime) :
    Action Bool := do
  match Approvals.rowState row with
  | .decided decision =>
    match ← act (.getState nodeId row.sessionId) with
    | none =>
      ask (Approvals.markConsumed ⟨row.sessionId, .user, row.target⟩ now)
      pure false
    | some index =>
      let effect ← act (.deliver index row decision)
      ask (Approvals.markConsumed ⟨row.sessionId, .user, row.target⟩ now)
      pure effect.isSome
  | _ => pure false

def deliverEach (nodeId : NodeId) (now : OffsetDateTime) : List Request → Action Unit
  | [] => pure ()
  | row :: rows => do
    let _ ← deliverUserDecision nodeId row now
    deliverEach nodeId now rows

def applyUserDecisions (nodeId : NodeId) (sessionId : Option UserSessionId)
    (now : OffsetDateTime) : Action Unit := do
  deliverEach nodeId now
    (← ask (Approvals.query (.undeliveredUserApprovals nodeId sessionId)))

def findUserApproval (primitives : Primitives) (username : String) (sessionId : UserSessionId)
    (pick : Nat) : Action (Option Request) := do
  let rows ← ask (Approvals.query (.pendingUserApprovals sessionId))
  pure (rows[pick % rows.length]?.filter fun row =>
    primitives.toLowercase row.username = primitives.toLowercase username)

def parsePendingApproval (nodeId : NodeId) (row : Request) (now : OffsetDateTime) :
    Action Bool := do
  if row.nodeId ≠ nodeId then
    if ← act (.findNode row) then pure true
    else
      let _ ← ask (Approvals.closeRequest row.sessionId row.kind row.target .abandoned now)
      pure false
  else pure true

def resolveOwnApproval (primitives : Primitives) (nodeId : NodeId) (username : String)
    (sessionId : UserSessionId) (pick : Nat) (decision : ApprovalDecision)
    (now : OffsetDateTime) : Action Unit := do
  match ← act (.findUser username) with
  | none => pure ()
  | some user =>
    match ← findUserApproval primitives user.username sessionId pick with
    | none => pure ()
    | some row =>
      if ← parsePendingApproval nodeId row now then
        if ← ask (Approvals.recordDecision row.sessionId row.kind row.target decision
            ⟨some user.username, user.id⟩ now) then
          applyUserDecisions nodeId (some sessionId) now

inductive Task
  | login (login : NewLogin)
  | submitCredential (index : Nat) (validated : Except Unit (Option StoredCredential))
  | requireStepUp (index : Nat)
  | cancel (nodeId : NodeId) (sessionId : UserSessionId) (index : Nat)
  | drop (nodeId : NodeId) (sessionId : UserSessionId)
  | forward (index : Nat) (now closedAt : OffsetDateTime)
  | resolveOwnApproval (nodeId : NodeId) (username : String) (sessionId : UserSessionId)
      (pick : Nat) (decision : ApprovalDecision) (now : OffsetDateTime)
  | applyUserDecisions (nodeId : NodeId) (sessionId : Option UserSessionId)
      (now : OffsetDateTime)
  | abandonSession (sessionId : UserSessionId) (now : OffsetDateTime)
  | abandonBefore (cutoff now : OffsetDateTime)
  | prune (cutoff : OffsetDateTime)
  | forgetNode (nodeId : NodeId)

def Task.program (primitives : Primitives) : Task → Action Unit
  | login begun => act (.create begun)
  | submitCredential index validated => do
    let _ ← act (.call index (.submitCredential validated))
  | requireStepUp index => do let _ ← act (.call index .requireStepUp)
  | cancel nodeId sessionId index => do
    let _ ← act (.call index .reject)
    act (.removeIfSame nodeId sessionId index)
  | drop nodeId sessionId => act (.remove nodeId sessionId)
  | forward index now closedAt => forwardWebAuthRequest primitives index now closedAt
  | resolveOwnApproval nodeId username sessionId pick decision now =>
    Login.resolveOwnApproval primitives nodeId username sessionId pick decision now
  | applyUserDecisions nodeId sessionId now => Login.applyUserDecisions nodeId sessionId now
  | abandonSession sessionId now => ask (Approvals.abandonRequestsForSession sessionId now)
  | abandonBefore cutoff now => ask (Approvals.abandonAllRequestedBefore cutoff now)
  | prune cutoff => ask (Approvals.deleteAllBefore cutoff)
  | forgetNode nodeId => act (.forgetNode nodeId)

def system (primitives : Primitives) :
    System Task AnyStatement AnyStatement.Outcome (World primitives) Unit where
  program := Task.program primitives
  execute := execute primitives
  ready := ready primitives

abbrev State (primitives : Primitives) :=
  Config Task AnyStatement AnyStatement.Outcome (World primitives) Unit

def World.fresh {primitives : Primitives} (users : Users primitives)
    (tickets : Sql.Table Approvals.Ticket Approvals.Ticket.id)
    (parameters : Approvals.Parameters) (nodes : List NodeId) : World primitives where
  db := { tickets := tickets, requests := .empty, parameters := parameters }
  users := users
  nodes := nodes
  attempts := []
  store := fun _ _ => none

def aliceAndBob : Users plain :=
  ((Sql.Table.empty.insert ⟨8, "bob"⟩).2.insert ⟨7, "alice"⟩).2

def NewLogin.needingApproval (username : String) (started : OffsetDateTime) : NewLogin where
  nodeId := 1
  sessionId := 1
  username := username
  protocol := .ssh
  targetName := "db"
  policy := .all {.webUserApproval} {.webUserApproval}
  remoteIp := some (.v4 1)
  started := started
  identificationString := "abcd"

def nobodyIn : World plain := .fresh aliceAndBob .empty ⟨none, none, none⟩ [1]

def aliceAsked : List (Move Task) :=
  [.start (.login (.needingApproval "alice" 10)), .advance 0,
    .start (.forward 0 11 12), .advance 1, .advance 1, .advance 1, .advance 1, .advance 1,
    .advance 1, .advance 1, .advance 1]

variable {P : Primitives}

/-! ### What the programs perform -/

section

variable {allowed ok : AnyStatement → Prop} (i : Nat) (now closed : OffsetDateTime)

theorem tryWebApprovalBypass_performs (reads : allowed (.inl .getParameters))
    (keys : allowed (.inr (.matchKey i)))
    (looks : ∀ kind cut target, allowed (.inl (.approvedSince kind cut target)))
    (commits : allowed (.inr (.commitBypass i)))
    (closes : ∀ asked : Key, (ask (closeRequest asked.sessionId asked.kind asked.target
      .abandoned closed)).Performs allowed) (unlocks : allowed (.inr (.unlock i))) :
    (tryWebApprovalBypass P i now closed).Performs allowed := by
  have readsPeriod : (ask webApprovalGracePeriod).Performs allowed := ⟨reads, fun _ => trivial⟩
  refine readsPeriod.bind fun grace => ?_
  cases grace with
  | none => trivial
  | some grace =>
    refine ⟨keys, fun k => ?_⟩
    cases k with
    | none => trivial
    | some k =>
      have looksUp : (ask (approvalIsRemembered P k grace now)).Performs
          allowed := ⟨looks _ _ _, fun _ => trivial⟩
      refine looksUp.bind fun remembered => ?_
      cases remembered with
      | false => trivial
      | true =>
        refine ⟨commits, fun asked => ?_⟩
        cases asked with
        | none => trivial
        | some asked => exact (closes asked).bind fun _ => ⟨unlocks, fun _ => trivial⟩

theorem advertiseUserRequest_performs (locks : ok (.inr (.lockAdvertise i)))
    (asks : ∀ req, (ask (upsertRequest req)).Performs ok)
    (unlocks : ok (.inr (.unlock i))) : (advertiseUserRequest i).Performs ok := by
  refine ⟨locks, fun req => ?_⟩
  cases req with
  | none => trivial
  | some req => exact (asks req).bind fun _ => ⟨unlocks, fun _ => trivial⟩

theorem forwardWebAuthRequest_performs (receives : ok (.inr (.recv i)))
    (bypasses : (tryWebApprovalBypass P i now closed).Performs ok)
    (advertises : (advertiseUserRequest i).Performs ok) (idles : ok (.inr (.idle i))) :
    (forwardWebAuthRequest P i now closed).Performs ok := by
  refine ⟨receives, fun v => ?_⟩
  have idle : (act (.idle i)).Performs ok := ⟨idles, fun _ => trivial⟩
  rcases v with - | accepted | ks | -
  · exact idle
  · exact idle
  · show Program.Performs _ (if Auth.CredentialKind.webUserApproval ∈ ks then _ else _)
    have needed : (onWebApprovalNeeded P i now closed).Performs ok := by
      refine bypasses.bind fun bypassed => ?_
      cases bypassed with
      | true => trivial
      | false => exact advertises.bind fun _ => trivial
    split
    · exact needed.bind fun _ => idle
    · exact idle
  · exact idle

theorem deliverEach_performs (nid : NodeId) (now : OffsetDateTime) (rows : List Request)
    (gets : ∀ sid, ok (.inr (.getState nid sid)))
    (delivers : ∀ i r dec, ok (.inr (.deliver i r dec)))
    (consumes : ∀ k, ok (.inl (.markConsumed k now))) : (deliverEach nid now rows).Performs ok := by
  have each : ∀ r, (deliverUserDecision nid r now).Performs ok := by
    intro r
    unfold deliverUserDecision
    cases rowState r with
    | decided dec =>
      refine ⟨gets r.sessionId, fun i => ?_⟩
      cases i with
      | none => exact ⟨consumes _, fun _ => trivial⟩
      | some i => exact ⟨delivers i r dec, fun _ => ⟨consumes _, fun _ => trivial⟩⟩
    | _ => trivial
  induction rows with
  | nil => trivial
  | cons r rows ih => exact (each r).bind fun _ => ih

theorem resolveOwnApproval_performs (nodeId : NodeId) (username : String)
    (sessionId : UserSessionId) (pick : Nat) (decision : ApprovalDecision) (now : OffsetDateTime)
    (finds : allowed (.inr (.findUser username)))
    (reads : allowed (.inl (.pendingUserApprovals sessionId)))
    (looks : ∀ row, allowed (.inr (.findNode row)))
    (closes : ∀ row : Request, (ask (closeRequest row.sessionId row.kind row.target
      .abandoned now)).Performs allowed)
    (records : ∀ (row : Request) actor, (ask (recordDecision row.sessionId row.kind
      row.target decision actor now)).Performs allowed)
    (applies : (applyUserDecisions nodeId (some sessionId) now).Performs allowed) :
    (resolveOwnApproval P nodeId username sessionId pick decision now).Performs allowed := by
  refine ⟨finds, fun user => ?_⟩
  cases user with
  | none => trivial
  | some user =>
    have findsOwn : (findUserApproval P user.username sessionId pick).Performs allowed :=
      ⟨reads, fun _ => trivial⟩
    refine findsOwn.bind fun found => ?_
    cases found with
    | none => trivial
    | some row =>
      have parses : (parsePendingApproval nodeId row now).Performs allowed := by
        unfold parsePendingApproval
        split
        · refine ⟨looks row, fun alive => ?_⟩
          cases alive with
          | true => trivial
          | false => exact (closes row).bind fun _ => trivial
        · trivial
      refine parses.bind fun parsed => ?_
      cases parsed with
      | false => trivial
      | true =>
        refine (records row _).bind fun recorded => ?_
        cases recorded with
        | true => exact applies
        | false => trivial

end

def Statement.forwards : Statement → Option Nat
  | commitBypass index | matchKey index | lockAdvertise index | unlock index | recv index
  | idle index => some index
  | _ => none

def Task.forwardedIndex : Task → Option Nat
  | forward index _ _ => some index
  | _ => none

def Task.MayPerform : Task → AnyStatement → Prop
  | forward index _ _, .inr statement => statement.forwards = some index
  | _, .inr statement => statement.forwards = none
  | _, .inl _ => True

theorem Task.program_performs (P : Primitives) (task : Task) :
    (task.program P).Performs task.MayPerform := by
  have asks : ∀ {Result : Type} (program : Query Result),
      (ask program).Performs task.MayPerform := by
    intro Result program
    induction program with
    | done result => trivial
    | perform statement next ih => exact ⟨by cases task <;> trivial, ih⟩
  cases task with
  | forward index now closedAt =>
    refine forwardWebAuthRequest_performs index now closedAt rfl ?_ ?_ rfl
    · exact tryWebApprovalBypass_performs index now closedAt trivial rfl (fun _ _ _ => trivial)
        rfl (fun _ => asks _) rfl
    · exact advertiseUserRequest_performs index rfl (fun _ => asks _) rfl
  | resolveOwnApproval nodeId username sessionId pick decision now =>
    refine resolveOwnApproval_performs nodeId username sessionId pick decision now rfl trivial
      (fun _ => rfl) (fun _ => asks _) (fun _ _ => asks _) ⟨trivial, fun rows => ?_⟩
    exact deliverEach_performs nodeId now rows (fun _ => rfl) (fun _ _ _ => rfl) fun _ => trivial
  | applyUserDecisions nodeId sessionId now =>
    exact ⟨trivial, fun rows => deliverEach_performs nodeId now rows (fun _ => rfl)
      (fun _ _ _ => rfl) fun _ => trivial⟩
  | abandonSession sessionId now | abandonBefore cutoff now | prune cutoff => exact asks _
  | cancel nodeId sessionId index => exact ⟨rfl, fun _ => ⟨rfl, fun _ => trivial⟩⟩
  | _ => exact ⟨rfl, fun _ => trivial⟩

theorem mayPerform_of_run (w : World P)
    (ms : List (Move Task)) {m : Move Task} {t : Task} {stmt : AnyStatement}
    (perf : ((Config.initial w).run (system P) ms).performed
      (system P) m = some (t, stmt)) : t.MayPerform stmt := by
  obtain ⟨hist, next, mem⟩ := Config.mem_of_performed (system P) perf
  exact (Config.run_follows (fun t _ stmt => t.MayPerform stmt)
    (fun _ _ _ => True) (fun t => (t.program_performs P).follows
      (fun _ _ ok => ok) fun _ _ => trivial) w ms _ mem).1

/-! ### What a statement does to an attempt -/

section

def Statement.change (primitives : Primitives) (index : Nat) : AnyStatement → Attempt → Attempt
  | .inr (.call place made), attempt => if place = index then (attempt.call made).2 else attempt
  | .inr (.commitBypass place), attempt => if place = index then attempt.commitBypass.2 else attempt
  | .inr (.lockAdvertise place), attempt =>
    if place = index then (attempt.lockAdvertise primitives).2 else attempt
  | .inr (.unlock place), attempt => if place = index then attempt.unlock else attempt
  | .inr (.recv place), attempt => if place = index then attempt.recv.2 else attempt
  | .inr (.idle place), attempt => if place = index then attempt.idle else attempt
  | .inr (.deliver place row decision), attempt =>
    if place = index then (attempt.call (.deliver row.target row.userId decision)).2 else attempt
  | _, attempt => attempt

def Statement.begun (world : World primitives) : AnyStatement → Option Attempt
  | .inr (.create login) =>
    (world.users.find? (primitives.toLowercase login.username)).map (.begin login)
  | _ => none

open Statement

theorem World.attempts_atAttempt {Result : Type} (w : World P) (place : Nat)
    (absent : Result) (change : Attempt → Result × Attempt) (i : Nat) :
    (w.atAttempt place absent change).2.attempts[i]? = w.attempts[i]?.map fun att =>
        if place = i then (change att).2 else att := by
  grind [atAttempt]

variable {w : World P} {i : Nat} {att : Attempt}

theorem World.atAttempt_of_found {Result : Type} (found : w.attempts[i]? = some att)
    (absent : Result) (change : Attempt → Result × Attempt) :
    (w.atAttempt i absent change).1 = (change att).1 := by
  simp only [atAttempt, found]

theorem Attempt.state_commitBypass (att : Attempt) :
    att.commitBypass.2.state = (att.state.handle .commitBypass).2 := by
  unfold commitBypass call
  cases (att.state.handle .commitBypass).1 <;> rfl

theorem Attempt.state_lockAdvertise (att : Attempt) :
    (att.lockAdvertise P).2.state = att.state := by
  unfold lockAdvertise
  split <;> rfl

theorem Attempt.state_recv (att : Attempt) : att.recv.2.state = att.state := by
  unfold recv
  simp only
  split <;> rfl

theorem state_change (P : Primitives) (i : Nat) (stmt : AnyStatement) (att : Attempt) :
    (change P i stmt att).state = att.state ∨
      ∃ made, (change P i stmt att).state = (att.state.handle made).2 := by
  unfold change
  split
  all_goals first
    | exact .inl rfl
    | split
  all_goals first
    | exact .inl rfl
    | exact .inr ⟨_, rfl⟩
    | exact .inr ⟨_, att.state_commitBypass⟩
    | exact .inl att.state_lockAdvertise
    | exact .inl att.state_recv

theorem about_change (P : Primitives) (i : Nat) (stmt : AnyStatement) (att : Attempt) :
    (change P i stmt att).state.about = att.state.about := by
  rcases state_change P i stmt att with same | ⟨made, same⟩
  · rw [same]
  · rw [same, AuthState.about_handle]

variable (stmt : AnyStatement)

theorem attempts_execute (w : World P) (i : Nat) :
    (execute P stmt w).2.attempts[i]? = (w.attempts[i]?.map (change P i stmt)).or
        (if i = w.attempts.length then begun w stmt else none) := by
  have unchanged : w.attempts[i]? = (w.attempts[i]?.map fun att => att).or
        (if i = w.attempts.length then none else none) := by
    rw [ite_self, or_none, map_id']
  have changed : ∀ found : Option Attempt,
      found = found.or (if i = w.attempts.length then none else none) := fun found => by
    rw [ite_self, or_none]
  cases stmt with
  | inl stmt => exact unchanged
  | inr stmt =>
    cases stmt with
    | create login =>
      show _ = (w.attempts[i]?.map fun att => att).or _
      rw [map_id']
      simp only [execute, Statement.execute, Statement.begun]
      cases w.users.find? (P.toLowercase login.username) with
      | none => exact changed _
      | some user =>
        simp only [World.setStore, List.getElem?_append, List.getElem?_singleton, map_some]
        split
        · next inRange => simp [inRange]
        · grind
    | removeIfSame nid sid place =>
      simp only [execute, Statement.execute]
      split <;> exact unchanged
    | call place made | commitBypass place | lockAdvertise place | recv place
    | deliver place r dec =>
      exact (w.attempts_atAttempt place none _ i).trans (changed _)
    | unlock place | idle place => exact (w.attempts_atAttempt place () _ i).trans (changed _)
    | _ => exact unchanged

theorem attempt_execute (found : w.attempts[i]? = some att) :
    (execute P stmt w).2.attempts[i]? = some (change P i stmt att) := by
  rw [attempts_execute, found, map_some, some_or]

theorem attempt_of_execute {stmt : AnyStatement}
    (found : (execute P stmt w).2.attempts[i]? = some att) :
    (∃ pre, w.attempts[i]? = some pre ∧ att = change P i stmt pre) ∨
    ∃ login user, stmt = .inr (.create login) ∧
      w.users.find? (P.toLowercase login.username) = some user ∧
      i = w.attempts.length ∧ att = .begin login user := by
  rw [attempts_execute, or_eq_some_iff] at found
  rcases found with changed | ⟨-, begun⟩
  · grind
  · split at begun
    · next last =>
      unfold Statement.begun at begun
      split at begun
      · next login =>
        obtain ⟨user, named, same⟩ := map_eq_some_iff.mp begun
        exact .inr ⟨login, user, rfl, named, last, same.symm⟩
      · cases begun
    · cases begun

theorem execute_inr (stmt : Statement) (w : World P) :
    ∃ nodes atts store, (execute P (.inr stmt) w).2 =
      { w with nodes := nodes, attempts := atts, store := store } := by
  have atAttempt : ∀ {Result : Type} (i : Nat) (absent : Result)
      (change : Attempt → Result × Attempt),
      ∃ nodes atts store, (w.atAttempt i absent change).2 =
        { w with nodes := nodes, attempts := atts, store := store } := by
    intro Result i absent change
    unfold World.atAttempt
    split <;> exact ⟨_, _, _, rfl⟩
  cases stmt with
  | create login | removeIfSame nid sid place =>
    simp only [execute, Statement.execute]
    split <;> exact ⟨_, _, _, rfl⟩
  | call _ _ | commitBypass _ | lockAdvertise _ | unlock _ | recv _ | idle _ | deliver _ _ _ =>
    exact atAttempt _ _ _
  | _ => exact ⟨_, _, _, rfl⟩

theorem users_execute (w : World P) : (execute P stmt w).2.users = w.users := by
  cases stmt with
  | inl stmt => rfl
  | inr stmt =>
    obtain ⟨_, _, _, same⟩ := execute_inr stmt w
    rw [same]

theorem db_execute_inr (stmt : Statement) (w : World P) :
    (execute P (.inr stmt) w).2.db = w.db := by
  obtain ⟨_, _, _, same⟩ := execute_inr stmt w
  rw [same]

theorem lockAdvertise_eq_some_iff {req : NewRequest} :
    (execute P (.inr (.lockAdvertise i)) w).1 = some req ↔ ∃ att, w.attempts[i]? = some att ∧
        att.state.needsWebApproval = true ∧ req = att.request P := by
  simp only [execute, Statement.execute, World.atAttempt]
  cases w.attempts[i]? with
  | none => simp
  | some att =>
    by_cases needs : att.state.needsWebApproval = true
    · simp only [Attempt.lockAdvertise, needs, if_true]
      constructor
      · exact fun same => ⟨att, rfl, needs, (some.inj same).symm⟩
      · grind
    · simp [Attempt.lockAdvertise, needs]

end

end Warpgate.Login
