/-
This file is about admissions to targets that require an approval.
-/

import Warpgate.Sessions.System

namespace Warpgate.Sessions

open Concurrent List Config Connection Option Approvals
open Access (TargetAuthorization ApprovedTarget)
open Approvals (Request Parameters secondsToDuration)
open Auth (Primitives WebApprovalMatchKey plain)

abbrev Logged := Entry Task AnyStatement World

/-! ### Causes of an admission -/

def Registers (entry : Logged) (connection : Connection) (preferredId : TargetSessionId)
    (authorization : TargetAuthorization) : Prop :=
  entry.task = .connect connection ∧
    entry.statement = .inr (.openOrLookup preferredId connection.handle.userSessionId authorization)

variable (primitives : Primitives)

def Opens (entry : Logged) (sessionId : UserSessionId)
    (authorization : TargetAuthorization) : Prop :=
  (∃ preferredId, entry.statement = .inr (.openOrLookup preferredId sessionId authorization)) ∧
    (execute primitives entry.statement entry.before).2.isOpen sessionId authorization.target.id =
      true

def FoundOpen (log : List Logged) (sessionId : UserSessionId)
    (targetId : Uuid) (opening : Logged) (granted : TargetAuthorization) (older : List Logged) :
    Prop :=
  ∃ newer checked between, log = newer ++ checked :: (between ++ opening :: older) ∧
    checked.before.isOpen sessionId targetId = true ∧
    Opens primitives opening sessionId granted ∧ granted.target.id = targetId

inductive Admitted (primitives : Primitives) (lenient : Prop) : List Logged → Logged → Prop
  | approved {log : List Logged} {entry asked : Logged} {connection : Connection}
      {preferredId : TargetSessionId} {authorization : TargetAuthorization} {row : Request}
      (registers : Registers entry connection preferredId authorization) (earlier : asked ∈ log)
      (found : asked.before.approvals.requests.find? (connection.subject authorization).key =
        some row)
      (approved : row.status = .approved) : Admitted primitives lenient log entry
  | remembered {log : List Logged} {entry configured asked found : Logged}
      {connection : Connection} {preferredId : TargetSessionId}
      {authorization : TargetAuthorization} {key : WebApprovalMatchKey} {grace : Duration}
      {row : Request} (registers : Registers entry connection preferredId authorization)
      (own : ∀ step ∈ [configured, asked, found], step ∈ log ∧ step.task = .connect connection)
      (matched : (connection.subject authorization).matchKey primitives = some key)
      (period : configured.before.approvals.parameters.adminApprovalGracePeriodSeconds.bind
        secondsToDuration = some grace)
      (stored : row ∈ found.before.approvals.requests.rows)
      (covers : row.covers primitives key (asked.before.clock - grace)) :
      Admitted primitives lenient log entry
  | alreadyOpen {log older : List Logged} {entry opening : Logged} {connection : Connection}
      {preferredId : TargetSessionId} {authorization granted : TargetAuthorization}
      (registers : Registers entry connection preferredId authorization)
      (foundOpen : FoundOpen primitives log connection.handle.userSessionId
        authorization.target.id opening granted older)
      (admitted : Admitted primitives lenient older opening) :
      Admitted primitives lenient log entry
  | openedUngated {log older : List Logged} {entry opening : Logged} {connection : Connection}
      {preferredId : TargetSessionId} {authorization granted : TargetAuthorization}
      (isLenient : lenient) (registers : Registers entry connection preferredId authorization)
      (foundOpen : FoundOpen primitives log connection.handle.userSessionId
        authorization.target.id opening granted older)
      (ungated : granted.target.requireApproval = false) : Admitted primitives lenient log entry

variable {auth : TargetAuthorization}

/-! ### What a connection has seen -/

section

variable (primitives : Primitives) (connection : Connection)

abbrev SessionEvents := History AnyStatement.Outcome

def SawApproved (authorization : TargetAuthorization) (seen : SessionEvents) : Prop :=
  ∃ row : Request, row.status = .approved ∧
    ⟨.inl (.findRow (connection.subject authorization).key), some row⟩ ∈ seen

def SawRemembered (authorization : TargetAuthorization) (seen : SessionEvents) : Prop :=
  ∃ (key : WebApprovalMatchKey) (parameters : Parameters) (grace : Duration)
    (now : OffsetDateTime) (rows : List Request),
    (connection.subject authorization).matchKey primitives = some key ∧
    parameters.adminApprovalGracePeriodSeconds.bind secondsToDuration = some grace ∧
    ⟨.inl .getParameters, parameters⟩ ∈ seen ∧ ⟨.inr (.read .now), now⟩ ∈ seen ∧
    ⟨.inl (.approvedSince key.identity.kind (now - grace) key.askedTarget), rows⟩ ∈ seen ∧
    (rows.any fun row => row.matchDigest = some (key.identity.digest primitives)) = true

def SawOpen (authorization : TargetAuthorization) (seen : SessionEvents) : Prop :=
  ⟨.inr (.read (.isOpen connection.handle.userSessionId authorization.target.id)), true⟩ ∈ seen

def SawCause (authorization : TargetAuthorization) (seen : SessionEvents) : Prop :=
  authorization.target.requireApproval = true →
    SawApproved connection authorization seen ∨
      SawRemembered primitives connection authorization seen ∨
      SawOpen connection authorization seen

def Connection.Requires (seen : SessionEvents) (statement : AnyStatement) : Prop :=
  ∀ preferredId sessionId authorization,
    statement = .inr (.openOrLookup preferredId sessionId authorization) →
    sessionId = connection.handle.userSessionId ∧ SawCause primitives connection authorization seen

variable {primitives P connection conn} {Result : Type} {authorization : TargetAuthorization}
  {history hist : SessionEvents}

theorem SawCause.cons (ev : Event AnyStatement AnyStatement.Outcome)
    (cause : SawCause P conn auth hist) : SawCause P conn auth (ev :: hist) := by
  intro required
  rcases cause required with ⟨r, approved, seen⟩ |
    ⟨k, params, grace, now, rows, matched, period, configured, asked, found, covers⟩ | isOpen
  · exact .inl ⟨r, approved, .tail _ seen⟩
  · exact .inr (.inl ⟨k, params, grace, now, rows, matched, period,
      .tail _ configured, .tail _ asked, .tail _ found, covers⟩)
  · exact .inr (.inr (.tail _ isOpen))

theorem Connection.requires_of_ordinary {statement : AnyStatement} (seen : SessionEvents)
    (ordinary : statement.Ordinary) : connection.Requires P seen statement := by
  rintro preferredId sessionId authorization rfl
  cases ordinary.2

variable {prog : Action Result} {approved : ApprovedTarget}

theorem follows_of_ordinary (ordinary : prog.Ordinary)
    {known : SessionEvents → Prop} (grows : ∀ seen event, known seen → known (event :: seen))
    (holds : known hist) : prog.Follows (connection.Requires P) (fun seen _ => known seen) hist :=
  ordinary.follows_keeping (fun seen _ => requires_of_ordinary seen)
    (fun seen ev _ => grows seen ev) holds

theorem passes (ordinary : prog.Ordinary) :
    prog.Follows (connection.Requires P) (fun _ _ => True) history :=
  ordinary.follows (fun seen _ => requires_of_ordinary seen) fun _ _ => trivial

theorem adminApprovalIsRemembered_follows (authorization : TargetAuthorization) :
    (adminApprovalIsRemembered P (connection.subject authorization)).Follows (connection.Requires P)
      (fun seen remembered => remembered = true →
        SawRemembered P connection authorization seen) history := by
  unfold adminApprovalIsRemembered
  split
  · exact fun no => by cases no
  next key matched =>
  refine ⟨requires_of_ordinary _ ⟨rfl, rfl⟩, fun parameters => ?_⟩
  change Program.Follows _ _ _ (Program.bind (Program.done
    (bind (show Parameters from parameters).adminApprovalGracePeriodSeconds secondsToDuration)) _)
  cases period : bind (show Parameters from parameters).adminApprovalGracePeriodSeconds
    secondsToDuration with
  | none => exact fun no => by cases no
  | some grace =>
    refine ⟨requires_of_ordinary _ ⟨rfl, rfl⟩, fun now => ?_⟩
    refine ⟨requires_of_ordinary _ ⟨rfl, rfl⟩, fun rows found => ?_⟩
    exact ⟨key, parameters, grace, now, rows, matched, period, by simp, by simp, by simp, found⟩

theorem sawApproved_of_rowState {r : Request} {scope : ApprovalScope}
    (decided : rowState r = .decided (.approved scope)) :
    SawApproved conn auth (⟨.inl (.findRow (conn.subject auth).key), some r⟩ :: hist) :=
  ⟨r, status_of_rowState_approved decided, .head _⟩

theorem findRow_follows (authorization : TargetAuthorization) :
    (findRow (connection.subject authorization)).Follows (connection.Requires P)
      (fun seen found =>
        seen = ⟨.inl (.findRow (connection.subject authorization).key), found⟩ :: history)
      history :=
  ⟨requires_of_ordinary _ ⟨rfl, rfl⟩, fun _ => rfl⟩

theorem awaitRowDecision_follows (auth : TargetAuthorization) (polls : Nat) :
    (awaitRowDecision (conn.subject auth) polls).Follows (conn.Requires P)
      (fun seen out => ∀ scope, out = .decided (.approved scope) →
        SawApproved conn auth seen) hist := by
  induction polls generalizing hist with
  | zero => exact fun scope no => by cases no
  | succ polls ih =>
    refine (findRow_follows auth).seq fun seen found sees => ?_
    subst sees
    cases found with
    | none => exact fun scope no => by cases no
    | some r =>
      dsimp only
      split
      · exact ih
      · next dec decided =>
        rintro scope same
        obtain rfl := DecisionWaitOutcome.decided.inj same
        exact sawApproved_of_rowState decided
      · exact fun scope no => by cases no

theorem rowDecision_follows (auth : TargetAuthorization) :
    (rowDecision (conn.subject auth)).Follows (conn.Requires P)
      (fun seen dec => ∀ scope, dec = some (.approved scope) →
        SawApproved conn auth seen) hist := by
  refine (findRow_follows auth).seq fun seen found sees => ?_
  subst sees
  cases found with
  | none => exact fun scope no => by cases no
  | some r =>
    dsimp only
    split
    · next dec decided =>
      rintro scope same
      obtain rfl := some.inj same
      exact sawApproved_of_rowState decided
    · exact fun scope no => by cases no
    · exact fun scope no => by cases no

def Causes (primitives : Primitives) (connection : Connection)
    (authorization : TargetAuthorization) (seen : SessionEvents) (approved : ApprovedTarget) :
    Prop :=
  approved = ⟨authorization⟩ ∧ SawCause primitives connection authorization seen

theorem causes_of_ungated (ungated : (!authorization.target.requireApproval) = true) :
    Causes P connection authorization history ⟨authorization⟩ := by
  refine ⟨rfl, fun required => ?_⟩
  rw [required] at ungated
  cases ungated

theorem causes_of_gateOutcome {dec : ApprovalDecision}
    (saw : ∀ scope, dec = .approved scope → SawApproved conn auth hist)
    (out : gateOutcome auth dec = .approved approved) : Causes P conn auth hist approved := by
  cases dec with
  | rejected => cases out
  | approved scope =>
    obtain rfl := GateOutcome.approved.inj out
    exact ⟨rfl, fun _ => .inl (saw scope rfl)⟩

variable (nid : NodeId)

theorem requireAdminApproval_follows (auth : TargetAuthorization) (polls : Nat) :
    (requireAdminApproval P nid auth (conn.subject auth) polls).Follows (conn.Requires P)
      (fun seen out => ∀ approved, out = .approved approved →
        Causes P conn auth seen approved) hist := by
  unfold requireAdminApproval
  split
  · next ungated =>
    rintro approved same
    obtain rfl := GateOutcome.approved.inj same
    exact causes_of_ungated ungated
  refine (adminApprovalIsRemembered_follows auth).seq fun seen remembered saw => ?_
  split
  · next isRemembered =>
    rintro approved same
    obtain rfl := GateOutcome.approved.inj same
    exact ⟨rfl, fun _ => .inr (.inl (saw isRemembered))⟩
  refine (passes (announceAdminRequest_ordinary P nid _)).seq fun seen adv _ => ?_
  cases adv
  case ticketExhausted => exact fun approved no => by cases no
  all_goals
    refine (passes (ask_ordinary _)).seq fun seen _ _ => ?_
    refine (awaitRowDecision_follows auth polls).seq fun seen waited saw => ?_
    cases waited with
    | ended => exact fun approved no => by cases no
    | decided dec =>
      exact fun approved => causes_of_gateOutcome fun scope same => saw scope (same ▸ rfl)
    | timedOut =>
      refine (passes (closeTimedOut_ordinary _)).seq fun seen closed _ => ?_
      split
      · exact fun approved no => by cases no
      refine (rowDecision_follows auth).seq fun seen dec saw => ?_
      cases dec with
      | none => exact fun approved no => by cases no
      | some dec =>
        exact fun approved => causes_of_gateOutcome fun scope same => saw scope (same ▸ rfl)

theorem pollAgain_follows (subj : ApprovalSubject) (auth : TargetAuthorization) :
    (pollAgain P nid subj).Follows (conn.Requires P)
      (fun seen out => ∀ approved, out = .approved approved →
        Causes P conn auth seen approved) hist := by
  refine (passes (announceAdminRequest_ordinary P nid _)).seq fun seen adv _ => ?_
  cases adv <;> exact fun approved no => by cases no

theorem pollAdminApproval_follows (auth : TargetAuthorization) :
    (pollAdminApproval P nid auth (conn.subject auth)).Follows (conn.Requires P)
      (fun seen out => ∀ approved, out = .approved approved →
        Causes P conn auth seen approved) hist := by
  unfold pollAdminApproval
  split
  · next ungated =>
    rintro approved same
    obtain rfl := PolledGate.approved.inj same
    exact causes_of_ungated ungated
  refine (adminApprovalIsRemembered_follows auth).seq fun seen remembered saw => ?_
  split
  · next isRemembered =>
    rintro approved same
    obtain rfl := PolledGate.approved.inj same
    exact ⟨rfl, fun _ => .inr (.inl (saw isRemembered))⟩
  refine (findRow_follows auth).seq fun seen found sees => ?_
  cases found with
  | none => exact pollAgain_follows nid _ auth
  | some r =>
    dsimp only
    split
    · exact pollAgain_follows nid _ auth
    · refine (passes (ask_ordinary _)).seq fun seen window _ => ?_
      refine (passes (inquire_ordinary .now)).seq fun seen now _ => ?_
      split
      · exact (passes (closeTimedOut_ordinary _)).seq fun _ _ _ => pollAgain_follows nid _ auth
      · exact fun approved no => by cases no
    · next dec decided =>
      have saw : ∀ scope, dec = .approved scope → SawCause P conn auth seen := by
        rintro scope rfl
        exact fun _ => .inl (sees ▸ sawApproved_of_rowState decided)
      have marks : ∀ now, (ask (markConsumed (conn.subject auth).key
          now)).Ordinary := fun now => ask_ordinary _
      have grows : ∀ (seen : SessionEvents) ev, (∀ scope, dec = .approved scope →
            SawCause P conn auth seen) →
          ∀ scope, dec = .approved scope → SawCause P conn auth (ev :: seen) :=
        fun _ ev saw scope same => (saw scope same).cons ev
      refine (follows_of_ordinary (inquire_ordinary .now) grows saw).seq fun seen now saw => ?_
      refine (follows_of_ordinary (marks now) grows saw).seq fun seen _ saw => ?_
      cases dec with
      | rejected => exact fun approved no => by cases no
      | approved scope =>
        rintro approved same
        obtain rfl := PolledGate.approved.inj same
        exact ⟨rfl, saw scope rfl⟩

theorem openTargetSessionRow_follows (pid : TargetSessionId)
    (causes : Causes P conn auth hist approved) :
    (openTargetSessionRow conn.handle pid approved).Follows
      (conn.Requires P) (fun _ _ => True) hist := by
  obtain ⟨rfl, cause⟩ := causes
  refine ⟨?_, fun out => ?_⟩
  · rintro preferred sid reg same
    obtain ⟨-, rfl, rfl⟩ : pid = preferred ∧ conn.handle.userSessionId = sid ∧
      auth = reg := by simpa using same
    exact ⟨rfl, cause⟩
  · cases out <;> trivial

theorem Connection.register_follows (connection : Connection) (approved : Option ApprovedTarget)
    (causes : ∀ target, approved = some target → Causes P connection authorization history target) :
    (connection.register approved).Follows (connection.Requires P) (fun _ _ => True) history := by
  cases approved with
  | none => trivial
  | some approved =>
    obtain ⟨same, cause⟩ := causes approved rfl
    refine ⟨requires_of_ordinary _ ⟨rfl, rfl⟩, fun stamped => ?_⟩
    cases stamped with
    | error error => trivial
    | ok done =>
      refine (openTargetSessionRow_follows _ ⟨same, cause.cons _⟩).seq fun _ opened _ => ?_
      cases opened <;> trivial

theorem needsTargetApproval_follows (authorization : TargetAuthorization) :
    (needsTargetApproval connection.handle authorization.target).Follows (connection.Requires P)
      (fun seen needed => needed = false → SawCause P connection authorization seen) history := by
  unfold needsTargetApproval
  split
  · next ungated => exact fun _ => (causes_of_ungated ungated).2
  · refine ⟨requires_of_ordinary _ ⟨rfl, rfl⟩,
      fun (isOpen : Bool) (notNeeded : (!isOpen) = false) _ => ?_⟩
    cases isOpen with
    | true => exact .inr (.inr (.head _))
    | false => cases notNeeded

theorem startTargetSession_follows (authorization : TargetAuthorization) :
    (startTargetSession connection.handle connection.preferredId authorization).Follows
      (connection.Requires P)
      (fun _ result => ∀ waiting, result = .ok (.needsApproval waiting) → waiting = authorization)
      history := by
  refine ⟨requires_of_ordinary _ ⟨rfl, rfl⟩, fun stamped => ?_⟩
  cases stamped with
  | error error => exact fun waiting no => by cases no
  | ok done =>
    refine (needsTargetApproval_follows authorization).seq fun seen needed saw => ?_
    cases needed with
    | true => exact fun waiting same => by cases same; rfl
    | false =>
      refine (openTargetSessionRow_follows connection.preferredId ⟨rfl, saw rfl⟩).seq
        fun _ opened _ => ?_
      cases opened <;> exact fun waiting no => by cases no

theorem Connection.waitAtGate_follows (conn : Connection) (auth : TargetAuthorization) :
    (conn.waitAtGate P auth).Follows (conn.Requires P)
      (fun seen approved => ∀ target, approved = some target →
        Causes P conn auth seen target) hist := by
  refine (requireAdminApproval_follows _ auth _).seq fun seen out saw => ?_
  cases out with
  | approved target => exact fun _ same => saw _ (some.inj same ▸ rfl)
  | refused | expired => exact fun _ no => by cases no

theorem Connection.pollGate_follows (conn : Connection) (auth : TargetAuthorization) :
    (conn.pollGate P auth).Follows (conn.Requires P)
      (fun seen approved => ∀ target, approved = some target →
        Causes P conn auth seen target) hist := by
  refine (pollAdminApproval_follows _ auth).seq fun seen out saw => ?_
  cases out with
  | approved target => exact fun _ same => saw _ (some.inj same ▸ rfl)
  | refused | pending => exact fun _ no => by cases no

theorem Connection.startOr_follows (conn : Connection) (auth : TargetAuthorization)
    {gate : TargetAuthorization → Action (Option ApprovedTarget)}
    (gates : ∀ seen, (gate auth).Follows (conn.Requires P)
      (fun seen approved => ∀ target, approved = some target →
        Causes P conn auth seen target) seen) :
    (conn.startOr auth gate).Follows (conn.Requires P) (fun _ _ => True) hist := by
  refine (startTargetSession_follows auth).seq fun seen started waits => ?_
  rcases started with error | admitted | waiting
  · trivial
  · trivial
  · obtain rfl := waits waiting rfl
    exact (gates seen).seq fun _ approved causes => conn.register_follows approved causes

theorem Connection.connect_follows (P : Primitives) (conn : Connection) :
    (conn.connect P).Follows (conn.Requires P) (fun _ _ => True) history := by
  refine (passes conn.authorize_ordinary).seq fun seen authorized _ => ?_
  cases authorized with
  | none => trivial
  | some auth =>
    dsimp only
    unfold proceed
    split
    · exact conn.startOr_follows auth fun _ => conn.waitAtGate_follows auth
    · exact conn.startOr_follows auth fun _ => conn.pollGate_follows auth
    · exact (conn.waitAtGate_follows auth).seq fun _ approved causes =>
        conn.register_follows approved causes

end

abbrev RegistersNothing {Result : Type} (program : Action Result) : Prop :=
  program.Performs (AnyStatement.isRegistration · = false)

theorem registersNothing_of_ordinary {Result : Type} {prog : Action Result}
    (ordinary : prog.Ordinary) : RegistersNothing prog :=
  ordinary.imp fun _ isOrdinary => isOrdinary.2

variable (nid : NodeId) (P : Primitives)

theorem retryPendingRevocations_registersNothing :
    RegistersNothing (retryPendingRevocations nid) := by
  refine ⟨rfl, fun changes => ?_⟩
  refine (registersNothing_of_ordinary (retryChanges_ordinary nid changes)).bind fun _ => ?_
  exact ⟨rfl, fun ids => registersNothing_of_ordinary (retryChunks_ordinary nid _)⟩

theorem expiryTick_registersNothing (since : Option OffsetDateTime) :
    RegistersNothing (expiryTick nid since) := by
  refine (registersNothing_of_ordinary (closeSessionsOfExpiredTickets_ordinary nid)).bind
    fun _ => (retryPendingRevocations_registersNothing nid).bind fun _ => ?_
  refine (registersNothing_of_ordinary (inquire_ordinary .now)).bind fun now => ?_
  refine (registersNothing_of_ordinary
    (closeSessionsOfExpiredRoleAssignments_ordinary nid since now)).bind fun res => ?_
  cases res <;> trivial

theorem expirySweep_registersNothing (ticks : Nat) (since : Option OffsetDateTime) :
    RegistersNothing (expirySweep nid ticks since) := by
  induction ticks generalizing since with
  | zero => trivial
  | succ ticks ih => exact (expiryTick_registersNothing nid since).bind fun swept => ih swept

def Task.Requires : Task → SessionEvents → AnyStatement → Prop
  | .connect connection => connection.Requires primitives
  | _ => fun _ statement => statement.isRegistration = false

theorem Task.program_follows (t : Task) :
    (t.program P).Follows (t.Requires P) (fun _ _ => True) [] := by
  by_cases connects : ∃ conn, t = .connect conn
  · obtain ⟨conn, rfl⟩ := connects
    refine (conn.connect_follows P).seq fun _ res _ => ?_
    cases res <;> trivial
  have registersNothing : RegistersNothing (t.program P) := by
    rcases Task.program_cases P t with
      ordinary | ⟨conn, rfl, -⟩ | ⟨nid, ticks, rfl⟩ | ⟨nid, tid, rfl⟩
    · exact registersNothing_of_ordinary ordinary
    · exact absurd ⟨conn, rfl⟩ connects
    · exact (expirySweep_registersNothing nid ticks none).bind fun _ => trivial
    · refine ⟨rfl, fun admitted => ?_⟩
      cases admitted with
      | none => trivial
      | some ids =>
        exact (registersNothing_of_ordinary (closeAdmittedSessions_ordinary nid ids)).bind
          fun _ => trivial
  refine registersNothing.follows (fun seen stmt isNone => ?_) fun _ _ => trivial
  cases t with
  | connect conn => exact absurd ⟨conn, rfl⟩ connects
  | _ => exact isNone

/-! ### What the log says -/

def OpenedInLog (log : List Logged) (world : World) : Prop :=
  ∀ sessionId targetId, world.isOpen sessionId targetId = true →
    ∃ newer opening older granted, log = newer ++ opening :: older ∧
      Opens primitives opening sessionId granted ∧ granted.target.id = targetId

variable {log : List Logged} {w : World}

theorem openedInLog_execute (t : Task) (stmt : AnyStatement)
    (opened : OpenedInLog P log w) : OpenedInLog P (⟨t, stmt, w⟩ :: log) (execute P stmt w).2 := by
  intro sid tgt isOpen
  have extend : w.isOpen sid tgt = true →
      ∃ newer opening older granted, ⟨t, stmt, w⟩ :: log = newer ++ opening :: older ∧
        Opens P opening sid granted ∧ granted.target.id = tgt := by
    intro wasOpen
    obtain ⟨newer, opening, older, granted, rfl, opens⟩ := opened sid tgt wasOpen
    exact ⟨_ :: newer, opening, older, granted, rfl, opens⟩
  have still := isOpen
  unfold World.isOpen at still
  obtain ⟨r, found, rowOpen⟩ := (any_eq_true _ _).mp still
  have step := targetSession_step P stmt w (sid, tgt)
  rw [found] at step
  generalize stored : w.targetSessions.find? (sid, tgt) = prev at step
  cases step with
  | same => exact extend (by rw [World.isOpen, stored, any_some, rowOpen])
  | opened pid opener auth live valid =>
    have k : (TargetSession.opening pid opener auth).key =
      (sid, tgt) := Sql.Table.key_of_find? found
    obtain ⟨rfl, rfl⟩ := Prod.mk.inj k
    exact ⟨[], _, log, auth, rfl, ⟨⟨pid, rfl⟩, isOpen⟩, rfl⟩
  | finished => cases rowOpen
  | forgotten stmt old tid deletes carried =>
    exact extend (by rw [World.isOpen, stored, any_some]; exact rowOpen)

theorem openedInLog_run (none_open : ∀ sid tgt, w.isOpen sid tgt = false) (ms : List (Move Task)) :
    OpenedInLog P ((initial w).run (system P) ms : State).log
      ((initial w).run (system P) ms : State).state := by
  refine run_invariant (fun _ _ => True)
    (fun c => OpenedInLog P c.log c.state) (fun _ _ _ held => held)
    (fun s _ t _ stmt _ _ _ _ _ _ held => openedInLog_execute P t stmt held)
    (initial w) ms (along_of_forall _ (fun _ _ => trivial) _ _) ?_
  intro sid tgt isOpen
  rw [show (initial w : State).state = w from rfl, none_open] at isOpen
  cases isOpen

variable {e : Logged} {conn : Connection} {pid : TargetSessionId} {seen : SessionEvents}
  {lenient : Prop} {sid : UserSessionId}

section Causes

variable {P : Primitives}

def SeenInLog (primitives : Primitives) (task : Task) (log : List Logged)
    (seen : SessionEvents) : Prop :=
  ∀ event ∈ seen, ∃ logged ∈ log, logged.task = task ∧
    event = ⟨logged.statement, (execute primitives logged.statement logged.before).1⟩

theorem SeenInLog.before {t : Task} (inLog : SeenInLog P t log seen)
    {stmt : AnyStatement} {out : AnyStatement.Outcome stmt} (mem : ⟨stmt, out⟩ ∈ seen) :
    ∃ logged ∈ log, logged.task = t ∧ logged.statement = stmt ∧
      out = (execute P stmt logged.before).1 := by
  obtain ⟨⟨owner, performed, pre⟩, inLog, sameTask, same⟩ := inLog _ mem
  simp only [Sigma.mk.injEq] at same
  obtain ⟨rfl, sameOutcome⟩ := same
  exact ⟨_, inLog, sameTask, rfl, eq_of_heq sameOutcome⟩

theorem admitted_of_sawApproved (registers : Registers e conn pid auth)
    (inLog : SeenInLog P (.connect conn) log seen)
    (saw : SawApproved conn auth seen) : Admitted P lenient log e := by
  obtain ⟨r, approved, mem⟩ := saw
  obtain ⟨asked, prev, -, -, found⟩ := inLog.before mem
  exact .approved registers prev found.symm approved

theorem admitted_of_sawRemembered (registers : Registers e conn pid auth)
    (inLog : SeenInLog P (.connect conn) log seen) (saw : SawRemembered P conn auth seen) :
    Admitted P lenient log e := by
  obtain ⟨k, params, grace, now, rows, matched, period, getsParameters, getsNow, looks,
    found⟩ := saw
  obtain ⟨configured, inLog₁, own₁, -, rfl⟩ := inLog.before getsParameters
  obtain ⟨asked, inLog₂, own₂, -, rfl⟩ := inLog.before getsNow
  obtain ⟨looked, inLog₃, own₃, -, rfl⟩ := inLog.before looks
  obtain ⟨r, stored, covers⟩ := covers_of_approvedSince found
  have own : ∀ step ∈ [configured, asked, looked], step ∈ log ∧ step.task = .connect conn := by
    simp only [mem_cons, not_mem_nil, or_false, forall_eq_or_imp, forall_eq]
    exact ⟨⟨inLog₁, own₁⟩, ⟨inLog₂, own₂⟩, inLog₃, own₃⟩
  exact .remembered registers own matched period stored covers

theorem Task.sawCause_of_requires {t : Task}
    (requires : t.Requires P seen (.inr (.openOrLookup pid sid auth))) :
    ∃ conn, t = .connect conn ∧ sid = conn.handle.userSessionId ∧ SawCause P conn auth seen := by
  cases t with
  | connect conn => exact ⟨conn, rfl, requires _ _ _ rfl⟩
  | _ => cases requires

end Causes

section Runs

variable {P : Primitives} {ms : List (Move Task)} {newer older : List Logged}

theorem sawCause_of_logged
    (logged : ((initial w).run (system P) ms : State).log = newer ++ e :: older)
    (registers : e.statement = .inr (.openOrLookup pid sid auth)) :
    ∃ conn seen, Registers e conn pid auth ∧ sid = conn.handle.userSessionId ∧
      SeenInLog P (.connect conn) older seen ∧ SawCause P conn auth seen := by
  obtain ⟨first, m, sameLog, -, perf⟩ := performed_of_logged (system P) w ms logged
  obtain ⟨seen, next, mem⟩ := mem_of_performed _ perf
  have follows := run_follows _ _ (Task.program_follows P) w first _ mem
  have inLog := run_logged (system P) w first _ mem
  rw [sameLog] at inLog
  have requires : e.task.Requires P seen e.statement := follows.1
  rw [registers] at requires
  obtain ⟨conn, isConnect, rfl, cause⟩ := Task.sawCause_of_requires requires
  rw [isConnect] at inLog
  exact ⟨conn, seen, ⟨isConnect, registers⟩, rfl, inLog, cause⟩

theorem foundOpen_of_sawOpen (none_open : ∀ sid tgt, w.isOpen sid tgt = false)
    (logged : ((initial w).run (system P) ms : State).log =
      newer ++ e :: older) (inLog : SeenInLog P (.connect conn) older seen)
    (saw : SawOpen conn auth seen) :
    ∃ opening granted oldest, FoundOpen P older conn.handle.userSessionId
      auth.target.id opening granted oldest := by
  obtain ⟨checked, mem, -, -, isOpen⟩ := inLog.before saw
  obtain ⟨between, oldest, rfl⟩ := append_of_mem mem
  have above : newer ++ e :: (between ++ checked :: oldest) =
      (newer ++ e :: between) ++ checked :: oldest := by simp
  obtain ⟨first, -, sameLog, sameState, -⟩ :=
    performed_of_logged (system P) w ms (logged.trans above)
  have opened := openedInLog_run P none_open first
  rw [sameLog, sameState] at opened
  obtain ⟨nearer, opening, rest, granted, rfl, opens, sameTarget⟩ := opened _ _ isOpen.symm
  exact ⟨opening, granted, rest, between, checked, nearer, rfl, isOpen.symm, opens, sameTarget⟩

end Runs

/-- Every registration for a target that requires an approval has its cause in the log before it. -/
theorem gated_target_is_admitted_for_a_cause (world : World)
    (none_open : ∀ sessionId targetId, world.isOpen sessionId targetId = false)
    (moves : List (Move Task)) (newer older : List Logged) (entry : Logged)
    (logged : ((Config.initial world).run (system primitives) moves : State).log =
      newer ++ entry :: older)
    (preferredId : TargetSessionId) (sessionId : UserSessionId)
    (authorization : TargetAuthorization)
    (registers : entry.statement = .inr (.openOrLookup preferredId sessionId authorization))
    (required : authorization.target.requireApproval = true) :
    Admitted primitives True older entry := by
  -- an open target session goes back to an entry further down, so the induction is on the log
  induction size : older.length using Nat.strong_induction_on
    generalizing newer older entry preferredId sessionId authorization with
  | _ size ih =>
    obtain ⟨conn, seen, registersOwn, rfl, inLog, cause⟩ := sawCause_of_logged logged registers
    rcases cause required with approved | remembered | isOpen
    · exact admitted_of_sawApproved registersOwn inLog approved
    · exact admitted_of_sawRemembered registersOwn inLog remembered
    obtain ⟨opening, granted, oldest, foundOpen⟩ :=
      foundOpen_of_sawOpen none_open logged inLog isOpen
    cases gated : granted.target.requireApproval with
    | false => exact .openedUngated trivial registersOwn foundOpen gated
    | true =>
      obtain ⟨above, checked, between, rfl, -, ⟨⟨preferred, opens⟩, -⟩, -⟩ := id foundOpen
      have below : newer ++ entry :: (above ++ checked :: (between ++ opening :: oldest)) =
          (newer ++ entry :: above ++ checked :: between) ++ opening :: oldest := by simp
      refine .alreadyOpen registersOwn foundOpen (ih oldest.length ?_ _ _ _
        (logged.trans below) _ _ granted opens gated rfl)
      subst size
      simp only [length_append, length_cons]
      omega

def gatedDatabase : Access.Target := { database with requireApproval := true }

def gatedAuthorization : TargetAuthorization := ⟨alice, gatedDatabase, .ssh, none⟩

def connectsBeforeAndAfter : List (Move Task) :=
  [.start (.register 1 .ssh (some 0)), .advance 0, .start (.connect (aliceConnects 1 .roles))] ++
    List.replicate 4 (.advance 1) ++
    [.start (.administer (.writeTarget gatedDatabase)), .advance 2,
     .start (.connect { aliceConnects 1 .roles with preferredId := 101 })] ++
    List.replicate 5 (.advance 3)

theorem gated_target_is_admitted_for_a_cause_again :
    let reached : State :=
      (Config.initial (World.fresh aliceHasRole .empty)).run (system plain) connectsBeforeAndAfter
    ∃ e older, reached.log = e :: older ∧
      e.statement = .inr (.openOrLookup 101 1 gatedAuthorization) ∧
      Admitted plain True older e :=
  ⟨_, _, (cons_head_tail (by decide +kernel)).symm, by decide +kernel,
    gated_target_is_admitted_for_a_cause plain (World.fresh aliceHasRole .empty)
      (fun _ _ => rfl) connectsBeforeAndAfter [] _ _ (cons_head_tail (by decide +kernel)).symm
      101 1 gatedAuthorization (by decide +kernel) rfl⟩

theorem not_admitted_of_unasked {P : Primitives}
    (unasked : ∀ logged ∈ log, logged.before.approvals.requests.rows = []) :
    ¬Admitted P False log e := by
  intro admitted
  induction admitted with
  | approved registers prev found approved =>
    have stored := Sql.Table.mem_of_find? found
    rw [unasked _ prev] at stored
    cases stored
  | remembered registers own matched period stored covers =>
    rw [unasked _ (own _ (by simp)).1] at stored
    cases stored
  | alreadyOpen registers foundOpen admitted ih =>
    obtain ⟨newer, checked, between, rfl, -⟩ := foundOpen
    exact ih fun logged mem => unasked logged (by simp [mem])
  | openedUngated isLenient => exact isLenient

theorem admitted_by_a_session_that_needed_no_approval :
    let reached : State :=
      (Config.initial (World.fresh aliceHasRole .empty)).run (system plain) connectsBeforeAndAfter
    ∃ e older, reached.log = e :: older ∧
      e.statement = .inr (.openOrLookup 101 1 gatedAuthorization) ∧
      gatedAuthorization.target.requireApproval = true ∧
      (execute plain (.inr (.openOrLookup 101 1 gatedAuthorization)) e.before).1.isOk = true ∧
      ¬Admitted plain False older e :=
  ⟨_, _, (cons_head_tail (by decide +kernel)).symm, by decide +kernel, rfl, by decide +kernel,
    not_admitted_of_unasked (by decide +kernel)⟩

end Warpgate.Sessions
