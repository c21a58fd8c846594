/-
This file is about the bypass, and about who answers a login's question.
-/

import Warpgate.Login.System

namespace Warpgate.Login

open Concurrent List Sql.Table Config Approvals Option Statement Attempt StatusTransition
open AnyStatement Program
open Approvals (Request Key ApprovalDecision ApprovalRequestStatus Ticket Parameters
  StatusTransition)
open Auth (Primitives AuthState Call WebApprovalMatchKey CredentialKind AuthStateUserInfo plain)

variable {primitives P : Primitives} {stmt waiting : AnyStatement} {Result : Type}

def KeyIs (index : Nat) (key : WebApprovalMatchKey) (world : World primitives) : Prop :=
  ∃ attempt, world.attempts[index]? = some attempt ∧
    attempt.state.webApprovalMatchKey primitives = some key

theorem matchKey_change (i : Nat) (att : Attempt)
    (unsubmitted : ∀ validated, stmt ≠ .inr (.call i (.submitCredential validated))) :
    (change P i stmt att).state.webApprovalMatchKey P = att.state.webApprovalMatchKey P := by
  cases stmt with
  | inl stmt => rfl
  | inr stmt =>
    cases stmt with
    | call place made =>
      simp only [change]
      split
      · next here =>
        subst here
        refine att.state.webApprovalMatchKey_handle P fun validated same => ?_
        exact unsubmitted validated (by rw [same])
      · rfl
    | commitBypass place =>
      simp only [change]
      split
      · rw [state_commitBypass]
        exact att.state.webApprovalMatchKey_handle P fun _ => Call.noConfusion
      · rfl
    | deliver place r dec =>
      simp only [change]
      split
      · exact att.state.webApprovalMatchKey_handle P fun _ => Call.noConfusion
      · rfl
    | lockAdvertise place => grind [change, state_lockAdvertise]
    | recv place => grind [change, state_recv]
    | unlock place | idle place =>
      simp only [change]
      split <;> rfl
    | _ => rfl

/-! ### Approvals that are reused -/

def Task.bypassing (statement : AnyStatement) : Task → Option Nat
  | forward index _ _ =>
    match statement with
    | .inl (.approvedSince _ _ _) | .inr (.commitBypass _) => some index
    | _ => none
  | _ => none

def FoundRemembered (primitives : Primitives) (now : OffsetDateTime) (key : WebApprovalMatchKey)
    (history : History AnyStatement.Outcome) : Prop :=
  ∃ parameters grace, ∃ rows : List Request,
    ⟨.inl .getParameters, parameters⟩ ∈ history ∧
    parameters.webApprovalGracePeriodSeconds.bind Approvals.secondsToDuration = some grace ∧
    ⟨.inl (.approvedSince key.identity.kind (now - grace) key.askedTarget), rows⟩ ∈ history ∧
    (rows.any fun row => row.matchDigest = some (key.identity.digest primitives)) = true

def Task.Covered (task : Task) (history : History AnyStatement.Outcome)
    (world : World primitives) : AnyStatement → Prop
  | .inr (.commitBypass index) => ∀ now closedAt, task = .forward index now closedAt →
      ∃ key, KeyIs index key world ∧ FoundRemembered primitives now key history
  | _ => True

def bypass (task : Task) : Contract AnyStatement AnyStatement.Outcome (World primitives) where
  rely _ statement before after := ∀ index key, task.bypassing statement = some index →
    KeyIs index key before → KeyIs index key after
  requires history statement world := task.Covered history world statement
  refl _ _ _ _ _ _ same := same
  trans _ _ _ _ _ first second index key window same :=
    second index key window (first index key window same)

section Programs

variable {t : Task} {hist : History AnyStatement.Outcome} {w : World P}

theorem forward_meets_of {asm : AnyStatement → World P → Prop}
    {contract : Contract AnyStatement Outcome (World P)} (i : Nat) (now closed : OffsetDateTime)
    (recvs : ∀ seen reached, contract.requires seen (.inr (.recv i)) reached)
    (idles : ∀ seen reached, contract.requires seen (.inr (.idle i)) reached)
    (needed : ∀ seen reached, (onWebApprovalNeeded P i now closed).Meets (execute P) asm contract
      (fun _ _ _ => True) seen reached) :
    (forwardWebAuthRequest P i now closed).Meets (execute P) asm contract (fun _ _ _ => True)
      hist w := by
  refine fun later _ _ => ⟨recvs _ _, ?_⟩
  have stops : ∀ seen reached, (act (.idle i)).Meets (execute P) asm contract
      (fun _ _ _ => True) seen reached := fun seen reached _ _ _ => ⟨idles _ _, trivial⟩
  generalize (execute P (.inr (.recv i)) later).1 = v
  rcases v with - | accepted | ks | -
  · exact stops _ _
  · exact stops _ _
  · show Meets _ _ _ _ _ (if CredentialKind.webUserApproval ∈ ks then _ else _) _
    split
    · exact (needed _ _).seq fun seen _ reached _ => stops seen reached
    · exact stops _ _
  · exact stops _ _

abbrev Bypasses (task : Task) {Result : Type} (program : Action Result)
    (history : History AnyStatement.Outcome) (world : World P) : Prop :=
  program.Meets (execute P) (fun _ _ => True) (bypass task) (fun _ _ _ => True) history world

def Uncommitting : AnyStatement → Prop
  | .inr (.commitBypass _) => False
  | _ => True

theorem meets_of_uncommitting {prog : Action Result}
    (perf : prog.Performs Uncommitting) : Bypasses t prog hist w := by
  refine meets_of_follows (perf.follows ?_ fun _ _ _ => trivial)
  intro seen stmt none reached _
  rcases stmt with stmt | stmt
  · trivial
  · cases stmt with
    | commitBypass _ => exact none.elim
    | _ => trivial

theorem ask_uncommitting (prog : Query Result) : (ask prog).Performs Uncommitting := by
  induction prog with
  | done res => trivial
  | perform stmt next ih => exact ⟨trivial, ih⟩

variable (i : Nat) (now closed : OffsetDateTime)

theorem tryWebApprovalBypass_meets : Bypasses (.forward i now closed)
    (tryWebApprovalBypass P i now closed) hist w := by
  intro first _ _
  refine ⟨trivial, ?_⟩
  dsimp only [ask, webApprovalGracePeriod, Program.lift, Program.bind]
  cases period : (execute P (.inl .getParameters) first).1.webApprovalGracePeriodSeconds.bind
      secondsToDuration with
  | none => trivial
  | some grace =>
    intro second _ _
    refine ⟨trivial, ?_⟩
    cases read : (execute P (.inr (.matchKey i)) second).1 with
    | none => trivial
    | some key =>
      have keyed := bind_eq_some_iff.mp read
      intro third relied _
      refine ⟨trivial, ?_⟩
      have keyedThen := relied i key rfl keyed
      set rows := third.db.requests.select
        (Request.isRememberedFor key.identity.kind (now - grace) key.askedTarget)
      show Program.Meets _ _ _ _ _ (if (rows.any fun row =>
        row.matchDigest = some (key.identity.digest P)) = true then _ else _) _
      split
      · next found =>
        intro fourth relied _
        refine ⟨?_, ?_⟩
        · rintro _ _ same
          cases same
          refine ⟨key, relied i key rfl keyedThen, first.db.parameters, grace, rows, ?_, period,
            (.head _), found⟩
          exact .tail _ (.tail _ (.head _))
        · cases (execute P (.inr (.commitBypass i)) fourth).1 with
          | none => trivial
          | some asked =>
            exact meets_of_uncommitting ((ask_uncommitting _).bind fun _ =>
              ⟨trivial, fun _ => trivial⟩)
      · trivial

theorem onWebApprovalNeeded_meets_bypass : Bypasses (.forward i now closed)
    (onWebApprovalNeeded P i now closed) hist w := by
  refine (tryWebApprovalBypass_meets i now closed).seq fun seen bypassed reached _ => ?_
  cases bypassed with
  | true => trivial
  | false =>
    exact meets_of_uncommitting ((advertiseUserRequest_performs i trivial
      (fun _ => ask_uncommitting _) trivial).bind fun _ => trivial)

theorem forward_meets_bypass : Bypasses (.forward i now closed)
    (forwardWebAuthRequest P i now closed) hist w :=
  forward_meets_of i now closed (fun _ _ => trivial) (fun _ _ => trivial)
    fun _ _ => onWebApprovalNeeded_meets_bypass i now closed

theorem Task.program_meets_bypass (t : Task) : Bypasses t (t.program P) hist w := by
  cases t with
  | forward i now closed => exact forward_meets_bypass i now closed
  | _ =>
    refine meets_of_follows (Performs.follows (Task.program_performs P _) ?_ fun _ _ _ => trivial)
    intro seen stmt may reached _
    rcases stmt with stmt | stmt
    · trivial
    · cases stmt with
      | commitBypass _ => exact fun _ _ same => by cases same
      | _ => trivial

end Programs

def keepsKeys (config : State primitives) : AnyStatement → Bool
  | .inr (.call index (.submitCredential validated)) =>
    (config.threads.all fun thread =>
      thread.program.head.bind (fun waiting => thread.task.bypassing waiting) ≠ some index) ||
    (config.state.attempts[index]?.all fun attempt =>
      (attempt.call (.submitCredential validated)).2.state.webApprovalMatchKey primitives =
        attempt.state.webApprovalMatchKey primitives)
  | _ => true

abbrev KeepingKeys (primitives : Primitives) : State primitives → Move Task → Prop :=
  Config.Performing (system primitives) fun config _ statement => keepsKeys config statement = true

theorem KeyIs.execute {c : State P} (keeps : keepsKeys c stmt = true)
    {th : Thread Task AnyStatement Outcome Unit} (mem : th ∈ c.threads)
    (waits : th.program.head = some waiting) {i : Nat}
    {k : WebApprovalMatchKey} (window : th.task.bypassing waiting = some i)
    (keyed : KeyIs i k c.state) : KeyIs i k (Login.execute P stmt c.state).2 := by
  obtain ⟨att, found, hasKey⟩ := keyed
  refine ⟨_, attempt_execute stmt found, ?_⟩
  by_cases submitted : ∃ validated, stmt = .inr (.call i (.submitCredential validated))
  · obtain ⟨validated, rfl⟩ := submitted
    rcases Bool.or_eq_true_iff.mp keeps with none | same
    · grind
    · grind [change]
  · rw [matchKey_change i att fun validated same => submitted ⟨validated, same⟩]
    exact hasKey

/-- In every run in which no submission changes the key of an attempt in the middle of a bypass, an
approval is added only where a remembered one covers the attempt as it is then: the forwarder read
the grace period and found, within it, an approval of the user for the attempt's target or for all
of them, with the digest of the key the attempt has when the approval is added. -/
theorem bypass_reuses_only_what_matches (world : World primitives) (moves : List (Move Task))
    (along : Config.Along (system primitives) (KeepingKeys primitives) (Config.initial world) moves)
    (move : Move Task) (task : Task) (index : Nat) (attempt : Attempt) :
    let reached := (Config.initial world).run (system primitives) moves
    reached.performed (system primitives) move = some (task, .inr (.commitBypass index)) →
    reached.state.attempts[index]? = some attempt →
    ∃ now closed read lookup grace k, ∃ r : Request, task = .forward index now closed ∧
      ⟨task, .inl .getParameters, read⟩ ∈ reached.log ∧
      read.db.parameters.webApprovalGracePeriodSeconds.bind Approvals.secondsToDuration =
        some grace ∧
      ⟨task, .inl (.approvedSince .user (now - grace) attempt.state.targetName), lookup⟩ ∈
        reached.log ∧
      attempt.state.webApprovalMatchKey primitives = some k ∧ r ∈ lookup.db.requests.rows ∧
      r.covers primitives k (now - grace) := by
  intro reached perf found
  obtain ⟨hist, next, mem⟩ := mem_of_performed (system primitives) perf
  have meet := (run_meets_under (fun _ => True) bypass (fun _ _ => True)
    (fun task s _ => task.program_meets_bypass) _ (fun _ _ _ _ _ _ _ _ _ _ _ => trivial)
    (fun _ _ _ _ _ _ _ _ _ => trivial)
    (fun _ _ _ _ _ _ _ _ _ _ => trivial) ?others world moves along trivial).2
  case others =>
    intro s pre task hist stmt next post log perm ready _ other mem _ waiting waits
    refine ⟨trivial, fun index k window keyed => ?_⟩
    have among : other ∈ pre ++ ⟨task, hist, .perform stmt next⟩ :: post := by
      simp only [mem_append, mem_cons] at mem ⊢
      tauto
    exact KeyIs.execute (perm.admits _ (performed_at _ ready)) among waits window keyed
  obtain ⟨now, closed, rfl⟩ : ∃ now closed, task = .forward index now closed := by
    have may := mayPerform_of_run world moves perf
    cases task with
    | forward own now closed =>
      obtain rfl : index = own := some.inj may
      exact ⟨now, closed, rfl⟩
    | _ => cases may
  obtain ⟨k, ⟨_, isAttempt, hasKey⟩, params, grace, rows, sawParameters, period, sawRows,
    matched⟩ := (meet _ mem trivial reached.state ((bypass _).refl _ _ _) trivial).1 now closed rfl
  obtain rfl := some.inj (found.symm.trans isAttempt)
  obtain ⟨ofUser, ofTarget⟩ := AuthState.webApprovalMatchKey_facts hasKey
  obtain ⟨⟨_, _, read⟩, readLogged, rfl, sameRead⟩ :=
    run_logged (system primitives) world moves _ mem _ sawParameters
  obtain ⟨⟨_, _, lookup⟩, lookupLogged, rfl, sameLookup⟩ :=
    run_logged (system primitives) world moves _ mem _ sawRows
  cases sameRead
  cases sameLookup
  obtain ⟨r, stored, covers⟩ := covers_of_approvedSince matched
  rw [ofUser, ofTarget] at lookupLogged
  exact ⟨now, closed, read, lookup, grace, k, r, rfl, readLogged, period, lookupLogged,
    hasKey, stored, covers⟩

def remembering : World plain := .fresh aliceAndBob .empty ⟨some 60, none, none⟩ [1]

def aliceRemembered : List (Move Task) :=
  [.start (.login (.needingApproval "alice" 10)), .advance 0,
    .start (.forward 0 11 12), .advance 1, .advance 1, .advance 1, .advance 1, .advance 1,
    .advance 1, .advance 1, .advance 1, .advance 1, .advance 1,
    .start (.resolveOwnApproval 1 "alice" 1 0 (.approved .allTargets) 20), .advance 2, .advance 2,
    .advance 2, .advance 2, .advance 2, .advance 2, .advance 2, .advance 2,
    .start (.login { NewLogin.needingApproval "alice" 30 with sessionId := 2 }), .advance 3,
    .start (.forward 1 31 32), .advance 4, .advance 4, .advance 4, .advance 4]

theorem bypass_reuses_only_what_matches_alice :
    ∃ now closedAt read lookup grace key, ∃ row : Request,
      Task.forward 1 31 32 = .forward 1 now closedAt ∧
      ⟨.forward 1 31 32, .inl .getParameters, read⟩ ∈
        ((Config.initial remembering).run (system plain) aliceRemembered).log ∧
      read.db.parameters.webApprovalGracePeriodSeconds.bind Approvals.secondsToDuration =
        some grace ∧
      ⟨.forward 1 31 32, .inl (.approvedSince .user (now - grace) "db"), lookup⟩ ∈
        ((Config.initial remembering).run (system plain) aliceRemembered).log ∧
      (Attempt.begin (.needingApproval "alice" 30) ⟨7, "alice"⟩).state.webApprovalMatchKey plain =
        some key ∧
      row ∈ lookup.db.requests.rows ∧ row.covers plain key (now - grace) :=
  bypass_reuses_only_what_matches remembering aliceRemembered (by decide +kernel) (.advance 4)
    (.forward 1 31 32) 1
    { begin { NewLogin.needingApproval "alice" 30 with sessionId := 2 } ⟨7, "alice"⟩ with
      received := 1
      forwarding := true }
    rfl rfl

theorem a_bypass_reuses_what_does_not_match :
    let reached : State plain := (Config.initial remembering).run (system plain) (aliceRemembered ++
        [.start (.submitCredential 1 (.ok (some ⟨.password, 5, 0⟩))), .advance 5])
    let digest := (reached.state.attempts[1]?.bind (·.state.webApprovalMatchKey plain)).map
      (·.identity.digest plain)
    ((reached.step (system plain) (.advance 4)).state.attempts[1]?).map
        (fun att => (att.state.validCredentials, att.state.webApprovalFromGraceBypass,
          att.state.verify)) =
      some ([.stored ⟨.password, 5, 0⟩, .webUserApproval], true, .accepted ⟨7, "alice"⟩) ∧
    digest.isSome = true ∧
    (reached.log.all fun e => e.before.db.requests.rows.all fun r =>
      r.matchDigest ≠ digest) = true := by
  decide +kernel

/-! ### Approvals by the user -/

structure World.Known (users : Users primitives) (world : World primitives) : Prop where
  sameUsers : world.users = users
  attempts : ∀ (index : Nat) (attempt : Attempt), world.attempts[index]? = some attempt →
    attempt.state.userInfo ∈ users.rows
  rows : ∀ key row, world.db.requests.find? key = some row → key.kind = .user →
    ⟨row.userId, row.username⟩ ∈ users.rows

theorem user_eq_of_name {us : Users P} {first second : AuthStateUserInfo}
    (firstKnown : first ∈ us.rows) (secondKnown : second ∈ us.rows)
    (sameName : P.toLowercase first.username = P.toLowercase second.username) : first = second := by
  have firstFound := find?_of_mem firstKnown
  rw [sameName, find?_of_mem secondKnown, some.injEq] at firstFound
  exact firstFound.symm

def OwnedBy (name : String) (key : Key) (world : World primitives) : Prop :=
  ∀ row, world.db.requests.find? key = some row → row.status = .pending →
    primitives.toLowercase row.username = primitives.toLowercase name

def Task.window (statement : AnyStatement) : Task → Option (String × Key)
  | resolveOwnApproval _ username _ _ _ _ =>
    match statement with
    | .inr (.findNode row) => some (username, row.key)
    | .inl (.findRow key) => some (username, key)
    | .inl (.applyTransition row ⟨_, _, some _⟩) => some (username, row.key)
    | _ => none
  | _ => none

def Task.Respects (task : Task) (users : Users primitives) (world : World primitives) :
    AnyStatement → Prop
  | .inl (.refreshPending row) | .inl (.reopenUnanswered row) | .inl (.insertRequest row) =>
    ⟨row.userId, row.username⟩ ∈ users.rows ∧ row.status = .pending
  | .inl (.applyTransition row transition) =>
    transition.toStatus ∈ ApprovalRequestStatus.decided →
      ∃ nodeId username sessionId pick decision now user,
        task = .resolveOwnApproval nodeId username sessionId pick decision now ∧
        users.find? (primitives.toLowercase username) = some user ∧
        OwnedBy username row.key world
  | _ => True

def ownership (users : Users primitives) (task : Task) :
    Contract AnyStatement AnyStatement.Outcome (World primitives) where
  rely _ statement before after := ∀ name key, task.window statement = some (name, key) →
    OwnedBy name key before → OwnedBy name key after
  requires _ statement world := task.Respects users world statement
  refl _ _ _ _ _ _ owned := owned
  trans _ _ _ _ _ first second name key window owned :=
    second name key window (first name key window owned)

variable {t : Task} {user : AuthStateUserInfo}
  {history hist : History AnyStatement.Outcome}

section Programs

variable {users : Users primitives} {us : Users P} {task : Task} {world : World primitives}
  {w : World P}

def Task.Free (task : Task) (users : Users primitives) (statement : AnyStatement) : Prop :=
  ∀ world, task.Respects users world statement

abbrev Owns (users : Users P) (task : Task) {Result : Type} (program : Action Result)
    (history : History AnyStatement.Outcome) (world : World P) : Prop :=
  program.Meets (execute P) (fun _ => World.Known users) (ownership users task)
    (fun _ _ _ => True) history world

theorem meets_of_free {prog : Action Result} (free : prog.Performs (t.Free us)) :
    Owns us t prog hist w := by
  refine meets_of_follows (free.follows ?_ fun _ _ _ => trivial)
  exact fun _ _ ok reached _ => ok reached

theorem close_free (t : Task) (r : Request) (status : UndecidedApprovalRequestStatus)
    (now : OffsetDateTime) :
    t.Free us (.inl (.applyTransition r (.fromPending status.toStatus now))) :=
  fun _ decided => absurd decided (by cases status <;> simp [fromPending] <;> decide)

theorem closeRequest_free (t : Task) (sid : UserSessionId) (kind : ApprovalKind)
    (target : String) (status : UndecidedApprovalRequestStatus) (now : OffsetDateTime) :
    (ask (closeRequest sid kind target status now)).Performs (t.Free us) :=
  (closeRequest_performs sid kind target status now (fun _ => trivial)
    (fun r => close_free t r status now) fun _ _ => trivial).lift

theorem abandonEach_free (t : Task) (now : OffsetDateTime) (rows : List Request) :
    (ask (abandonEach now rows)).Performs (t.Free us) :=
  (abandonEach_performs now rows (fun r => close_free t r .abandoned now) fun _ _ => trivial).lift

theorem applyUserDecisions_free (t : Task) (nid : NodeId) (sid : Option UserSessionId)
    (now : OffsetDateTime) : (applyUserDecisions nid sid now).Performs (t.Free us) :=
  ⟨fun _ => trivial, fun rows => deliverEach_performs nid now rows (fun _ _ => trivial)
    (fun _ _ _ _ => trivial) fun _ _ => trivial⟩

theorem tryWebApprovalBypass_free (t : Task) (i : Nat) (now closed : OffsetDateTime) :
    (tryWebApprovalBypass P i now closed).Performs (t.Free us) :=
  tryWebApprovalBypass_performs i now closed (fun _ => trivial) (fun _ => trivial)
    (fun _ _ _ _ => trivial) (fun _ => trivial)
    (fun asked => closeRequest_free t asked.sessionId asked.kind asked.target .abandoned closed)
    fun _ => trivial

variable (i : Nat)

theorem advertiseUserRequest_meets : Owns us t (advertiseUserRequest i) hist w := by
  intro later _ known
  refine ⟨trivial, ?_⟩
  cases asked : (execute P (.inr (.lockAdvertise i)) later).1 with
  | none => trivial
  | some req =>
    obtain ⟨att, found, -, rfl⟩ := lockAdvertise_eq_some_iff.mp asked
    have ofKnown : att.state.userInfo ∈ us.rows := known.attempts i att found
    have asks : (ask (upsertRequest (att.request P))).Performs (t.Free us) :=
      (upsertRequest_performs _ (fun _ => ⟨ofKnown, rfl⟩) (fun _ => ⟨ofKnown, rfl⟩)
        (fun _ => ⟨ofKnown, rfl⟩) (fun _ => trivial) (fun _ _ => trivial) (fun _ _ => trivial)
        fun _ _ => trivial).lift
    exact meets_of_free (asks.bind fun _ => ⟨fun _ => trivial, fun _ => trivial⟩)

theorem onWebApprovalNeeded_meets (now closed : OffsetDateTime) :
    Owns us t (onWebApprovalNeeded P i now closed) hist w := by
  refine (meets_of_free (tryWebApprovalBypass_free t i now closed)).seq
    fun seen bypassed reached _ => ?_
  cases bypassed with
  | true => trivial
  | false => exact (advertiseUserRequest_meets i).seq fun _ _ _ _ => trivial

theorem forward_meets (now closed : OffsetDateTime) :
    Owns us t (forwardWebAuthRequest P i now closed) hist w :=
  forward_meets_of i now closed (fun _ _ => trivial) (fun _ _ => trivial)
    fun _ _ => onWebApprovalNeeded_meets i now closed

variable {now : OffsetDateTime} {username name : String}
  {session sess : UserSessionId} {pick : Nat} {decision dec : ApprovalDecision}

theorem recordDecision_meets {nid : NodeId}
    (isResolve : t = .resolveOwnApproval nid name sess pick dec now)
    (named : us.find? (P.toLowercase name) = some user) {k : Key}
    {actor : ApprovalActor} (owned : OwnedBy name k w) :
    Owns us t (ask (recordDecision k.sessionId k.kind k.target dec actor now)) hist w := by
  subst isResolve
  intro later relied _
  refine ⟨trivial, ?_⟩
  have stillOwned : OwnedBy name k later := relied name k rfl owned
  have read : (execute P (.inl (.findRow k)) later).1 = later.db.requests.find? k := rfl
  dsimp only [Program.bind]
  rw [read]
  cases found : Option.filter (fun r : Request => decide (r.status = .pending))
      (later.db.requests.find? k) with
  | none => trivial
  | some r =>
    have sameKey : r.key = k := key_of_find? (Option.filter_eq_some_iff.mp found).1
    intro last relied _
    refine ⟨fun _ => ⟨nid, name, sess, pick, dec, now, user, rfl, named, ?_⟩, ?_⟩
    · exact relied name r.key rfl (sameKey ▸ stillOwned)
    · exact meets_of_free (refundUnapproved_performs r _ _ fun _ _ => trivial).lift

theorem parsePendingApproval_meets {nodeId : NodeId}
    (isResolve : task = .resolveOwnApproval nodeId username session pick decision now)
    {row : Request} (owned : OwnedBy username row.key world) :
    (parsePendingApproval nodeId row now).Meets (execute primitives) (fun _ => World.Known users)
      (ownership users task)
      (fun _ parsed reached => parsed = true → OwnedBy username row.key reached) history world := by
  subst isResolve
  unfold parsePendingApproval
  by_cases elsewhere : row.nodeId ≠ nodeId
  · simp only [elsewhere, ne_eq, not_false_eq_true, if_true]
    intro later relied _
    refine ⟨trivial, ?_⟩
    generalize (execute primitives (.inr (.findNode row)) later).1 = alive
    cases alive with
    | true => exact fun _ => relied username row.key rfl owned
    | false =>
      exact (meets_of_free (closeRequest_free _ row.sessionId row.kind row.target .abandoned
        now)).seq fun _ _ _ _ impossible => Bool.noConfusion impossible
  · simp only [elsewhere, if_false]
    exact fun _ => owned

theorem findUserApproval_meets {sessionId : UserSessionId}
    (named : users.find? (primitives.toLowercase username) = some user) :
    (findUserApproval primitives user.username sessionId pick).Meets (execute primitives)
      (fun _ => World.Known users) (ownership users task)
      (fun _ picked reached => ∀ row, picked = some row → OwnedBy username row.key reached) history
      world := by
  refine fun later _ _ => ⟨trivial, fun row picked => ?_⟩
  obtain ⟨read, sameName⟩ := filter_eq_some_iff.mp picked
  obtain ⟨member, -⟩ := (mem_select _ _ row).mp (mem_of_getElem? read)
  intro stored found _
  have isRow : row = stored := some.inj ((find?_of_mem member).symm.trans found)
  have sameUser := key_of_find? named
  rw [← isRow, of_decide_eq_true sameName, sameUser]

theorem resolveOwnApproval_meets (nid : NodeId) (name : String) (sid : UserSessionId)
    (pick : Nat) (dec : ApprovalDecision) (now : OffsetDateTime) :
    Owns us (.resolveOwnApproval nid name sid pick dec now)
      (resolveOwnApproval P nid name sid pick dec now) hist w := by
  intro first _ known
  refine ⟨trivial, ?_⟩
  have lookup : (execute P (.inr (.findUser name)) first).1 = us.find? (P.toLowercase name) := by
    rw [← known.sameUsers]
    rfl
  rw [lookup]
  cases named : us.find? (P.toLowercase name) with
  | none => trivial
  | some user =>
    refine (findUserApproval_meets named).seq fun seen picked reached owned => ?_
    cases picked with
    | none => trivial
    | some r =>
      refine (parsePendingApproval_meets rfl (owned r rfl)).seq fun
        seen parsed reached stillOwned => ?_
      cases parsed with
      | false => trivial
      | true =>
        refine (recordDecision_meets rfl named (stillOwned rfl)).seq
          fun seen recorded reached _ => ?_
        cases recorded with
        | true => exact meets_of_free (applyUserDecisions_free _ nid (some sid) now)
        | false => trivial

theorem Task.program_meets (t : Task) : Owns us t (t.program P) hist w := by
  cases t with
  | forward i now closed => exact forward_meets i now closed
  | resolveOwnApproval nid name sid pick dec now =>
    exact resolveOwnApproval_meets nid name sid pick dec now
  | applyUserDecisions nid sid now => exact meets_of_free (applyUserDecisions_free _ nid sid now)
  | abandonSession sid now | abandonBefore cut now =>
    exact meets_of_free ⟨fun _ => trivial, fun rows => abandonEach_free _ now rows⟩
  | cancel nid sid i =>
    exact meets_of_free ⟨fun _ => trivial, fun _ => ⟨fun _ => trivial, fun _ => trivial⟩⟩
  | _ => exact meets_of_free ⟨fun _ => trivial, fun _ => trivial⟩

end Programs

/-! ### Who has answered -/

section

variable {users : Users primitives} {us : Users P}

def keepsNames (config : State primitives) (statement : AnyStatement) : Bool :=
  match statement with
  | .inl (.refreshPending row) | .inl (.reopenUnanswered row) | .inl (.insertRequest row) =>
    config.threads.all fun thread =>
      match thread.program.head.bind fun waiting => thread.task.window waiting with
      | some (name, key) =>
        key ≠ row.key ∨ primitives.toLowercase row.username = primitives.toLowercase name
      | none => true
  | _ => true

variable {w : World P} {log : List (Entry Task AnyStatement (World P))}
  {row r : Request}

theorem World.Known.execute (known : w.Known us) (respects : t.Respects us w stmt) :
    (Login.execute P stmt w).2.Known us := by
  refine ⟨(users_execute stmt w).trans known.sameUsers, ?_, ?_⟩
  · intro i att found
    rcases attempt_of_execute found with ⟨pre, prev, rfl⟩ | ⟨login, user, -, named, -, rfl⟩
    · rw [AuthState.userInfo_of_about (about_change P i stmt pre)]
      exact known.attempts i pre prev
    · rw [known.sameUsers] at named
      have ofUser : (begin login user).state.userInfo = user :=
        congrArg (·.2.1) (AuthState.about_new login.sessionId login.remoteIp user login.protocol
          login.targetName login.policy login.started login.identificationString)
      rw [ofUser]
      exact mem_of_find? named
  · intro k r found ofUser
    cases stmt with
    | inr stmt =>
      rw [db_execute_inr] at found
      exact known.rows k r found ofUser
    | inl stmt =>
      rw [show (Login.execute P (.inl stmt) w).2.db =
        (Approvals.execute stmt w.db).2 from rfl, find?_execute] at found
      rcases write_cases found with same | ⟨asked, old, rfl, stored, -, rfl⟩ |
        ⟨asked, old, rfl, stored, -, rfl⟩ | ⟨rfl, -, -⟩ | ⟨aimed, tr, old, -, stored, -, rfl⟩ |
        ⟨marked, now, old, -, stored, -, rfl⟩
      · exact known.rows k r same ofUser
      · exact respects.1
      · exact respects.1
      · exact respects.1
      · rw [userId_write, username_write]
        exact known.rows k old stored ofUser
      · exact known.rows k old stored ofUser

theorem OwnedBy.execute {c : State P} (keeps : keepsNames c stmt = true)
    {th : Thread Task AnyStatement Outcome Unit} (mem : th ∈ c.threads)
    (waits : th.program.head = some waiting) {name : String} {k : Key}
    (window : th.task.window waiting = some (name, k)) (owned : OwnedBy name k c.state) :
    OwnedBy name k (Login.execute P stmt c.state).2 := by
  have asking : ∀ r : Request, (c.threads.all fun th =>
      match th.program.head.bind fun waiting => th.task.window waiting with
      | some (name, k) =>
        decide (k ≠ r.key ∨ P.toLowercase r.username = P.toLowercase name)
      | none => true) = true → r.key = k →
      P.toLowercase r.username = P.toLowercase name := by
    intro r every sameKey
    have here := all_eq_true.mp every th mem
    simp only [waits, bind_some, window, decide_eq_true_eq] at here
    exact here.resolve_left fun ne => ne sameKey.symm
  intro r found pending
  cases stmt with
  | inr stmt =>
    rw [db_execute_inr] at found
    exact owned r found pending
  | inl stmt =>
    rw [show (Login.execute P (.inl stmt) c.state).2.db =
      (Approvals.execute stmt c.state.db).2 from rfl, find?_execute] at found
    rcases write_cases found with same | ⟨asked, old, rfl, stored, matched, rfl⟩ |
      ⟨asked, old, rfl, stored, matched, rfl⟩ | ⟨rfl, -, atKey⟩ |
      ⟨aimed, tr, old, -, stored, pinned, rfl⟩ | ⟨marked, now, old, -, stored, -, rfl⟩
    · exact owned r same pending
    · exact asking asked keeps ((old.key_of_isPendingAt matched).symm.trans (key_of_find? stored))
    · exact asking asked keeps
        ((old.key_of_isUnansweredAt matched).symm.trans (key_of_find? stored))
    · exact asking r keeps atKey
    · rw [username_write]
      exact owned old stored ((aimed.pinned_iff old).mp pinned).2.2
    · exact owned old stored pending

abbrev KeepingNames (primitives : Primitives) : State primitives → Move Task → Prop :=
  Config.Performing (system primitives) fun config _ statement => keepsNames config statement = true

def RespectsNames (users : Users primitives) (config : State primitives) : Prop :=
  config.state.Known users ∧
    Config.ThreadsMeet (system primitives) (fun _ => World.Known users) (ownership users)
      (fun _ _ => True) config

theorem respectsNames_of_run (tks : Sql.Table Ticket Ticket.id) (params : Parameters)
    (ns : List NodeId) (ms : List (Move Task))
    (along : Along (system P) (KeepingNames P) (initial (World.fresh us tks params ns)) ms) :
    RespectsNames us ((initial (World.fresh us tks params ns)).run (system P) ms) := by
  refine run_meets_under (World.Known us) (ownership us) (fun _ _ => True)
    (fun t s _ => t.program_meets) _ (fun _ _ _ _ _ _ _ _ _ _ known => known)
    (fun s log t hist stmt next known _ respects =>
      known.execute (respects trivial)) (fun _ _ _ _ _ _ _ _ _ _ => trivial) ?_ _ ms along
    ⟨rfl, fun _ _ found => (by cases found), fun _ _ found => (by cases found)⟩
  intro s pre t hist stmt next post log perm ready _ other mem _ waiting waits
  refine ⟨trivial, fun name k window owned => ?_⟩
  have among : other ∈ pre ++ ⟨t, hist, .perform stmt next⟩ :: post := by
    simp only [mem_append, mem_cons] at mem ⊢
    tauto
  exact OwnedBy.execute (perm.admits _ (performed_at _ ready)) among waits window owned

def RecordedBy (log : List (Entry Task AnyStatement (World primitives))) (row : Request)
    (user : AuthStateUserInfo) : Prop :=
  ∃ nodeId username sessionId pick decision now aimed transition before stored,
    ⟨.resolveOwnApproval nodeId username sessionId pick decision now,
      .inl (.applyTransition aimed transition), before⟩ ∈ log ∧
    before.users.find? (primitives.toLowercase username) = some user ∧
    before.db.requests.find? row.key = some stored ∧ aimed.pinned stored = true ∧
    row.unacknowledged = (transition.write stored).unacknowledged

open Approvals.Request

theorem RecordedBy.cons (recorded : RecordedBy log r user)
    (e : Entry Task AnyStatement (World P)) : RecordedBy (e :: log) r user := by
  obtain ⟨nid, name, sid, pick, dec, now, aimed, tr, pre, stored, logged, facts⟩ := recorded
  exact ⟨nid, name, sid, pick, dec, now, aimed, tr, pre, stored, .tail _ logged, facts⟩

def SelfRecorded (log : List (Entry Task AnyStatement (World primitives))) (row : Request) : Prop :=
  ∃ user, RecordedBy log row user ∧ user.id = row.userId

structure SelfAnswered (config : State primitives) : Prop where
  rows : ∀ key row, config.state.db.requests.find? key = some row → key.kind = .user →
    row.status ∈ ApprovalRequestStatus.decided → SelfRecorded config.log row
  reads : ∀ thread ∈ config.threads, ∀ nodeId sessionId (rows : List Request),
    ⟨.inl (.undeliveredUserApprovals nodeId sessionId), rows⟩ ∈ thread.history →
    ∀ row ∈ rows, SelfRecorded config.log row

theorem SelfRecorded.cons (recorded : SelfRecorded log r)
    (e : Entry Task AnyStatement (World P)) : SelfRecorded (e :: log) r := by
  obtain ⟨user, byUser, sameId⟩ := recorded
  exact ⟨user, byUser.cons e, sameId⟩

theorem selfRecorded_execute (known : w.Known us) (respects : t.Respects us w stmt)
    (pre : ∀ k r, w.db.requests.find? k = some r → k.kind = .user →
      r.status ∈ ApprovalRequestStatus.decided → SelfRecorded log r) (k : Key) (r : Request)
    (found : (execute P stmt w).2.db.requests.find? k = some r)
    (ofUser : k.kind = .user) (decided : r.status ∈ ApprovalRequestStatus.decided) :
    SelfRecorded (⟨t, stmt, w⟩ :: log) r := by
  cases stmt with
  | inr stmt =>
    rw [db_execute_inr] at found
    exact (pre k r found ofUser decided).cons _
  | inl stmt =>
    rw [show (execute P (.inl stmt) w).2.db =
      (Approvals.execute stmt w.db).2 from rfl, find?_execute] at found
    rcases write_cases found with same | ⟨asked, old, rfl, stored, matched, rfl⟩ |
      ⟨asked, old, rfl, stored, matched, rfl⟩ | ⟨rfl, -, -⟩ |
      ⟨aimed, tr, old, rfl, stored, pinned, rfl⟩ | ⟨marked, now, old, rfl, stored, -, rfl⟩
    · exact (pre k r same ofUser decided).cons _
    · exact absurd (old.pending_of_isPendingAt matched) (not_pending_of_decided decided)
    · exact absurd rfl (not_pending_of_decided decided)
    · exact absurd respects.2 (not_pending_of_decided decided)
    · obtain ⟨sameKey, -, pending⟩ := (aimed.pinned_iff old).mp pinned
      rw [status_write] at decided
      obtain ⟨nid, name, sid, pick, dec, mom, user, rfl, named, owned⟩ := respects decided
      have atKey : old.key = k := key_of_find? stored
      have sameUser : user = ⟨old.userId, old.username⟩ := by
        refine user_eq_of_name (mem_of_find? named) (known.rows k old stored ofUser) ?_
        have sameName := key_of_find? named
        rw [owned old (by rw [← sameKey, atKey]; exact stored) pending, sameName]
      refine ⟨user, ⟨nid, name, sid, pick, dec, mom, aimed, tr, w,
        old, .head _, ?_, ?_, pinned, rfl⟩, ?_⟩
      · rw [known.sameUsers]
        exact named
      · rw [key_write, atKey]
        exact stored
      · rw [userId_write, sameUser]
    · exact (pre k old stored ofUser decided).cons _

theorem selfAnswered_of_run (us : Users P) (tks : Sql.Table Ticket Ticket.id)
    (params : Parameters) (ns : List NodeId) (ms : List (Move Task))
    (along : Along (system P) (KeepingNames P) (initial (World.fresh us tks params ns)) ms) :
    SelfAnswered ((initial (World.fresh us tks params ns)).run (system P) ms) := by
  have meeting := along_and_invariant (system P) (respectsNames_of_run tks params ns) ms along
  refine run_invariant _ SelfAnswered ?_ ?_ _ ms meeting
    ⟨fun _ _ found => (by cases found), fun _ mem => (by cases mem)⟩
  · intro c t _ answered
    refine ⟨answered.rows, forall_threads_start answered.reads ?_⟩
    exact fun _ _ _ seen => by cases seen
  · intro s pre t hist stmt next post log perm perf _ answered
    obtain ⟨-, known, meet⟩ := perm
    have respects : t.Respects us s stmt := (meet ⟨t, hist, .perform stmt next⟩
        mem_append_cons_self trivial s
        ((ownership us t).refl _ _ _) known).1
    refine ⟨selfRecorded_execute known respects answered.rows, ?_⟩
    have prev : ∀ th ∈ pre ++ ⟨t, hist, .perform stmt next⟩ :: post,
        ∀ nid sid (rows : List Request),
        ⟨.inl (.undeliveredUserApprovals nid sid), rows⟩ ∈ th.history →
        ∀ r ∈ rows, SelfRecorded (⟨t, stmt, s⟩ :: log) r :=
      fun th mem nid sid rows seen r read => (answered.reads th mem nid sid rows seen r read).cons _
    refine forall_threads_perform prev fun old nid sid rows seen r read => ?_
    rcases mem_cons.mp seen with new | seen
    · cases new
      obtain ⟨mem, undelivered⟩ := (mem_select _ _ r).mp read
      simp only [Request.isUndeliveredFor, decide_eq_true_eq] at undelivered
      exact (answered.rows r.key r (find?_of_mem mem) undelivered.1 undelivered.2.1).cons _
    · exact old nid sid rows seen r read

def ReadUndelivered (history : History AnyStatement.Outcome) (row : Request) :
    Prop :=
  ∃ nodeId sessionId, ∃ rows : List Request,
    ⟨.inl (.undeliveredUserApprovals nodeId sessionId), rows⟩ ∈ history ∧ row ∈ rows

theorem ReadUndelivered.cons (read : ReadUndelivered hist r)
    (ev : Event AnyStatement Outcome) : ReadUndelivered (ev :: hist) r := by
  obtain ⟨nid, sid, rows, seen, mem⟩ := read
  exact ⟨nid, sid, rows, .tail _ seen, mem⟩

def DeliversRead (history : History AnyStatement.Outcome) :
    AnyStatement → Prop
  | .inr (.deliver _ row _) => ReadUndelivered history row
  | _ => True

def Undelivering : AnyStatement → Prop
  | .inr (.deliver _ _ _) => False
  | _ => True

theorem Undelivering.deliversRead (none : Undelivering stmt)
    (hist : History AnyStatement.Outcome) : DeliversRead hist stmt := by
  rcases stmt with stmt | stmt
  · trivial
  · cases stmt with
    | deliver _ _ _ => exact none.elim
    | _ => trivial

theorem follows_of_undelivering {prog : Action Result}
    (perf : prog.Performs Undelivering) : prog.Follows DeliversRead (fun _ _ => True) hist :=
  perf.follows (fun seen _ none => none.deliversRead seen) fun _ _ => trivial

variable (nid : NodeId)

theorem deliverEach_follows (now : OffsetDateTime) (rows : List Request)
    (read : ∀ r ∈ rows, ReadUndelivered hist r) :
    (deliverEach nid now rows).Follows DeliversRead (fun _ _ => True) hist := by
  induction rows generalizing hist with
  | nil => trivial
  | cons r rows ih =>
    have rest : ∀ r ∈ rows, ReadUndelivered hist r := fun other mem => read other (.tail _ mem)
    have each : (deliverUserDecision nid r now).Follows DeliversRead
        (fun seen _ => ∀ r ∈ rows, ReadUndelivered seen r) hist := by
      unfold deliverUserDecision
      cases rowState r with
      | decided dec =>
        refine ⟨trivial, fun i => ?_⟩
        cases i with
        | none => exact ⟨trivial, fun _ other mem => ((rest other mem).cons _).cons _⟩
        | some i =>
          refine ⟨(read r (.head _)).cons _, fun _ => ⟨trivial, fun _ => ?_⟩⟩
          exact fun other mem => (((rest other mem).cons _).cons _).cons _
      | _ => exact rest
    exact each.seq fun seen _ still => ih still

theorem applyUserDecisions_follows (sid : Option UserSessionId) (now : OffsetDateTime) :
    (applyUserDecisions nid sid now).Follows DeliversRead (fun _ _ => True) hist :=
  ⟨trivial, fun rows => deliverEach_follows nid now rows fun _ mem =>
    ⟨nid, sid, rows, .head _, mem⟩⟩

theorem closeRequest_undelivering (sid : UserSessionId) (kind : ApprovalKind)
    (target : String) (status : UndecidedApprovalRequestStatus) (now : OffsetDateTime) :
    (ask (closeRequest sid kind target status now)).Performs Undelivering :=
  (closeRequest_performs sid kind target status now trivial (fun _ => trivial)
    fun _ => trivial).lift

theorem resolveOwnApproval_follows (name : String) (sid : UserSessionId) (pick : Nat)
    (dec : ApprovalDecision) (now : OffsetDateTime) :
    (resolveOwnApproval P nid name sid pick dec now).Follows
      DeliversRead (fun _ _ => True) hist := by
  refine ⟨trivial, fun user => ?_⟩
  cases user with
  | none => trivial
  | some user =>
    have finds : (findUserApproval P user.username sid pick).Performs Undelivering :=
      ⟨trivial, fun _ => trivial⟩
    refine (follows_of_undelivering finds).seq fun seen found _ => ?_
    cases found with
    | none => trivial
    | some r =>
      have parses : (parsePendingApproval nid r now).Performs Undelivering := by
        unfold parsePendingApproval
        split
        · refine ⟨trivial, fun alive => ?_⟩
          cases alive with
          | true => trivial
          | false => exact (closeRequest_undelivering _ _ _ _ now).bind fun _ => trivial
        · trivial
      refine (follows_of_undelivering parses).seq fun seen parsed _ => ?_
      cases parsed with
      | false => trivial
      | true =>
        have records : (ask (recordDecision r.sessionId r.kind r.target dec
            ⟨some user.username, user.id⟩ now)).Performs Undelivering :=
          (recordDecision_performs _ _ _ dec _ now trivial (fun _ _ => trivial)
            fun _ => trivial).lift
        refine (follows_of_undelivering records).seq fun seen recorded _ => ?_
        cases recorded with
        | true => exact applyUserDecisions_follows nid (some sid) now
        | false => trivial

theorem Task.program_deliversRead (t : Task) :
    (t.program P).Follows DeliversRead (fun _ _ => True) [] := by
  have abandons : ∀ now rows, (ask (abandonEach now rows)).Performs Undelivering :=
    fun now rows => (abandonEach_performs now rows (fun _ => trivial) fun _ => trivial).lift
  cases t with
  | forward i now closed =>
    refine follows_of_undelivering (forwardWebAuthRequest_performs i now closed trivial ?_ ?_
      trivial)
    · exact tryWebApprovalBypass_performs i now closed trivial trivial (fun _ _ _ => trivial)
        trivial (fun asked => closeRequest_undelivering _ _ _ _ closed) trivial
    · exact advertiseUserRequest_performs i trivial (fun req =>
        (upsertRequest_performs req trivial trivial trivial trivial
          (fun _ => trivial) (fun _ => trivial) fun _ => trivial).lift) trivial
  | resolveOwnApproval nid name sid pick dec now =>
    exact resolveOwnApproval_follows nid name sid pick dec now
  | applyUserDecisions nid sid now => exact applyUserDecisions_follows nid sid now
  | abandonSession sid now | abandonBefore cut now =>
    exact ⟨trivial, fun rows => follows_of_undelivering (abandons now rows)⟩
  | cancel nid sid i => exact ⟨trivial, fun _ => ⟨trivial, fun _ => trivial⟩⟩
  | _ => exact ⟨trivial, fun _ => trivial⟩

/-- In every run in which nobody asks for another user on a question whose answer is on its way, an
approval is added to an attempt only if the user of the attempt recorded it. -/
theorem approvals_reach_only_their_approver (users : Users primitives)
    (tickets : Sql.Table Ticket Ticket.id) (parameters : Parameters) (nodes : List NodeId)
    (moves : List (Move Task))
    (along : Config.Along (system primitives) (KeepingNames primitives)
      (Config.initial (World.fresh users tickets parameters nodes)) moves)
    (move : Move Task) (task : Task) (index : Nat) (row : Request) (decision : ApprovalDecision)
    (attempt : Attempt) :
    let reached := (Config.initial (World.fresh users tickets parameters nodes)).run
      (system primitives) moves
    reached.performed (system primitives) move = some (task, .inr (.deliver index row decision)) →
    reached.state.attempts[index]? = some attempt →
    (attempt.call (.deliver row.target row.userId decision)).1 = some .delivered →
    ∃ approver, RecordedBy reached.log row approver ∧ approver.id = attempt.state.userInfo.id := by
  intro reached perf _ delivered
  obtain ⟨history, next, mem⟩ := mem_of_performed (system primitives) perf
  have read : ReadUndelivered history row :=
    (run_follows (fun _ => DeliversRead) (fun _ _ _ => True) Task.program_deliversRead _
      moves _ mem).1
  obtain ⟨nodeId, sid, rows, seen, among⟩ := read
  obtain ⟨approver, recorded, sameId⟩ := (selfAnswered_of_run users tickets parameters nodes moves
    along).reads _ mem nodeId sid rows seen row among
  refine ⟨approver, recorded, sameId.trans ?_⟩
  by_contra different
  simp [Attempt.call, AuthState.handle, different] at delivered

end

def aliceApproved : List (Move Task) :=
  aliceAsked ++
    [.start (.resolveOwnApproval 1 "alice" 1 0 (.approved .once) 20), .advance 2, .advance 2,
      .advance 2, .advance 2, .advance 2, .advance 2]

def aliceDecided : Request where
  sessionId := 1
  kind := .user
  nodeId := 1
  protocol := "SSH"
  username := "alice"
  userId := 7
  target := "db"
  remoteAddress := some "1"
  identificationString := some "abcd"
  matchDigest := some "8c"
  ticketId := none
  started := 10
  status := .approved
  scope := some .once
  resolvedByUsername := some "alice"
  resolvedByUserId := some 7
  resolvedAt := some 20
  consumedAt := none

theorem approvals_reach_only_their_approver_alice :
    ∃ approver, RecordedBy ((Config.initial nobodyIn).run (system plain) aliceApproved).log
      aliceDecided approver ∧ approver.id = 7 :=
  approvals_reach_only_their_approver aliceAndBob .empty ⟨none, none, none⟩ [1] aliceApproved
    (by decide +kernel) (.advance 2)
    (.resolveOwnApproval 1 "alice" 1 0 (.approved .once) 20) 0 aliceDecided (.approved .once)
    { begin (.needingApproval "alice" 10) ⟨7, "alice"⟩ with received := 1 }
    rfl rfl (by decide +kernel)

theorem an_approval_reaches_somebody_else :
    let reached : State plain := (Config.initial nobodyIn).run (system plain) (aliceAsked ++
      [.start (.resolveOwnApproval 1 "alice" 1 0 (.approved .once) 20), .advance 2, .advance 2,
        .start (.login (.needingApproval "bob" 15)), .advance 3,
        .start (.forward 1 16 17), .advance 4, .advance 4, .advance 4, .advance 4, .advance 4,
        .advance 4,
        .advance 2, .advance 2, .advance 2, .advance 2, .advance 2])
    (reached.state.db.requests.find? ⟨1, .user, "db"⟩).map
        (fun r => (r.status, r.resolvedByUserId, r.userId)) =
      some (.approved, some 7, 8) ∧
    (reached.state.attempts[1]?).map (fun att => (att.state.userInfo, att.state.hasRealWebApproval,
          att.state.verify)) =
      some (⟨8, "bob"⟩, true, .accepted ⟨8, "bob"⟩) := by
  decide +kernel

end Warpgate.Login
