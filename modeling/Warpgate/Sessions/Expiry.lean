/-
This file is about rechecks of running sessions, and about sessions that expire.
-/

import Warpgate.Sessions.Pending

namespace Warpgate.Sessions

open Concurrent Option Sql.Table World Question Config
open Auth (Primitives plain)

variable {sessionId : UserSessionId}

/-! ### Users with access -/

section

variable (sessionId) (userId targetId : Uuid)

def World.Connected (world : World) : Prop :=
  ∃ row parent, world.targetSessions.find? (sessionId, targetId) = some row ∧ row.isOpen = true ∧
    row.ticketId = none ∧ world.userSessions.find? sessionId = some parent ∧
    parent.isOpen = true ∧ parent.userId = some userId ∧ parent.protocol ≠ .http

def World.Entitled (moment : OffsetDateTime) (world : World) : Prop :=
  world.Connected sessionId userId targetId →
    world.directory.authorizes userId targetId moment = true

/-- A session to the target without a ticket is registered in a login with a user, and for this user
only while the user may reach the target. -/
def registersEntitled (world : World) : AnyStatement → Bool
  | .inr (.openOrLookup _ sessionId authorization) =>
    authorization.ticketId.isSome ∨ authorization.target.id ≠ targetId ∨
      (world.userSessions.find? sessionId).any fun parent => parent.userId.any fun owner =>
        owner ≠ userId ∨ world.directory.authorizes userId targetId world.clock
  | .inr statement => !statement.deletesTickets
  | .inl _ => true

end

def World.Owned (sessionId : UserSessionId) (userId : Uuid) (world : World) : Prop :=
  ∃ parent, world.userSessions.find? sessionId = some parent ∧ parent.userId = some userId

def World.Attributed (targetId : Uuid) (world : World) : Prop :=
  ∀ row ∈ world.targetSessions.rows, row.targetId = targetId → row.isOpen = true →
    row.ticketId = none → ∃ userId, world.Owned row.userSessionId userId

variable {w : World} {P : Primitives}

section Steps

variable (P) {stmt : AnyStatement} {sid : UserSessionId} {uid tgt : Uuid}

theorem owned_execute (owned : w.Owned sid uid) : (execute P stmt w).2.Owned sid uid := by
  obtain ⟨parent, found, its⟩ := owned
  have step := userSession_step P stmt w sid
  rw [found] at step
  generalize later : (execute P stmt w).2.userSessions.find? sid = next at step
  cases step with
  | same => exact ⟨parent, later, its⟩
  | finished => exact ⟨_, later, its⟩
  | assigned stmt r assignee attributes unowned =>
    have same : uid = assignee := by simpa [its] using unowned
    exact ⟨_, later, congrArg some same.symm⟩

theorem World.Owned.unique {other : Uuid} (owned : w.Owned sid uid)
    (owned' : w.Owned sid other) : uid = other := by
  obtain ⟨parent, found, its⟩ := owned
  obtain ⟨parent', found', its'⟩ := owned'
  obtain rfl := some.inj (found.symm.trans found')
  exact some.inj (its.symm.trans its')

theorem owned_of_registersEntitled {pid : TargetSessionId} {auth : Access.TargetAuthorization}
    (ent : registersEntitled uid auth.target.id w (.inr (.openOrLookup pid sid auth)) = true)
    (ticketless : auth.ticketId = none) :
    ∃ owner, w.Owned sid owner ∧
      (owner ≠ uid ∨ w.directory.authorizes uid auth.target.id w.clock = true) := by
  simp only [registersEntitled, ticketless, isSome_none, Bool.false_eq_true, false_or, ne_eq,
    not_true_eq_false, decide_eq_true_eq] at ent
  obtain ⟨parent, found, owned⟩ := (any_eq_true _ _).mp ent
  obtain ⟨owner, its, authorized⟩ := (any_eq_true _ _).mp owned
  exact ⟨owner, ⟨parent, found, its⟩, of_decide_eq_true authorized⟩

theorem deletesTickets_of_registersEntitled {stmt : Statement}
    (ent : registersEntitled uid tgt w (.inr stmt) = true) : stmt.deletesTickets = false := by
  cases stmt with
  | deleteTicket | deleteUserRecords => cases ent
  | _ => rfl

theorem attributed_execute (ent : registersEntitled uid tgt w stmt = true)
    (attributed : w.Attributed tgt) : (execute P stmt w).2.Attributed tgt := by
  intro r mem atTarget isOpen ticketless
  have step := targetSession_step P stmt w r.key
  rw [find?_of_mem mem] at step
  generalize found : w.targetSessions.find? r.key = earlier at step
  cases step with
  | same =>
    obtain ⟨owner, owned⟩ := attributed r (mem_of_find? found) atTarget isOpen ticketless
    exact ⟨owner, owned_execute P owned⟩
  | opened preferredId sessionId authorization live valid =>
    obtain rfl : authorization.target.id = tgt := atTarget
    obtain ⟨owner, owned, -⟩ := owned_of_registersEntitled ent ticketless
    exact ⟨owner, owned_execute P owned⟩
  | finished => cases isOpen
  | forgotten stmt old ticketId deletes =>
    rw [deletesTickets_of_registersEntitled ent] at deletes
    cases deletes

theorem connected_execute (ent : registersEntitled uid tgt w stmt = true) (attr : w.Attributed tgt)
    (connected : (execute P stmt w).2.Connected sid uid tgt) :
    w.Connected sid uid tgt ∨ w.directory.authorizes uid tgt w.clock = true := by
  obtain ⟨r, parent, found, isOpen, ticketless, foundParent, parentOpen, owned, notHttp⟩ :=
    connected
  have later : (execute P stmt w).2.Owned sid uid := ⟨parent, foundParent, owned⟩
  have step := targetSession_step P stmt w (sid, tgt)
  rw [found] at step
  generalize stored : w.targetSessions.find? (sid, tgt) = prev at step
  cases step with
  | same =>
    have k : r.userSessionId = sid := congrArg Prod.fst (key_of_find? stored)
    have atTarget : r.targetId = tgt := congrArg Prod.snd (key_of_find? stored)
    obtain ⟨owner, old, foundOld, its⟩ := attr r (mem_of_find? stored) atTarget isOpen ticketless
    rw [k] at foundOld
    have same : owner = uid := Owned.unique (owned_execute P ⟨old, foundOld, its⟩) later
    have parentStep := userSession_step P stmt w sid
    rw [foundOld, foundParent] at parentStep
    refine .inl ⟨r, old, stored, isOpen, ticketless, foundOld, ?_, same ▸ its, ?_⟩
    · cases parentStep with
      | same | assigned => exact parentOpen
      | finished => cases parentOpen
    · cases parentStep with
      | same | assigned | finished => exact notHttp
  | opened pid opener auth live valid =>
    have k : (TargetSession.opening pid opener auth).key = (sid, tgt) := key_of_find? found
    obtain ⟨rfl, rfl⟩ := Prod.mk.inj k
    obtain ⟨owner, its, authorized⟩ := owned_of_registersEntitled ent ticketless
    have same : owner = uid := Owned.unique (owned_execute P its) later
    exact .inr (authorized.resolve_left (not_not.mpr same))
  | finished => cases isOpen
  | forgotten stmt old tid deletes =>
    rw [deletesTickets_of_registersEntitled ent] at deletes
    cases deletes

end Steps

variable {ok : State → Move Task → Prop} {ms : List (Move Task)}

theorem attributed_run (P : Primitives) {uid tgt : Uuid}
    (registers : ∀ c m, ok c m → Performing (system P)
      (fun c _ stmt => registersEntitled uid tgt c.state stmt = true) c m)
    {c : State} (attr : c.state.Attributed tgt) (along : Along (system P) ok c ms) :
    (c.run (system P) ms).state.Attributed tgt ∧
      c.state.clock ≤ (c.run (system P) ms).state.clock := by
  refine run_invariant ok
    (fun reached => reached.state.Attributed tgt ∧ c.state.clock ≤ reached.state.clock)
    (fun _ _ _ held => held) ?_ c ms along ⟨attr, Int.le_refl _⟩
  intro s pre t hist stmt next post log perm perf _ held
  exact ⟨attributed_execute P ((registers _ _ perm).admits _ perf) held.1,
    Int.le_trans held.2 (clock_le_execute P stmt s)⟩

theorem World.Sound.connected (sound : w.Sound) {r : TargetSession}
    (mem : r ∈ w.targetSessions.rows) (isOpen : r.isOpen = true)
    (ticketless : r.ticketId = none) {parent : UserSession}
    (found : w.userSessions.find? r.userSessionId = some parent) {uid : Uuid}
    (owned : parent.userId = some uid) (notHttp : parent.protocol ≠ .http) :
    w.Connected r.userSessionId uid r.targetId := by
  have live := sound r mem isOpen
  rw [isLive, found, any_some] at live
  exact ⟨r, parent, find?_of_mem mem, isOpen, ticketless, found, live, owned, notHttp⟩

section Recheck

variable (sessionId) (userId targetId : Uuid) (moment : OffsetDateTime)

def AnyStatement.queuesChange : AnyStatement → Bool
  | .inr (.pushChange _ _) => true
  | _ => false

def KeepsEntitled (world later : World) : Prop :=
  world.Entitled sessionId userId targetId moment →
    later.Entitled sessionId userId targetId moment

abbrev MeetsEntitled (primitives : Primitives) (assumed : AnyStatement → World → Prop)
    {Result : Type} (ensures : History AnyStatement.Outcome → Result → World → Prop) :
    History AnyStatement.Outcome → Action Result → World → Prop :=
  MeetsNextTo primitives assumed (KeepsEntitled sessionId userId targetId moment) (fun _ ent => ent)
    (fun _ _ _ first second ent => second (first ent)) ensures

variable {sessionId sid userId uid targetId tgt moment mom}
  {hist : History AnyStatement.Outcome}

theorem attributes_of_closes {stmt : Statement} (closes : AnyStatement.Closes (.inr stmt)) :
    stmt.attributes = none ∧ stmt.deletesTickets = false := by
  cases stmt <;> first | exact ⟨rfl, rfl⟩ | cases closes

theorem connected_closes {stmt : AnyStatement} (closes : stmt.Closes)
    (connected : (execute P stmt w).2.Connected sid uid tgt) : w.Connected sid uid tgt := by
  obtain ⟨r, parent, found, isOpen, ticketless, foundParent, parentOpen, owned, notHttp⟩ :=
    connected
  have step := targetSession_step P stmt w (sid, tgt)
  have parentStep := userSession_step P stmt w sid
  rw [found] at step
  rw [foundParent] at parentStep
  generalize stored : w.targetSessions.find? (sid, tgt) = prev at step
  generalize storedParent : w.userSessions.find? sid = earlierParent at parentStep
  cases step with
  | same =>
    cases parentStep with
    | same =>
      exact ⟨r, parent, stored, isOpen, ticketless, storedParent, parentOpen, owned, notHttp⟩
    | registered => cases closes
    | assigned stmt old assignee attributes => grind [attributes_of_closes]
    | finished => cases parentOpen
  | opened => cases closes
  | finished => cases isOpen
  | forgotten stmt old tid deletes =>
    rw [(attributes_of_closes closes).2] at deletes
    cases deletes

theorem entitled_of_not_live (w : World) (ended : w.isLive sid = false) :
    w.Entitled sid uid tgt mom := by
  rintro ⟨r, parent, -, -, -, found, isOpen, -⟩
  simp [isLive, found, isOpen] at ended

theorem closable_entitled :
    Closable P (KeepsEntitled sid uid tgt mom) (Entitled sid uid tgt mom) sid where
  others := fun _ _ keeps => keeps
  own := by
    intro stmt w closes ent connected
    have pre := ent (connected_closes closes connected)
    rcases directory_execute P stmt w with same | ⟨write, rfl, -⟩ | ⟨user, rfl, -⟩
    · rw [same]
      exact pre
    · cases closes
    · cases closes
  ends := entitled_of_not_live

def Pending (rows : List (UserSessionId × Option Uuid × Uuid)) (ids : List UserSessionId)
    (sessionId : UserSessionId) (userId targetId : Uuid) (moment : OffsetDateTime)
    (world : World) : Prop :=
  world.Entitled sessionId userId targetId moment ∨ sessionId ∈ ids ∨
    (sessionId, some userId, targetId) ∈ rows

theorem Pending.settle {rowSession : UserSessionId} {rowUser : Option Uuid} {rowTarget : Uuid}
    {rows : List (UserSessionId × Option Uuid × Uuid)} {ids closing : List UserSessionId}
    (pending : Pending ((rowSession, rowUser, rowTarget) :: rows) ids sid uid tgt mom w)
    (within : ids ⊆ closing)
    (settles : rowUser = some uid → rowTarget = tgt →
      w.Entitled sid uid tgt mom ∨ rowSession ∈ closing) :
    Pending rows closing sid uid tgt mom w := by
  rcases pending with ent | listed | among
  · exact .inl ent
  · exact .inr (.inl (within listed))
  · rcases List.mem_cons.mp among with same | later
    · obtain ⟨rfl, rfl, rfl⟩ : sid = rowSession ∧ some uid = rowUser ∧
        tgt = rowTarget := by simpa using same
      exact (settles rfl rfl).imp_right .inl
    · exact .inr (.inr later)

theorem recheckRows_meets (rows : List (UserSessionId × Option Uuid × Uuid))
    (verdicts : List ((Uuid × Uuid) × Bool)) (ids : List UserSessionId)
    (pending : Pending rows ids sid uid tgt mom w)
    (cached : verdicts.lookup (uid, tgt) = some true → w.Entitled sid uid tgt mom) :
    MeetsEntitled sid uid tgt mom P (fun _ later => mom ≤ later.clock)
      (fun _ closing reached => reached.Entitled sid uid tgt mom ∨
        sid ∈ closing) hist (recheckRows rows verdicts ids) w := by
  induction rows generalizing verdicts ids w hist with
  | nil =>
    rcases pending with ent | listed | none
    · exact .inl ent
    · exact .inr listed
    · cases none
  | cons r rows ih =>
    obtain ⟨rowSession, rowUser, rowTarget⟩ := r
    have within : ∀ authorized : Bool, ids ⊆ if authorized then ids else ids ++ [rowSession] := by
      intro authorized
      cases authorized <;> simp
    cases rowUser with
    | none =>
      refine ih verdicts ids ?_ cached
      exact pending.settle (List.Subset.refl ids) fun nobody => by cases nobody
    | some rowUser =>
      unfold recheckRows
      split
      · next authorized found =>
        refine ih verdicts _ (pending.settle (within authorized) ?_) cached
        rintro sameUser rfl
        obtain rfl := some.inj sameUser
        cases authorized with
        | true => exact .inl (cached found)
        | false => exact .inr (by simp)
      · refine meets_inquire fun later relied past => ?_
        have verdict : ((authorizeTargetById rowUser rowTarget).answer P
            later).getD false = true → rowUser = uid → rowTarget = tgt →
            later.Entitled sid uid tgt mom := by
          rintro favourable rfl rfl
          rcases later.whenReachable_cases
            (later.directory.authorizes rowUser rowTarget later.clock) with failed | answered
          · rw [show (authorizeTargetById rowUser rowTarget).answer P later = none
              from failed] at favourable
            cases favourable
          · rw [show (authorizeTargetById rowUser rowTarget).answer P later =
              some _ from answered] at favourable
            exact fun _ => Access.Directory.authorizes_of_le past favourable
        refine ih (((rowUser, rowTarget), _) :: verdicts) _ ?_ ?_
        · have laterPending : Pending ((rowSession, some rowUser, rowTarget) :: rows) ids sid
            uid tgt mom later := pending.imp_left relied
          refine laterPending.settle (within _) fun sameUser sameTarget => ?_
          have same : rowUser = uid := some.inj sameUser
          cases favourable : ((authorizeTargetById rowUser rowTarget).answer P
            later).getD false with
          | true => exact .inl (verdict favourable same sameTarget)
          | false => exact .inr (by simp)
        · rw [List.lookup_cons]
          intro found
          split at found
          · grind
          · exact relied (cached found)

def AccessChange.covers (named : Option Uuid) (userId targetId : Uuid) : AccessChange → Bool
  | .users ids => userId ∈ ids
  | .username _ => named = some userId
  | .targets ids => targetId ∈ ids
  | .all => true

variable {change : AccessChange} {named : Option Uuid}

theorem mem_openTicketless (covers : change.covers named uid tgt = true)
    (connected : w.Connected sid uid tgt) :
    (sid, some uid, tgt) ∈ w.openTicketless change named := by
  obtain ⟨r, parent, found, isOpen, ticketless, foundParent, parentOpen, owned, notHttp⟩ :=
    connected
  have k : r.key = (sid, tgt) := key_of_find? found
  obtain ⟨rfl, rfl⟩ := Prod.mk.inj k
  have affected : isAffected change named parent r = true := by
    cases change with
    | users ids => simpa [isAffected, AccessChange.covers, owned] using covers
    | username name => simpa [isAffected, AccessChange.covers, owned, eq_comm] using covers
    | targets ids => simpa [isAffected, AccessChange.covers] using covers
    | all => rfl
  refine List.mem_filterMap.mpr ⟨r, mem_of_find? found, ?_⟩
  rw [foundParent, bind_some, if_pos, owned]
  exact ⟨isOpen, ticketless, parentOpen, by simp [owned], notHttp, affected⟩

theorem closeUnauthorised_meets (covers : change.covers named uid tgt = true) :
    MeetsEntitled sid uid tgt mom P (fun _ later => mom ≤ later.clock)
      (fun _ res reached => res = .ok () → reached.Entitled sid uid tgt mom) hist
      (closeUnauthorised change named) w := by
  refine meets_inquire fun later _ _ => ?_
  rcases later.whenReachable_cases (later.openTicketless change named) with failed | listed
  · rw [show (openTicketless change named).answer P later = none from failed]
    exact fun ok => by cases ok
  rw [show (openTicketless change named).answer P later = some _ from listed]
  have pending : Pending (later.openTicketless change named) [] sid uid tgt mom later := by
    by_cases connected : later.Connected sid uid tgt
    · exact .inr (.inr (mem_openTicketless covers connected))
    · exact .inl fun isConnected => absurd isConnected connected
  refine (recheckRows_meets _ [] [] pending fun none => by cases none).seq ?_
  intro seen ids reached closing
  by_cases listed : sid ∈ ids
  · rw [if_neg (List.ne_nil_of_mem listed)]
    have named : sid ∈ (sortedSessions ids).dedup :=
      List.mem_dedup.mpr ((List.perm_insertionSort _ _).mem_iff.mpr listed)
    refine closeSessions_meets closable_entitled _ fun last => ?_
    exact (isLive_or_found last named).imp_left (entitled_of_not_live last)
  · have ent := closing.resolve_right listed
    split
    · exact fun _ => ent
    · refine (meets_closes closable_entitled (closeSessions_closes _) ent).imp ?_
      exact fun _ _ _ still _ => still

end Recheck

variable (primitives : Primitives)

def AccessChange.isAbout (userId targetId : Uuid) (world : World) : AccessChange → Bool
  | .username name => (world.directory.findUserByName primitives name).any (·.id = userId)
  | change => change.covers none userId targetId

variable {mom : OffsetDateTime}

section Recheck

variable {sid : UserSessionId} {uid tgt : Uuid}
  {hist : History AnyStatement.Outcome}

def RechecksQuietly (primitives : Primitives) (userId targetId : Uuid) (moment : OffsetDateTime)
    (change : AccessChange) (statement : AnyStatement) (later : World) : Prop :=
  moment ≤ later.clock ∧ change.isAbout primitives userId targetId later = true ∧
    statement.queuesChange = false

theorem tryCloseSessionsNoLongerAuthorised_meets (change : AccessChange)
    (about : change.isAbout P uid tgt w = true) :
    MeetsEntitled sid uid tgt mom P (RechecksQuietly P uid tgt mom change)
      (fun _ res reached => res = .ok () → reached.Entitled sid uid tgt mom) hist
      (tryCloseSessionsNoLongerAuthorised change) w := by
  have closes : ∀ named (seen : History AnyStatement.Outcome) (later : World),
      change.covers named uid tgt = true →
      MeetsEntitled sid uid tgt mom P (RechecksQuietly P uid tgt mom change)
        (fun _ res reached => res = .ok () → reached.Entitled sid uid tgt mom) seen
        (closeUnauthorised change named) later := fun named seen later covers =>
    ((closeUnauthorised_meets covers).weaken (fun _ => True) (fun _ _ _ quietly => quietly.1)
      (fun _ _ _ relied => ⟨trivial, relied⟩) (fun _ _ _ => trivial) trivial).imp
      fun _ _ _ ensured => ensured.1
  cases change with
  | username name =>
    refine meets_inquire fun later _ quietly => ?_
    rcases later.whenReachable_cases (later.directory.findUserByName P name) with
      failed | answered
    · rw [show (findUserByName name).answer P later = none from failed]
      exact fun ok => by cases ok
    rw [show (findUserByName name).answer P later = some _ from answered]
    obtain ⟨user, found, same⟩ := (any_eq_true _ _).mp quietly.2.1
    rw [found]
    exact closes (some user.id) _ later (by simpa [AccessChange.covers] using same)
  | users ids | targets ids | all => exact closes none hist w about

theorem closeSessionsNoLongerAuthorised_meets (nid : NodeId) (change : AccessChange)
    (about : change.isAbout P uid tgt w = true) :
    MeetsEntitled sid uid tgt mom P (RechecksQuietly P uid tgt mom change)
      (fun _ _ reached => reached.Entitled sid uid tgt mom) hist
      (closeSessionsNoLongerAuthorised nid change) w := by
  refine (tryCloseSessionsNoLongerAuthorised_meets change about).seq ?_
  intro seen res reached ent
  cases res with
  | ok done => exact meets_inquire fun later relied _ => relied (ent rfl)
  | error error => exact meets_act fun later _ quietly => by cases quietly.2.2

end Recheck

variable {stmt : AnyStatement}

theorem keepsEntitled_execute (P : Primitives)
    {sid : UserSessionId} {uid tgt : Uuid}
    (past : mom ≤ w.clock) (attr : w.Attributed tgt) (ent : registersEntitled uid tgt w stmt = true)
    (denied : w.directory.authorizes uid tgt mom = false) :
    KeepsEntitled sid uid tgt mom w (execute P stmt w).2 := by
  intro pre connected
  exfalso
  rcases connected_execute P ent attr connected with was | authorized
  · rw [pre was] at denied
    cases denied
  · rw [Access.Directory.authorizes_of_le past authorized] at denied
    cases denied

/-! ### Roles that are revoked -/

def CutsOff (userId targetId : Uuid) (moment : OffsetDateTime)
    (change : AccessChange) (index : Nat) (config : State) (move : Move Task) : Prop :=
  Config.Performing (system primitives)
      (fun config _ statement => registersEntitled userId targetId config.state statement = true)
      config move ∧
    config.state.directory.authorizes userId targetId moment = false ∧
    change.isAbout primitives userId targetId config.state = true ∧
    (config.performed (system primitives) (.advance index)).all (!·.2.queuesChange) = true

instance (primitives : Primitives) (userId targetId : Uuid) (moment : OffsetDateTime)
    (change : AccessChange) (index : Nat) (config : State) (move : Move Task) :
    Decidable (CutsOff primitives userId targetId moment change index config move) :=
  inferInstanceAs (Decidable (_ ∧ _ ∧ _ ∧ _))

/-- A re-check of a change that cuts the user off from the target, and that did not have to queue
the change, leaves no target session without a ticket open between them, if such sessions are
in logins with a user and, from then on, registered only while the user may reach the target. -/
theorem revoked_role_leaves_no_session (world : World)
    (sound : world.Sound) (first rest : List (Move Task))
    (nodeId : NodeId) (change : AccessChange) (userId targetId : Uuid) :
    let reached : State := (Config.initial world).run (system primitives) first
    let begun := reached.step (system primitives) (.start (.changeAccess nodeId change))
    let later := begun.run (system primitives) rest
    reached.state.Attributed targetId →
    Config.Along (system primitives) (CutsOff primitives userId targetId reached.state.clock change
      reached.threads.length) begun rest →
    change.isAbout primitives userId targetId reached.state = true →
    later.threads[reached.threads.length]?.bind Thread.result = some (.ok ()) →
    later.state.directory.authorizes userId targetId reached.state.clock = false →
    ∀ r ∈ later.state.targetSessions.rows, r.targetId = targetId → r.isOpen = true →
      r.ticketId = none →
      ∀ parent, later.state.userSessions.find? r.userSessionId = some parent →
        parent.userId = some userId → parent.protocol = .http := by
  intro reached begun later attributed along about fin denied r mem atTarget isOpen
    ticketless parent foundParent owned
  have soundLater : later.state.Sound := run_state_invariant World.Sound
    (fun stmt _ => sound_execute primitives stmt) begun rest
    (run_state_invariant World.Sound (fun stmt _ => sound_execute primitives stmt)
      (initial world) first sound)
  let knows : State → Prop := fun c =>
    c.state.Attributed targetId ∧ reached.state.clock ≤ c.state.clock
  have known : ∀ ms, Along (system primitives) (CutsOff primitives userId targetId
      reached.state.clock change reached.threads.length) begun ms →
      knows (begun.run (system primitives) ms) :=
    fun ms => attributed_run primitives (fun _ _ perm => perm.1) attributed
  have meets : MeetsEntitled r.userSessionId userId targetId reached.state.clock primitives
      (RechecksQuietly primitives userId targetId reached.state.clock change)
      (fun _ _ last => last.Entitled r.userSessionId userId targetId reached.state.clock) []
      (Task.program primitives (.changeAccess nodeId change)) reached.state :=
    (closeSessionsNoLongerAuthorised_meets nodeId change about).seq fun _ _ _ ent => ent
  obtain ⟨-, -, ent⟩ := run_ensures (fun _ ent => ent)
    (fun _ _ _ first second ent => second (first ent))
    (fun _ _ _ _ relied ensured => relied ensured) reached (.changeAccess nodeId change) rest
    (fun c m => CutsOff primitives userId targetId reached.state.clock change
      reached.threads.length c m ∧ knows c)
    (fun c m t stmt perm _ perf =>
      keepsEntitled_execute primitives perm.2.2 perm.2.1 (perm.1.1.admits _ perf) perm.1.2.1)
    (fun c t stmt perm perf =>
      ⟨perm.2.2, perm.1.2.2.1, by
        have quiet := perm.1.2.2.2
        rw [perf] at quiet
        simpa using quiet⟩)
    (along_and_invariant _ known rest along) meets fin
  by_contra notHttp
  subst atTarget
  have authorized := ent (soundLater.connected mem isOpen ticketless foundParent owned notHttp)
  rw [denied] at authorized
  cases authorized

def authorizedOnly : List (Move Task) :=
  [.start (.register 1 .ssh (some 0)), .advance 0, .start (.login ⟨1, .ssh, 0⟩ alice), .advance 1,
   .start (.connect (aliceConnects 1 .roles)), .advance 2, .advance 2]

def registeredBeforeRevocation : List (Move Task) :=
  authorizedOnly ++
    [.advance 2, .advance 2, .start (.administer (.removeUserRole 7 3)), .advance 3]

theorem revoked_role_leaves_no_session_registered :
    let reached : State := (Config.initial (World.fresh aliceHasRole .empty)).run (system plain)
      registeredBeforeRevocation
    let begun := reached.step (system plain) (.start (.changeAccess 0 (.users [7])))
    let later := begun.run (system plain) (List.replicate 9 (.advance 4))
    reached.state.isOpen 1 5 = true ∧
      ∀ r ∈ later.state.targetSessions.rows, r.targetId = 5 → r.isOpen = true → r.ticketId = none →
        ∀ parent, later.state.userSessions.find? r.userSessionId = some parent →
          parent.userId = some 7 → parent.protocol = .http :=
  have registers : Along (system plain) (Performing (system plain) fun config _ statement =>
      registersEntitled 7 5 config.state statement = true) (initial (fresh aliceHasRole .empty))
      registeredBeforeRevocation := by decide +kernel
  ⟨by decide +kernel, revoked_role_leaves_no_session plain (fresh aliceHasRole .empty)
      (fun _ none => by cases none) registeredBeforeRevocation (List.replicate 9 (.advance 4)) 0
      (.users [7]) 7 5
      (attributed_run plain (fun _ _ perm => perm) (fun _ none => by cases none) registers).1
      (by decide +kernel) (by decide +kernel) (by decide +kernel) (by decide +kernel)⟩

theorem connection_registered_after_recheck_stays_open :
    let reached : State := (Config.initial (World.fresh aliceHasRole .empty)).run (system plain)
      (authorizedOnly ++ .start (.administer (.removeUserRole 7 3)) :: .advance 3 ::
        .start (.changeAccess 0 (.users [7])) :: List.replicate 2 (.advance 4) ++
        [.advance 2, .advance 2])
    reached.threads.map Thread.result = List.replicate 5 (some (.ok ())) ∧
      reached.state.pendingRevocations 0 = ⟨[], []⟩ ∧
      reached.state.directory.authorizes 7 5 reached.state.clock = false ∧
      (reached.state.targetSessions.find? (1, 5)).any
        (fun r => r.isOpen ∧ r.ticketId = none) = true ∧
      (reached.state.userSessions.find? 1).any
        (fun r => r.userId = some 7 ∧ r.isOpen ∧ r.protocol = .ssh) = true := by
  decide +kernel

open AnyStatement Access.Directory

variable {since : Option OffsetDateTime}

/-! ### Roles that expire -/

section

variable (sessionId) (userId targetId : Uuid)

def World.EntitledSince (since : Option OffsetDateTime) (world : World) : Prop :=
  world.Connected sessionId userId targetId →
    ∃ moment, (∀ start ∈ since, start ≤ moment) ∧
      world.directory.authorizes userId targetId moment = true

def World.Past (since : Option OffsetDateTime) (world : World) : Prop :=
  ∀ start ∈ since, start ≤ world.clock

variable {sid uid tgt}

theorem entitledSince_of_entitled (notBefore : ∀ start ∈ since, start ≤ mom)
    (ent : w.Entitled sid uid tgt mom) : w.EntitledSince sid uid tgt since :=
  fun connected => ⟨mom, notBefore, ent connected⟩

theorem World.EntitledSince.entitled
    (ent : w.EntitledSince sid uid tgt (some mom)) : w.Entitled sid uid tgt mom := by
  intro connected
  obtain ⟨reached, notBefore, authorized⟩ := ent connected
  exact authorizes_of_le (notBefore mom rfl) authorized

theorem World.EntitledSince.advance {now : OffsetDateTime} (ent : w.EntitledSince sid uid tgt since)
    (none_expired : uid ∉ w.expiredRoleAssignments since now) :
    w.EntitledSince sid uid tgt (some now) := by
  intro connected
  obtain ⟨mom, notBefore, authorized⟩ := ent connected
  obtain ⟨assignment, stored, active, linked⟩ := (authorizes_eq_true_iff _ _ _ _).mp authorized
  have its : assignment.userId = uid := by grind [links]
  simp only [Access.UserRoleAssignment.active, Bool.and_eq_true, all_eq_true,
    decide_eq_true_eq] at active
  refine ⟨now, fun start same => (some.inj same).ge,
    (authorizes_eq_true_iff _ _ _ _).mpr ⟨assignment, stored, ?_, linked⟩⟩
  simp only [Access.UserRoleAssignment.active, Bool.and_eq_true, all_eq_true, decide_eq_true_eq]
  refine ⟨active.1, fun expiry exp => ?_⟩
  by_contra expired
  refine none_expired (List.mem_dedup.mpr (List.mem_map.mpr ⟨assignment, ?_, its⟩))
  rw [mem_select]
  refine ⟨stored, decide_eq_true ⟨active.1, ?_, ?_⟩⟩
  · simpa [exp] using expired
  · rw [all_eq_true]
    intro start isSince
    simpa [exp] using Int.lt_of_le_of_lt (notBefore start isSince) (active.2 expiry exp)

end

def onlyGrants (world : World) : AnyStatement → Bool
  | .inr (.administer write) => write.grants world.directory
  | _ => true

def Steady (userId targetId : Uuid) (statement : AnyStatement) (world : World) : Prop :=
  registersEntitled userId targetId world statement = true ∧ onlyGrants world statement = true ∧
    world.Attributed targetId

def AnyStatement.takesChanges (nodeId : NodeId) : AnyStatement → Bool
  | .inr (.takeChanges taker) => taker = nodeId
  | _ => false

def World.Queued (nodeId : NodeId) (userId : Uuid) (world : World) : Prop :=
  ∃ users, .users users ∈ (world.pendingRevocations nodeId).changes ∧ userId ∈ users

variable {world later : World}

section Steps

variable {nid : NodeId}
  {sid : UserSessionId} {uid tgt : Uuid}

theorem authorizes_execute (steady : Steady uid tgt stmt w)
    (authorized : w.directory.authorizes uid tgt mom = true) :
    (execute P stmt w).2.directory.authorizes uid tgt mom = true := by
  rcases directory_execute P stmt w with same | ⟨write, rfl, later⟩ | ⟨user, rfl, -⟩
  · rw [same]
    exact authorized
  · rw [later]
    exact authorizes_grants steady.2.1 authorized
  · cases steady.1

theorem entitledSince_execute (steady : Steady uid tgt stmt w) (past : w.Past since)
    (ent : w.EntitledSince sid uid tgt since) :
    (execute P stmt w).2.EntitledSince sid uid tgt since := by
  intro connected
  rcases connected_execute P steady.1 steady.2.2 connected with was | authorized
  · obtain ⟨mom, notBefore, authorized⟩ := ent was
    exact ⟨mom, notBefore, authorizes_execute steady authorized⟩
  · exact ⟨w.clock, past, authorizes_execute steady authorized⟩

structure KeepsSafe (nodeId : NodeId) (sessionId : UserSessionId) (userId targetId : Uuid)
    (world later : World) : Prop where
  clock : world.clock ≤ later.clock
  entitled : ∀ since, world.Past since → world.EntitledSince sessionId userId targetId since →
    later.EntitledSince sessionId userId targetId since
  queued : world.Queued nodeId userId → later.Queued nodeId userId

theorem World.Past.mono (ord : w.clock ≤ later.clock) (past : w.Past since) : later.Past since :=
  fun start isSince => Int.le_trans (past start isSince) ord

theorem KeepsSafe.refl (w : World) : KeepsSafe nid sid uid tgt w w :=
  ⟨Int.le_refl _, fun _ _ ent => ent, fun queued => queued⟩

theorem KeepsSafe.trans (first second third : World) (pre : KeepsSafe nid sid uid tgt first second)
    (post : KeepsSafe nid sid uid tgt second third) : KeepsSafe nid sid uid tgt first third where
  clock := Int.le_trans pre.clock post.clock
  entitled := fun since past ent =>
    post.entitled since (past.mono pre.clock) (pre.entitled since past ent)
  queued := fun queued => post.queued (pre.queued queued)

theorem keepsSafe_execute (steady : Steady uid tgt stmt w)
    (leaves : stmt.takesChanges nid = false) :
    KeepsSafe nid sid uid tgt w (execute P stmt w).2 where
  clock := clock_le_execute P stmt w
  entitled := fun _ => entitledSince_execute steady
  queued := by
    rintro ⟨us, queued, listed⟩
    rcases changes_execute P stmt queued with still | rfl
    · exact ⟨us, still, listed⟩
    · simp [takesChanges] at leaves

end Steps

section Seen

variable (nodeId : NodeId) (now : OffsetDateTime)

def goesWell : Event AnyStatement AnyStatement.Outcome → Bool
  | ⟨.inr (.read (.expiredRoleAssignments _ asked)), answer⟩ =>
    asked = now ∧ Option.isSome (show Option (List Uuid) from answer)
  | ⟨statement, _⟩ => !statement.queuesChange

def SucceededAt (history : History AnyStatement.Outcome) : Bool :=
  (history.takeWhile fun event => !event.1.takesChanges nodeId).all (goesWell now)

variable {nid now}

theorem succeededAt_cons (leaves : stmt.takesChanges nid = false)
    (out : Outcome stmt) (hist : History Outcome) :
    SucceededAt nid now (⟨stmt, out⟩ :: hist) =
      (goesWell now ⟨stmt, out⟩ && SucceededAt nid now hist) := by
  rw [SucceededAt, List.takeWhile_cons, if_pos (by simp [leaves]), List.all_cons]
  rfl

theorem succeededAt_query (since : Option OffsetDateTime) (asked : OffsetDateTime)
    (ans : Option (List Uuid)) (hist : History Outcome) :
    SucceededAt nid now (⟨.inr (.read (.expiredRoleAssignments since asked)), ans⟩ :: hist) =
      (decide (asked = now ∧ ans.isSome = true) && SucceededAt nid now hist) := rfl

end Seen

/-! ### The expiry loop -/

section

structure Timely (nodeId : NodeId) (only : OffsetDateTime → Prop) (since : Option OffsetDateTime)
    (seen : History AnyStatement.Outcome) (world : World) : Prop where
  past : world.Past since
  known : ∀ now, SucceededAt nodeId now seen = true → only now

def Safe (nodeId : NodeId) (sessionId : UserSessionId) (userId targetId : Uuid)
    (since : Option OffsetDateTime) (seen : History AnyStatement.Outcome)
    (world : World) : Prop :=
  world.EntitledSince sessionId userId targetId since ∨
    world.Queued nodeId userId ∧ ∀ now, SucceededAt nodeId now seen = false

variable {primitives : Primitives} {nid : NodeId} {sid : UserSessionId} {uid tgt : Uuid}
  {only : OffsetDateTime → Prop} {history hist : History AnyStatement.Outcome}
  {us : List Uuid} {now : OffsetDateTime}

theorem Timely.mono (ord : w.clock ≤ later.clock)
    (timely : Timely nid only since hist w) : Timely nid only since hist later :=
  ⟨timely.past.mono ord, timely.known⟩

theorem Timely.cons (leaves : stmt.takesChanges nid = false)
    (out : Outcome stmt) (timely : Timely nid only since hist w) :
    Timely nid only since (⟨stmt, out⟩ :: hist) w := by
  refine ⟨timely.past, fun now succeeded => ?_⟩
  rw [succeededAt_cons leaves, Bool.and_eq_true] at succeeded
  exact timely.known now succeeded.2

theorem Safe.mono (keeps : KeepsSafe nid sid uid tgt w later)
    (past : w.Past since) (safe : Safe nid sid uid tgt since hist w) :
    Safe nid sid uid tgt since hist later :=
  safe.imp (keeps.entitled since past) (And.imp_left keeps.queued)

theorem Safe.cons (leaves : stmt.takesChanges nid = false) (out : Outcome stmt)
    (safe : Safe nid sid uid tgt since hist w) :
    Safe nid sid uid tgt since (⟨stmt, out⟩ :: hist) w := by
  refine safe.imp_right fun queued => ⟨queued.1, fun now => ?_⟩
  rw [succeededAt_cons leaves, queued.2 now, Bool.and_false]

abbrev SweepMeets (primitives : Primitives) (nodeId : NodeId) (sessionId : UserSessionId)
    (userId targetId : Uuid) {Result : Type}
    (ensures : History AnyStatement.Outcome → Result → World → Prop)
    (history : History AnyStatement.Outcome) (program : Action Result)
    (world : World) : Prop :=
  MeetsNextTo primitives (Steady userId targetId) (KeepsSafe nodeId sessionId userId targetId)
    KeepsSafe.refl KeepsSafe.trans ensures history program world

variable {Result : Type} {prog : Action Result}

theorem timely_meets (leaves : prog.Performs (takesChanges nid · = false))
    (timely : Timely nid only since hist w) :
    SweepMeets P nid sid uid tgt
      (fun seen _ reached => Timely nid only since seen reached) hist prog w :=
  leaves.meets_keeps_seen _ (Timely nid only since) (fun _ stmt reached leaves _ timely =>
      (timely.cons leaves _).mono (clock_le_execute P stmt reached))
    (fun _ _ _ keeps => Timely.mono keeps.clock) timely

theorem safe_meets (leaves : prog.Performs (takesChanges nid · = false))
    (timely : Timely nid only since hist w) (safe : Safe nid sid uid tgt since hist w) :
    SweepMeets P nid sid uid tgt
      (fun seen _ reached => Timely nid only since seen reached ∧
        Safe nid sid uid tgt since seen reached) hist prog w :=
  leaves.meets_keeps_seen _ (fun seen reached => Timely nid only since seen reached ∧
      Safe nid sid uid tgt since seen reached)
    (fun _ stmt reached leaves steady held =>
      ⟨(held.1.cons leaves _).mono (clock_le_execute P stmt reached),
        (held.2.cons leaves _).mono (keepsSafe_execute steady leaves) held.1.past⟩)
    (fun _ _ _ keeps held => ⟨held.1.mono keeps.clock, held.2.mono keeps held.1.past⟩)
    ⟨timely, safe⟩

theorem takesChanges_of_ordinary (ordinary : prog.Ordinary) :
    prog.Performs (takesChanges nid · = false) := by
  refine ordinary.imp fun stmt isOrdinary => ?_
  rcases stmt with stmt | stmt
  · rfl
  · cases stmt <;> first | rfl | cases isOrdinary.1

theorem recheckUser_meets (listed : uid ∈ us)
    (notBefore : ∀ start ∈ since, start ≤ mom) (past : mom ≤ w.clock) :
    SweepMeets P nid sid uid tgt
      (fun seen _ reached => Safe nid sid uid tgt since seen reached) hist
      (closeSessionsNoLongerAuthorised nid (.users us)) w := by
  have covers : (AccessChange.users us).covers none uid tgt = true := decide_eq_true listed
  have closes : SweepMeets P nid sid uid tgt (fun _ res reached =>
        (res = .ok () → reached.Entitled sid uid tgt mom) ∧
          mom ≤ reached.clock) hist (closeUnauthorised (.users us) none) w :=
    (closeUnauthorised_meets covers).weaken (fun reached : World => mom ≤ reached.clock)
      (fun _ _ still _ => still)
      (fun reached later still keeps => ⟨Int.le_trans still keeps.clock, fun ent =>
        (keeps.entitled (some mom) (fun _ same => some.inj same ▸ still)
          (entitledSince_of_entitled (fun _ same => (some.inj same).ge) ent)).entitled⟩)
      (fun stmt reached still => Int.le_trans still (clock_le_execute P stmt reached)) past
  refine closes.seq fun seen res reached closed => ?_
  cases res with
  | ok done =>
    refine meets_inquire fun later keeps _ => .inl ?_
    have pastThen : reached.Past since :=
      fun start isSince => Int.le_trans (notBefore start isSince) closed.2
    exact keeps.entitled since pastThen (entitledSince_of_entitled notBefore (closed.1 rfl))
  | error error =>
    refine meets_act fun later _ _ => .inr ⟨?_, fun now => ?_⟩
    · exact ⟨us, mem_changes_pushChange P later nid _, listed⟩
    · rw [succeededAt_cons rfl]
      rfl

theorem retryChanges_meets (changes : List AccessChange) (timely : Timely nid only since hist w)
    (holds : Safe nid sid uid tgt since hist w ∨ ∃ us, .users us ∈ changes ∧ uid ∈ us) :
    SweepMeets P nid sid uid tgt
      (fun seen _ reached => Timely nid only since seen reached ∧
        Safe nid sid uid tgt since seen reached) hist (retryChanges nid changes) w := by
  induction changes generalizing w hist with
  | nil =>
    rcases holds with safe | ⟨us, none, -⟩
    · exact ⟨timely, safe⟩
    · cases none
  | cons change changes ih =>
    have leaves : (closeSessionsNoLongerAuthorised nid change).Performs
        (takesChanges nid · = false) :=
      takesChanges_of_ordinary (closeSessionsNoLongerAuthorised_ordinary nid change)
    rcases holds with safe | ⟨us, mem, listed⟩
    · refine (safe_meets leaves timely safe).seq fun seen _ reached post => ?_
      exact ih post.1 (.inl post.2)
    rcases List.mem_cons.mp mem with rfl | later
    · have notBefore : ∀ start ∈ since, start ≤ since.getD w.clock := by
        rintro start rfl
        exact Int.le_refl start
      have past : since.getD w.clock ≤ w.clock := by
        cases since with
        | none => exact Int.le_refl _
        | some start => exact timely.past start rfl
      refine ((timely_meets leaves timely).and (recheckUser_meets listed notBefore past)).seq
        fun seen _ reached post => ?_
      exact ih post.1 (.inl post.2)
    · refine (timely_meets leaves timely).seq fun seen _ reached post => ?_
      exact ih post (.inr ⟨us, later, listed⟩)

theorem sweepUsers_meets (timely : Timely nid only (some now) hist w)
    (holds : uid ∈ us ∨ Safe nid sid uid tgt (some now) hist w) :
    SweepMeets P nid sid uid tgt
      (fun seen (res : Completion) reached => res = .ok () ∧
        Timely nid only (some now) seen reached ∧ Safe nid sid uid tgt (some now) seen reached) hist
      (if us = [] then pure (.ok ())
        else do
          closeSessionsNoLongerAuthorised nid (.users us)
          pure (.ok ())) w := by
  have leaves : (closeSessionsNoLongerAuthorised nid (.users us)).Performs
      (takesChanges nid · = false) :=
    takesChanges_of_ordinary (closeSessionsNoLongerAuthorised_ordinary nid _)
  split
  · next empty =>
    rcases holds with listed | safe
    · rw [empty] at listed
      cases listed
    · exact ⟨rfl, timely, safe⟩
  · rcases holds with listed | safe
    · have notBefore : ∀ start ∈ some now, start ≤ now := fun _ same => (some.inj same).ge
      refine ((timely_meets leaves timely).and
        (recheckUser_meets listed notBefore (timely.past now rfl))).seq fun _ _ _ post => ?_
      exact ⟨rfl, post⟩
    · exact (safe_meets leaves timely safe).seq fun _ _ _ post => ⟨rfl, post⟩

def sweptUntil (since : Option OffsetDateTime) (now : OffsetDateTime) :
    Completion → Option OffsetDateTime
  | .ok () => some now
  | .error _ => since

theorem closeSessionsOfExpiredRoleAssignments_meets (past : now ≤ w.clock)
    (timely : Timely nid only since hist w) (safe : Safe nid sid uid tgt since hist w) :
    SweepMeets P nid sid uid tgt
      (fun seen res reached => Timely nid (fun moment => sweptUntil since now res = some moment)
          (sweptUntil since now res) seen reached ∧
        Safe nid sid uid tgt (sweptUntil since now res) seen reached)
      hist (closeSessionsOfExpiredRoleAssignments nid since now) w := by
  refine meets_inquire fun later keeps _ => ?_
  have pastLater : later.Past (some now) :=
    fun start same => some.inj same ▸ Int.le_trans past keeps.clock
  have stillTimely := timely.mono keeps.clock
  have still := safe.mono keeps timely.past
  rcases later.whenReachable_cases (later.expiredRoleAssignments since now) with failed | listed
  · rw [show (expiredRoleAssignments since now).answer P later = none from failed]
    refine ⟨⟨stillTimely.past, fun moment succeeded => ?_⟩, still.cons rfl _⟩
    rw [succeededAt_query] at succeeded
    simp at succeeded
  rw [show (expiredRoleAssignments since now).answer P later = some _ from listed]
  have timelyNow : Timely nid (fun moment => some now = some moment) (some now)
      (⟨.inr (.read (.expiredRoleAssignments since now)),
        some (later.expiredRoleAssignments since now)⟩ :: hist) later := by
    refine ⟨pastLater, fun moment succeeded => ?_⟩
    rw [succeededAt_query, Bool.and_eq_true, decide_eq_true_eq] at succeeded
    rw [succeeded.1.1]
  refine (sweepUsers_meets timelyNow ?_).imp fun seen res reached post => ?_
  · by_cases expired : uid ∈ later.expiredRoleAssignments since now
    · exact .inl expired
    · have advanced : Safe nid sid uid tgt (some now) hist later :=
        still.imp_left fun ent => ent.advance expired
      exact .inr (advanced.cons rfl _)
  · obtain ⟨rfl, timelyThen, safeThen⟩ := post
    exact ⟨timelyThen, safeThen⟩

def SafeOrQueued (nodeId : NodeId) (sessionId : UserSessionId) (userId targetId : Uuid)
    (since : Option OffsetDateTime) (world : World) : Prop :=
  world.Past since ∧
    (world.EntitledSince sessionId userId targetId since ∨ world.Queued nodeId userId)

theorem SafeOrQueued.mono (keeps : KeepsSafe nid sid uid tgt w later)
    (safe : SafeOrQueued nid sid uid tgt since w) : SafeOrQueued nid sid uid tgt since later :=
  ⟨safe.1.mono keeps.clock, safe.2.imp (keeps.entitled since safe.1) keeps.queued⟩

theorem retryPendingRevocations_meets (safe : SafeOrQueued nid sid uid tgt since world) :
    SweepMeets primitives nid sid uid tgt
      (fun seen _ reached => Timely nid (fun _ => True) since seen reached ∧
        Safe nid sid uid tgt since seen reached) history (retryPendingRevocations nid) world := by
  refine meets_act fun later keeps steady => ?_
  have queued := safe.mono keeps
  have holds := queued.2.imp_left (entitledSince_execute (P := primitives) steady queued.1)
  refine (retryChanges_meets _ ⟨queued.1.mono (clock_le_execute primitives _ later),
    fun _ _ => trivial⟩ (holds.imp_left .inl)).seq ?_
  exact fun seen _ reached after => safe_meets ⟨rfl, fun ids => takesChanges_of_ordinary
    (retryChunks_ordinary nid (chunksOf _ ids))⟩ after.1 after.2

theorem expiryTick_meets (safe : SafeOrQueued nid sid uid tgt since w) :
    SweepMeets P nid sid uid tgt
      (fun seen swept reached => Timely nid (fun moment => swept = some moment) swept seen reached ∧
        Safe nid sid uid tgt swept seen reached) hist (expiryTick nid since) w := by
  have tks : SweepMeets P nid sid uid tgt
      (fun _ _ reached => SafeOrQueued nid sid uid tgt since reached) hist
      (closeSessionsOfExpiredTickets nid) w := by
    refine Program.Performs.meets_keeps (takesChanges nid · = false)
      (SafeOrQueued nid sid uid tgt since) ?_ (fun _ _ => SafeOrQueued.mono)
      (takesChanges_of_ordinary (closeSessionsOfExpiredTickets_ordinary nid)) safe
    exact fun _ _ leaves steady => SafeOrQueued.mono (keepsSafe_execute steady leaves)
  refine tks.seq fun seen _ reached begun => ?_
  refine (retryPendingRevocations_meets begun).seq fun seen _ reached post => ?_
  refine meets_inquire fun later keeps _ => ?_
  refine (closeSessionsOfExpiredRoleAssignments_meets (Int.le_refl later.clock)
    ((post.1.mono keeps.clock).cons rfl _)
    ((post.2.mono keeps post.1.past).cons rfl _)).seq fun seen res reached swept => ?_
  cases res with
  | ok done | error error => exact swept

def SweptWell (nodeId : NodeId) (sessionId : UserSessionId) (userId targetId : Uuid)
    (seen : History AnyStatement.Outcome) (world : World) : Prop :=
  ∀ now, SucceededAt nodeId now seen = true →
    world.Past (some now) ∧ world.EntitledSince sessionId userId targetId (some now)

theorem expirySweep_meets (ticks : Nat) (safe : SafeOrQueued nid sid uid tgt since w)
    (swept : ticks = 0 → SweptWell nid sid uid tgt hist w) :
    SweepMeets P nid sid uid tgt (fun seen _ reached => SweptWell nid sid uid tgt seen reached) hist
      (expirySweep nid ticks since) w := by
  induction ticks generalizing since w hist with
  | zero => exact swept rfl
  | succ ticks ih =>
    refine (expiryTick_meets safe).seq fun seen upTo reached post => ?_
    obtain ⟨timely, ent⟩ := post
    refine ih ⟨timely.past, ent.imp_right And.left⟩ fun _ now succeeded => ?_
    obtain rfl := timely.known now succeeded
    rcases ent with ent | ⟨-, failed⟩
    · exact ⟨timely.past, ent⟩
    · rw [failed now] at succeeded
      cases succeeded

end

def registersSteadily (userId targetId : Uuid) (config : State) (_ : Task)
    (statement : AnyStatement) : Prop :=
  registersEntitled userId targetId config.state statement = true ∧
    onlyGrants config.state statement = true

instance (userId targetId : Uuid) (config : State) (task : Task) (statement : AnyStatement) :
    Decidable (registersSteadily userId targetId config task statement) :=
  inferInstanceAs (Decidable (_ ∧ _))

def LoopsAlone (nodeId : NodeId) (index : Nat) (config : State) : Move Task → Prop
  | .start _ => True
  | .advance other => other = index ∨ Config.Performing (system primitives)
      (fun _ _ statement => statement.takesChanges nodeId = false) config (.advance other)

instance (primitives : Primitives) (nodeId : NodeId) (index : Nat) (config : State)
    (move : Move Task) : Decidable (LoopsAlone primitives nodeId index config move) := by
  cases move <;> dsimp only [LoopsAlone] <;> infer_instance

def World.OnceEntitled (userId targetId : Uuid) (world : World) : Prop :=
  ∀ sessionId, world.EntitledSince sessionId userId targetId none

theorem onceEntitled_run (P : Primitives) {uid tgt : Uuid}
    (steadily : ∀ c m, ok c m → Performing (system P) (registersSteadily uid tgt) c m)
    {c : State} (attr : c.state.Attributed tgt) (ent : c.state.OnceEntitled uid tgt)
    (along : Along (system P) ok c ms) :
    (c.run (system P) ms).state.Attributed tgt ∧
      (c.run (system P) ms).state.OnceEntitled uid tgt := by
  refine run_invariant ok
    (fun reached => reached.state.Attributed tgt ∧ reached.state.OnceEntitled uid tgt)
    (fun _ _ _ held => held) ?_ c ms along ⟨attr, ent⟩
  intro s pre t hist stmt next post log perm perf _ held
  have admitted := (steadily _ _ perm).admits _ perf
  refine ⟨attributed_execute P admitted.1 held.1, fun sid => ?_⟩
  exact entitledSince_execute ⟨admitted.1, admitted.2, held.1⟩ (fun _ none => by cases none)
    (held.2 sid)

/-- Once a tick of a node's expiry loop has gone well, a user who is connected to a target without a
ticket could reach it at the time of the tick, if such sessions are registered only while the user
may reach the target and nothing else takes away roles or takes the node's queued changes. -/
theorem expired_role_leaves_no_session (world : World) (userId targetId : Uuid)
    (sound : world.Sound) (attributed : world.Attributed targetId)
    (entitled : world.OnceEntitled userId targetId)
    (first rest : List (Move Task)) (nodeId : NodeId) (ticks : Nat) (now : OffsetDateTime) :
    let reached : State := (Config.initial world).run (system primitives) first
    let begun := reached.step (system primitives) (.start (.expirySweep nodeId (ticks + 1)))
    let later := begun.run (system primitives) rest
    Config.Along (system primitives)
      (Config.Performing (system primitives) (registersSteadily userId targetId))
      (Config.initial world) first →
    Config.Along (system primitives) (fun c m =>
      Config.Performing (system primitives) (registersSteadily userId targetId) c m ∧
        LoopsAlone primitives nodeId reached.threads.length c m) begun rest →
    ∀ th, later.threads[reached.threads.length]? = some th →
      th.result = some (.ok ()) → SucceededAt nodeId now th.history = true →
      ∀ r ∈ later.state.targetSessions.rows, r.targetId = targetId → r.isOpen = true →
        r.ticketId = none →
        ∀ parent, later.state.userSessions.find? r.userSessionId = some parent →
          parent.protocol ≠ .http → parent.userId = some userId →
            later.state.directory.authorizes userId targetId now = true := by
  intro reached begun later pre along th found fin succeeded r mem atTarget isOpen
    ticketless parent foundParent notHttp owned
  subst atTarget
  obtain ⟨attributedThen, entitledThen⟩ :
      begun.state.Attributed r.targetId ∧ begun.state.OnceEntitled userId r.targetId :=
    onceEntitled_run primitives (fun _ _ perm => perm) attributed entitled pre
  have soundLater : later.state.Sound := run_state_invariant World.Sound
    (fun stmt _ => sound_execute primitives stmt) begun rest
    (run_state_invariant World.Sound (fun stmt _ => sound_execute primitives stmt)
      (initial world) first sound)
  let knows : State → Prop := fun c => c.state.Attributed r.targetId
  have known : ∀ ms, Along (system primitives) (fun c m =>
      Performing (system primitives) (registersSteadily userId r.targetId) c m ∧
        LoopsAlone primitives nodeId reached.threads.length c m) begun ms →
      knows (begun.run (system primitives) ms) := fun ms perm =>
    (onceEntitled_run primitives (fun _ _ perm => perm.1) attributedThen entitledThen perm).1
  have meets : SweepMeets primitives nodeId r.userSessionId userId r.targetId
      (fun seen _ last => SweptWell nodeId r.userSessionId userId r.targetId seen last) []
      (Task.program primitives (.expirySweep nodeId (ticks + 1))) reached.state := by
    have safe : SafeOrQueued nodeId r.userSessionId userId r.targetId none reached.state :=
      ⟨fun _ none => (by cases none), .inl (entitledThen _)⟩
    refine (expirySweep_meets (ticks + 1) safe fun none => ?_).seq fun _ _ _ swept => swept
    cases none
  obtain ⟨last, atIndex, swept⟩ := run_ensures KeepsSafe.refl KeepsSafe.trans
    (fun _ _ _ _ keeps swept now succeeded =>
      ⟨(swept now succeeded).1.mono keeps.clock,
        keeps.entitled _ (swept now succeeded).1 (swept now succeeded).2⟩)
    reached (.expirySweep nodeId (ticks + 1)) rest
    (fun c m => (Performing (system primitives) (registersSteadily userId r.targetId) c m ∧
        LoopsAlone primitives nodeId reached.threads.length c m) ∧ knows c)
    (fun c m t stmt perm other perf => by
      have admitted := perm.1.1.admits _ perf
      refine keepsSafe_execute ⟨admitted.1, admitted.2, perm.2⟩ ?_
      cases m with
      | start t => cases perf
      | advance i =>
        rcases perm.1.2 with same | leaves
        · exact absurd (congrArg Move.advance same) other
        · exact leaves.admits _ perf)
    (fun c t stmt perm perf =>
      have admitted := perm.1.1.admits _ perf
      ⟨admitted.1, admitted.2, perm.2⟩)
    (along_and_invariant _ known rest along) meets
    (by rw [found]; exact fin)
  obtain rfl := some.inj (atIndex.symm.trans found)
  exact (swept now succeeded).2.entitled
    (soundLater.connected mem isOpen ticketless foundParent owned notHttp)

def aliceHasRoleFor (period : Duration) : Access.Directory :=
  { aliceHasRole with userRoles := (Sql.Table.empty.insert ⟨7, 3, some period, none⟩).2 }

def registeredBeforeExpiry : List (Move Task) :=
  authorizedOnly ++ [.advance 2, .advance 2, .start (.elapse 10), .advance 3]

theorem expired_role_leaves_no_session_registered :
    let reached : State := (Config.initial (World.fresh (aliceHasRoleFor 10) .empty)).run
      (system plain) registeredBeforeExpiry
    let begun := reached.step (system plain) (.start (.expirySweep 0 1))
    let later := begun.run (system plain) (List.replicate 20 (.advance 4))
    reached.state.isOpen 1 5 = true ∧
      ∀ r ∈ later.state.targetSessions.rows, r.targetId = 5 → r.isOpen = true →
        r.ticketId = none →
        ∀ parent, later.state.userSessions.find? r.userSessionId = some parent →
          parent.protocol ≠ .http → parent.userId = some 7 →
            later.state.directory.authorizes 7 5 10 = true :=
  ⟨by decide +kernel, expired_role_leaves_no_session plain (World.fresh (aliceHasRoleFor 10) .empty)
      7 5 (fun _ none => by cases none) (fun _ none => by cases none)
      (fun _ connected => by obtain ⟨_, _, none, _⟩ := connected; cases none)
      registeredBeforeExpiry (List.replicate 20 (.advance 4)) 0 0 10 (by decide +kernel)
      (by decide +kernel) (get _ (by decide +kernel)) (some_get _).symm
      (by decide +kernel) (by decide +kernel)⟩

def sweptBeforeRegistration : List (Move Task) :=
  authorizedOnly ++ [.start (.elapse 10), .advance 3, .start (.expirySweep 0 2)] ++
    List.replicate 7 (.advance 4)

theorem connection_registered_after_tick_stays_open :
    let swept : State := (Config.initial (World.fresh (aliceHasRoleFor 10) .empty)).run
      (system plain) sweptBeforeRegistration
    let later := swept.run (system plain)
      (.advance 2 :: .advance 2 :: List.replicate 5 (.advance 4))
    (swept.threads[4]?.any fun th => SucceededAt 0 10 th.history) = true ∧
      (later.threads[4]?.any fun th => SucceededAt 0 10 th.history) = true ∧
      later.threads.map Thread.result = List.replicate 5 (some (.ok ())) ∧
      later.state.directory.authorizes 7 5 10 = false ∧
      (later.state.targetSessions.find? (1, 5)).any (fun r => r.isOpen ∧ r.ticketId = none) = true ∧
      (later.state.userSessions.find? 1).any
        (fun r => r.userId = some 7 ∧ r.isOpen ∧ r.protocol = .ssh) = true := by
  decide +kernel

end Warpgate.Sessions
