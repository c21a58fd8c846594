/-
This file is about the rotation of browser sessions and about logging out.
-/

import Warpgate.Sessions.System

namespace Warpgate.Sessions

open Concurrent Function
open Auth (Primitives plain)

section

/-! ### Sessions that are removed -/

def RecentlyLoaded.KnownSince (loaded : RecentlyLoaded) (id : String)
    (since now : OffsetDateTime) : Prop :=
  (id ∈ loaded.current ∧ since < loaded.swappedAt + recentlyLoadedSwapInterval) ∨
    (id ∈ loaded.previous ∧ since < loaded.swappedAt) ∨
    since + recentlyLoadedSwapInterval < now

namespace RecentlyLoaded

variable {loaded : RecentlyLoaded} {id : String} {since now : OffsetDateTime}

theorem KnownSince.contains (known : loaded.KnownSince id since now)
    (recent : now ≤ since + recentlyLoadedSwapInterval) : loaded.contains id = true := by
  rcases known with ⟨inCurrent, -⟩ | ⟨inPrevious, -⟩ | past
  · simp [RecentlyLoaded.contains, inCurrent]
  · simp [RecentlyLoaded.contains, inPrevious]
  · exact absurd recent (Int.not_le.mpr past)

theorem KnownSince.mono (known : loaded.KnownSince id since now) {later : OffsetDateTime}
    (ord : now ≤ later) : loaded.KnownSince id since later := by
  rcases known with cur | previous | past
  · exact .inl cur
  · exact .inr (.inl previous)
  · exact .inr (.inr (Int.lt_of_lt_of_le past ord))

theorem knownSince_record (loaded : RecentlyLoaded) (id : String) (now : OffsetDateTime) :
    (loaded.record id now).KnownSince id now now := by
  unfold record
  split
  · refine .inl ⟨List.mem_singleton_self id, ?_⟩
    show now < now + recentlyLoadedSwapInterval
    exact Int.lt_add_of_pos_right now (by decide)
  · next early => exact .inl ⟨.head _, Int.not_le.mp early⟩

theorem KnownSince.record (known : loaded.KnownSince id since now) (other : String) :
    (loaded.record other now).KnownSince id since now := by
  unfold RecentlyLoaded.record
  split
  · next swaps =>
    rcases known with ⟨inCurrent, recent⟩ | ⟨-, recent⟩ | past
    · exact .inr (.inl ⟨inCurrent, Int.lt_of_lt_of_le recent swaps⟩)
    · exact .inr (.inr (Int.lt_of_lt_of_le (Int.add_lt_add_right recent _) swaps))
    · exact .inr (.inr past)
  · rcases known with ⟨inCurrent, recent⟩ | previous | past
    · exact .inl ⟨.tail _ inCurrent, recent⟩
    · exact .inr (.inl previous)
    · exact .inr (.inr past)

end RecentlyLoaded

variable {id : String} {stmt : AnyStatement} (P : Primitives)

theorem knownSince_execute (stmt : AnyStatement) {w : World} {nid : NodeId}
    {since : OffsetDateTime} (known : (w.recentlyLoaded nid).KnownSince id since w.clock) :
    ((execute P stmt w).2.recentlyLoaded nid).KnownSince id since (execute P stmt w).2.clock := by
  rcases stmt with stmt | stmt
  · exact known
  have post := surroundings_execute P stmt w
  have loaded : (execute P (.inr stmt) w).2.recentlyLoaded =
      (stmt.changes w.surroundings).recentlyLoaded := congrArg Surroundings.recentlyLoaded post
  have clock : (execute P (.inr stmt) w).2.clock =
      (stmt.changes w.surroundings).clock := congrArg Surroundings.clock post
  rw [loaded, clock]
  cases stmt with
  | elapse period => exact known.mono (Int.le_add_of_nonneg_right (Int.natCast_nonneg period))
  | recordLoaded other loadedId =>
    show (update w.recentlyLoaded other _ nid).KnownSince id since w.clock
    by_cases same : nid = other
    · subst same
      rw [update_self]
      exact known.record loadedId
    · rw [update_of_ne same]
      exact known
  | _ => exact known

def KnowsLoaded (config : State) : Prop :=
  ∀ entry ∈ config.log, ∀ nodeId id, entry.statement = .inr (.recordLoaded nodeId id) →
    (config.state.recentlyLoaded nodeId).KnownSince id entry.before.clock config.state.clock

theorem knowsLoaded_perform {s : World}
    {threads later : List (Thread Task AnyStatement AnyStatement.Outcome Completion)}
    {log : List (Entry Task AnyStatement World)} (knows : KnowsLoaded ⟨s, threads, log⟩)
    (t : Task) (stmt : AnyStatement) :
    KnowsLoaded ⟨(execute P stmt s).2, later, ⟨t, stmt, s⟩ :: log⟩ := by
  intro e mem nid id loads
  rcases List.mem_cons.mp mem with rfl | old
  · dsimp only at loads
    subst loads
    show (update s.recentlyLoaded nid _ nid).KnownSince id s.clock _
    rw [update_self]
    exact RecentlyLoaded.knownSince_record (s.recentlyLoaded nid) id s.clock
  · exact knownSince_execute P stmt (knows e old nid id loads)

theorem knowsLoaded_run {c : State} (knows : KnowsLoaded c) (ms : List (Move Task)) :
    KnowsLoaded (c.run (system P) ms) :=
  Config.run_invariant (fun _ _ => True) KnowsLoaded (fun _ _ _ holds => holds)
    (fun _ _ task _ statement _ _ _ _ _ _ holds =>
      knowsLoaded_perform P holds task statement)
    c ms (Config.along_of_forall _ (fun _ _ => trivial) _ _) knows

def AnyStatement.updates : AnyStatement → Option (NodeId × String)
  | .inr (.updateSession nodeId id _ _) => some (nodeId, id)
  | _ => none

def servedWithin (config : State) (nodeId : NodeId) (id : String) : Bool :=
  config.log.any fun entry =>
    entry.statement = .inr (.recordLoaded nodeId id) ∧
      config.state.clock ≤ entry.before.clock + recentlyLoadedSwapInterval

def WritesBackServed (id : String) (config : State) (_ : Task) (statement : AnyStatement) : Prop :=
  (statement.updates.all fun update => update.2 ≠ id ∨ servedWithin config update.1 id) = true

instance (id : String) (config : State) (task : Task) (statement : AnyStatement) :
    Decidable (WritesBackServed id config task statement) :=
  inferInstanceAs (Decidable (_ = true))

theorem absent_execute {c : State} (knows : KnowsLoaded c)
    (absent : c.state.httpSessions.find? id = none) {t : Task}
    (served : WritesBackServed id c t stmt) :
    (execute P stmt c.state).2.httpSessions.find? id = none := by
  have step := httpSession_step P stmt c.state id
  rw [absent] at step
  generalize later : (execute P stmt c.state).2.httpSessions.find? id = stored at step
  cases step with
  | same => rfl
  | stored _ nid storageId entries exp live present =>
    have same : storageId = id := Sql.Table.key_of_find? later
    subst same
    simp only [WritesBackServed, AnyStatement.updates, Option.all_some, ne_eq, not_true_eq_false,
      false_or, decide_eq_true_eq, servedWithin] at served
    obtain ⟨e, logged, loads⟩ := List.any_eq_true.mp served
    rw [decide_eq_true_eq] at loads
    have contained := (knows e logged nid storageId loads.1).contains loads.2
    exact absurd rfl (present contained)

theorem absent_of_removal (w : World)
    (removes : stmt = .inr (.deleteHttpSession id) ∨ stmt = .inr (.removeStoredRow id none)) :
    (execute P stmt w).2.httpSessions.find? id = none := by
  have deleted : (w.httpSessions.delete fun r => r.id = id).find? id = none := by
    rw [Sql.Table.find?_delete]
    cases found : w.httpSessions.find? id with
    | none => rfl
    | some r =>
      have same : r.id = id := Sql.Table.key_of_find? found
      simp [Option.filter_some, same]
  rcases removes with rfl | rfl
  · exact deleted
  · show (w.removeStoredRow id none).2.httpSessions.find? id = none
    unfold World.removeStoredRow
    split
    · assumption
    · rw [Option.any_none, if_neg Bool.false_ne_true]
      dsimp only
      split
      · exact deleted
      · split
        · exact markEnded_rec (motive := fun post => post.httpSessions.find? id = none) _ _
            deleted fun _ _ => deleted
        · exact deleted

/-- Once a storage id has been rotated away or removed, no later state of any run has a row under
it, and a load of it finds nothing, as long as every write-back of it follows a load of it on the
same node within the swap interval. -/
theorem removed_id_stays_removed (primitives : Primitives) (world : World)
    (first rest : List (Move Task)) (move : Move Task) (task : Task) (id : String) :
    let reached : State := (Config.initial world).run (system primitives) first
    let removed := reached.step (system primitives) move
    let later := removed.run (system primitives) rest
    (reached.performed (system primitives) move = some (task, .inr (.deleteHttpSession id)) ∨
      reached.performed (system primitives) move = some (task, .inr (.removeStoredRow id none))) →
    Config.Along (system primitives)
      (Config.Performing (system primitives) (WritesBackServed id)) removed rest →
    later.state.httpSessions.find? id = none ∧
      ∀ nid, ((loadSession nid id).eval (execute primitives) later.state).1 = none := by
  intro reached removed later removes served
  have gone : removed.state.httpSessions.find? id = none := by
    rcases removes with rotated | removal
    · rw [Config.state_step (system primitives) rotated]
      exact absent_of_removal primitives reached.state (.inl rfl)
    · rw [Config.state_step (system primitives) removal]
      exact absent_of_removal primitives reached.state (.inr rfl)
  have knows : KnowsLoaded removed := knowsLoaded_run primitives
      (knowsLoaded_run primitives (fun _ mem => by cases mem) first) [move]
  have stays : KnowsLoaded later ∧ later.state.httpSessions.find? id = none := by
    refine Config.run_invariant _
      (fun c : State => KnowsLoaded c ∧ c.state.httpSessions.find? id = none)
      (fun _ _ _ holds => holds) ?_ removed rest served ⟨knows, gone⟩
    rintro s pre task hist statement next post log perm perf - ⟨known, absent⟩
    exact ⟨knowsLoaded_perform primitives known task statement,
      absent_execute primitives known absent (perm.admits _ perf)⟩
  refine ⟨stays.2, fun nodeId => ?_⟩
  show ((loadRow nodeId id (World.httpSessions _ |>.find? id)).eval (execute primitives) _).1 = none
  rw [stays.2]
  rfl

def staleWriteBack : List (Move Task) × List (Move Task) :=
  ([.start (.register 1 .ssh (some 0)), .advance 0,
    .start (.request 0 "" "a" none (.changed ⟨some 1, none⟩)), .advance 1, .advance 1,
    .start (.request 0 "" "x" none (.changed ⟨some 1, none⟩)), .advance 2, .advance 2,
    .start (.request 0 "a" "" none (.renewed "b" ⟨some 1, none⟩)), .advance 3, .advance 3,
    .advance 3,
    .start (.request 0 "a" "" none (.changed ⟨some 1, none⟩)), .advance 4, .advance 4, .advance 4],
   [.start (.elapse 3600000000000), .advance 5,
    .start (.request 0 "x" "" none .unchanged), .advance 6, .advance 6, .advance 6,
    .advance 4, .advance 3, .advance 3])

theorem removed_id_stays_removed_stale_write_back :
    let reached : State :=
      (Config.initial (World.fresh aliceHasRole .empty)).run (system plain) staleWriteBack.1
    let removed := reached.step (system plain) (.advance 3)
    let later := removed.run (system plain) staleWriteBack.2
    ((reached.state.httpSessions.find? "a").isSome = true ∧
      (later.state.httpSessions.find? "b").isSome = true) ∧
      later.state.httpSessions.find? "a" = none ∧
        ∀ nid, ((loadSession nid "a").eval (execute plain) later.state).1 = none :=
  ⟨by decide +kernel,
    removed_id_stays_removed plain (World.fresh aliceHasRole .empty) staleWriteBack.1
      staleWriteBack.2 (.advance 3) (.request 0 "a" "" none (.renewed "b" ⟨some 1, none⟩)) "a"
      (by decide +kernel) (by decide +kernel)⟩

end

open Option Sql.Table Config World

/-! ### Users who are deleted -/

def World.NotOpenOf (userId : Uuid) (id : UserSessionId) (world : World) : Prop :=
  ∀ row, world.userSessions.find? id = some row → row.userId = some userId → row.isOpen = false

def AnyStatement.attributesTo : AnyStatement → Option Uuid
  | .inl _ => none
  | .inr statement => statement.attributes.map Prod.snd

variable {stmt : AnyStatement} {w : World}

theorem notOpenOf_execute (P : Primitives) {uid : Uuid}
    (others : stmt.attributesTo ≠ some uid) {id : UserSessionId}
    (holds : w.NotOpenOf uid id) : (execute P stmt w).2.NotOpenOf uid id := by
  intro r found owned
  have step := userSession_step P stmt w id
  rw [found] at step
  generalize prev : w.userSessions.find? id = stored at step
  cases step with
  | same => exact holds r prev owned
  | registered => cases owned
  | assigned stmt old assignee attributes unowned =>
    have same : assignee = uid := some.inj owned
    exact absurd (by simp [AnyStatement.attributesTo, attributes, same]) others
  | finished => rfl

def AttributesOthers (userId : Uuid) (_ : State) (_ : Task) (statement : AnyStatement) : Prop :=
  statement.attributesTo ≠ some userId

instance (userId : Uuid) (config : State) (task : Task) (statement : AnyStatement) :
    Decidable (AttributesOthers userId config task statement) :=
  inferInstanceAs (Decidable (_ ≠ _))

section Deletion

variable {P : Primitives} (userId uid : Uuid) (id : UserSessionId)

def KeepsNotOpenOf (world later : World) : Prop :=
  world.NotOpenOf userId id → later.NotOpenOf userId id

theorem closable_notOpenOf : Closable P (KeepsNotOpenOf uid id) (NotOpenOf uid id) id where
  others := fun _ _ keeps => keeps
  own := by
    intro stmt w closes holds
    refine notOpenOf_execute P ?_ holds
    rcases stmt with stmt | stmt
    · exact some_ne_none uid |>.symm
    · cases stmt <;> first | exact (some_ne_none uid).symm | cases closes
  ends := by
    intro w ended r found _
    simpa [isLive, found] using ended

theorem finds_openOf (w : World) : w.NotOpenOf uid id ∨ id ∈ w.openMatching (.user uid) := by
  grind [NotOpenOf, SessionsFilter.selects, mem_openMatching]

theorem deleteUser_meets (w : World) (hist : History AnyStatement.Outcome) :
    MeetsNextTo P (fun _ _ => True) (KeepsNotOpenOf uid id) (fun _ holds => holds)
      (fun _ _ _ first second holds => second (first holds))
      (fun _ res reached => res = .ok () → reached.NotOpenOf uid id) hist (deleteUser uid) w := by
  refine meets_inquire fun later _ _ => ?_
  rcases later.whenReachable_cases (later.directory.users.find? uid) with failed | found
  · rw [show (Question.findUser uid).answer P later = none from failed]
    exact fun ok => by cases ok
  rw [show (Question.findUser uid).answer P later = some _ from found]
  cases stored : later.directory.users.find? uid with
  | none => exact fun ok => by cases ok
  | some user =>
    have same : user.id = uid := key_of_find? stored
    have finds : ∀ later : World,
        later.NotOpenOf uid id ∨ id ∈ later.openMatching (.user user.id) := by
      rw [same]
      exact finds_openOf uid id
    refine (closeSessions_meets (closable_notOpenOf uid id) (.user user.id) finds).seq ?_
    intro seen res reached closed
    cases res with
    | error error => exact fun ok => by cases ok
    | ok done =>
      refine meets_act fun last relied _ => ?_
      have kept : (execute P (.inr (.deleteUserRecords user.id)) last).2.NotOpenOf uid id := by
        refine notOpenOf_execute P ?_ (relied (closed rfl))
        exact (some_ne_none uid).symm
      rcases last.transact_cases (last.deleteUserRecords user.id) () with ⟨failed, -⟩ | ⟨done, -⟩
      · rw [show execute P (.inr (.deleteUserRecords user.id)) last = (none, last) from failed]
        exact fun ok => by cases ok
      · rw [show execute P (.inr (.deleteUserRecords user.id)) last = (some (), _)
          from done] at kept ⊢
        exact fun _ => kept

end Deletion

/-- Once a deletion has succeeded, no session of the user is open, if no step since the deletion
began attributes a session to the user. -/
theorem deleted_user_has_no_open_session (primitives : Primitives) (world : World)
    (first rest : List (Move Task)) (userId : Uuid) :
    let reached : State := (Config.initial world).run (system primitives) first
    let begun := reached.step (system primitives) (.start (.deleteUser userId))
    let later := begun.run (system primitives) rest
    Config.Along (system primitives)
      (Config.Performing (system primitives) (AttributesOthers userId)) begun rest →
    later.threads[reached.threads.length]?.bind Thread.result = some (.ok ()) →
    ∀ r ∈ later.state.userSessions.rows, r.userId = some userId → r.isOpen = false := by
  intro reached begun later others fin r mem owned
  obtain ⟨-, -, ensured⟩ := run_ensures (fun _ holds => holds)
    (fun _ _ _ first second holds => second (first holds))
    (fun _ _ _ _ relied ensured ok => relied (ensured ok)) reached (.deleteUser userId) rest _
    (fun c m t stmt perm _ perf => notOpenOf_execute primitives (perm.admits _ perf))
    (fun _ _ _ _ _ => trivial) others (deleteUser_meets userId r.id reached.state []) fin
  exact ensured rfl r (find?_of_mem mem) owned

def authorizedBeforeDeletion : List (Move Task) :=
  [.start (.register 1 .ssh (some 0)), .advance 0, .start (.login ⟨1, .ssh, 0⟩ alice),
   .start (.connect (aliceConnects 1 .roles)), .advance 2, .advance 2]

def loggedInBeforeDeletion : List (Move Task) :=
  authorizedBeforeDeletion ++ [.advance 1, .advance 2, .advance 2]

theorem deleted_user_has_no_open_session_logged_in :
    let reached : State :=
      (Config.initial (fresh aliceHasRole .empty)).run (system plain) loggedInBeforeDeletion
    let begun := reached.step (system plain) (.start (.deleteUser 7))
    let later := begun.run (system plain) (List.replicate 9 (.advance 3))
    reached.state.isOpen 1 5 = true ∧
      ∀ r ∈ later.state.userSessions.rows, r.userId = some 7 → r.isOpen = false :=
  ⟨by decide +kernel, deleted_user_has_no_open_session plain (fresh aliceHasRole .empty)
      loggedInBeforeDeletion (List.replicate 9 (.advance 3)) 7 (by decide +kernel)
      (by decide +kernel)⟩

theorem login_attributed_after_deletion_stays_open :
    let reached : State := (Config.initial (World.fresh aliceHasRole .empty)).run (system plain)
      (authorizedBeforeDeletion ++ .start (.deleteUser 7) :: List.replicate 3 (.advance 3) ++
        [.advance 1, .advance 2, .advance 2])
    reached.threads.map Thread.result = List.replicate 4 (some (.ok ())) ∧
      reached.state.directory.users.find? 7 = none ∧ reached.state.isOpen 1 5 = true ∧
      (reached.state.userSessions.find? 1).any (fun r => r.userId = some 7 ∧ r.isOpen) = true := by
  decide +kernel

/-! ### Logins that the provider ends -/

def SsoLoginState.isNamed (provider : String) (subject sid : Option String)
    (state : SsoLoginState) : Bool :=
  state.provider = provider ∧ state.subject.isSome ∧ subject.all (state.subject = some ·) ∧
    sid.all (state.sid = some ·)

def Entries.isNamed (provider : String) (subject sid : Option String) (entries : Entries) : Bool :=
  entries.ssoLoginState.any (SsoLoginState.isNamed provider subject sid)

def FitsColumns (provider : String) (subject sid : Option String) : Prop :=
  fitsSsoColumn provider = true ∧ subject.all fitsSsoColumn = true ∧ sid.all fitsSsoColumn = true

instance (provider : String) (subject sid : Option String) :
    Decidable (FitsColumns provider subject sid) :=
  inferInstanceAs (Decidable (_ ∧ _ ∧ _))

variable {subject sid : Option String} {provider : String}

theorem ssoColumns_of_isNamed (fits : FitsColumns provider subject sid) {entries : Entries}
    (named : entries.isNamed provider subject sid = true) :
    entries.ssoColumns.1 = some provider ∧ subject.all (entries.ssoColumns.2.1 = some ·) = true ∧
      sid.all (entries.ssoColumns.2.2 = some ·) = true := by
  obtain ⟨s, stored, named⟩ := (any_eq_true _ _).mp named
  simp only [SsoLoginState.isNamed, decide_eq_true_eq, Bool.decide_and, Bool.and_eq_true] at named
  obtain ⟨rfl, hasSubject, sameSubject, sameSid⟩ := named
  obtain ⟨own, isOwn⟩ := isSome_iff_exists.mp hasSubject
  obtain ⟨fitsProvider, fitsSubject, fitsSid⟩ := fits
  have columns : entries.ssoColumns = ((some s.provider).filter fitsSsoColumn,
      (some own).filter fitsSsoColumn, s.sid.filter fitsSsoColumn) := by
    simp [Entries.ssoColumns, stored, isOwn]
  rw [columns]
  refine ⟨by simp [filter_some, fitsProvider], ?_, ?_⟩
  · cases subject with
    | none => rfl
    | some v => grind
  · cases sid with
    | none => rfl
    | some v => grind

section Backing

variable (provider : String) (subject sid : Option String) (id : UserSessionId)

def World.Unbacked (world : World) : Prop :=
  ∀ row ∈ world.httpSessions.rows, row.data.isNamed provider subject sid = true →
    row.userSessionId ≠ some id

def World.LoggedOut (world : World) : Prop :=
  world.isLive id = false ∨ world.Unbacked provider subject sid id

def writesBackStored (world : World) : AnyStatement → Bool
  | .inr (.updateSession _ _ entries _) =>
    !entries.isNamed provider subject sid ||
      entries.sessionId.all fun sessionId =>
        world.httpSessions.rows.any fun row =>
          row.data.isNamed provider subject sid ∧ row.userSessionId = some sessionId
  | _ => true

variable {provider subject sid id} (P : Primitives)

theorem unbacked_execute (stored : writesBackStored provider subject sid w stmt = true)
    (unbacked : w.Unbacked provider subject sid id) :
    (execute P stmt w).2.Unbacked provider subject sid id := by
  intro r mem named
  have step := httpSession_step P stmt w r.id
  rw [find?_of_mem mem] at step
  generalize found : w.httpSessions.find? r.id = prev at step
  cases step with
  | same => exact unbacked r (mem_of_find? found) named
  | touched stmt old => exact unbacked old (mem_of_find? found) named
  | stored r nid storageId entries exp live present =>
    intro its
    have entriesNamed : entries.isNamed provider subject sid = true := named
    have owner : entries.sessionId = some id := its
    simp only [writesBackStored, entriesNamed, owner, Bool.not_true, Bool.false_or, all_some,
      List.any_eq_true, decide_eq_true_eq] at stored
    obtain ⟨other, among, otherNamed, otherIts⟩ := stored
    exact unbacked other among otherNamed otherIts

theorem isLive_closes (closes : stmt.Closes) (ended : w.isLive id = false) :
    (execute P stmt w).2.isLive id = false := by
  have step := userSession_step P stmt w id
  unfold isLive at ended ⊢
  generalize w.userSessions.find? id = prev at step ended
  generalize (execute P stmt w).2.userSessions.find? id = later at step ⊢
  cases step with
  | same | assigned => exact ended
  | registered => cases closes
  | finished => rfl

def KeepsLoggedOut (provider : String) (subject sid : Option String) (id : UserSessionId)
    (world later : World) : Prop :=
  world.LoggedOut provider subject sid id → later.LoggedOut provider subject sid id

theorem keepsLoggedOut_execute (present : w.userSessions.find? id ≠ none)
    (stored : writesBackStored provider subject sid w stmt = true) :
    KeepsLoggedOut provider subject sid id w (execute P stmt w).2 := by
  rintro (ended | unbacked)
  · have hasEnded := hasEnded_of_not_live present ended
    exact .inl (hasEnded_execute P stmt hasEnded).not_live
  · exact .inr (unbacked_execute P stored unbacked)

theorem closable_loggedOut {P : Primitives} :
    Closable P (KeepsLoggedOut provider subject sid id) (LoggedOut provider subject sid id) id where
  others := fun _ _ keeps => keeps
  own := by
    intro stmt world closes loggedOut
    rcases loggedOut with ended | unbacked
    · exact .inl (isLive_closes P closes ended)
    · refine .inr (unbacked_execute P ?_ unbacked)
      rcases stmt with stmt | stmt
      · rfl
      · cases stmt <;> first | rfl | cases closes
  ends := fun _ => .inl

theorem mem_ssoSessions (fits : FitsColumns provider subject sid) {r : HttpSession}
    (mem : r ∈ w.httpSessions.rows) (named : r.data.isNamed provider subject sid = true)
    (its : r.userSessionId = some id) : id ∈ w.ssoSessions provider subject sid := by
  have columns := ssoColumns_of_isNamed fits named
  rw [← r.extracts] at columns
  refine List.mem_dedup.mpr (List.mem_filterMap.mpr ⟨r, ?_, its⟩)
  refine (mem_select _ _ _).mpr ⟨mem, ?_⟩
  simpa [HttpSession.hasSso] using columns

end Backing

theorem ssoBackchannelLogout_meets {P : Primitives}
    (fits : FitsColumns provider subject sid) (id : UserSessionId) (w : World) :
    MeetsNextTo P (fun _ _ => True) (KeepsLoggedOut provider subject sid id)
      (fun _ loggedOut => loggedOut) (fun _ _ _ first second loggedOut => second (first loggedOut))
      (fun _ res reached => res = .ok () → reached.LoggedOut provider subject sid id) []
      (ssoBackchannelLogout provider subject sid) w := by
  refine meets_inquire fun later _ _ => ?_
  rcases later.whenReachable_cases (later.ssoSessions provider subject sid) with failed | found
  · rw [show (Question.ssoSessions provider subject sid).answer P later = none from failed]
    exact fun ok => by cases ok
  rw [show (Question.ssoSessions provider subject sid).answer P later = some _ from found]
  by_cases listed : id ∈ later.ssoSessions provider subject sid
  · dsimp only
    rw [if_neg (List.ne_nil_of_mem listed)]
    refine closeSessions_meets closable_loggedOut _ fun last => ?_
    exact (isLive_or_found last listed).imp_left .inl
  · have unbacked : later.Unbacked provider subject sid id := fun r mem named its =>
      listed (mem_ssoSessions fits mem named its)
    dsimp only
    split
    · exact fun _ => .inr unbacked
    · refine (meets_closes closable_loggedOut (closeSessions_closes _) (.inr unbacked)).imp ?_
      exact fun _ _ _ loggedOut _ => loggedOut

def World.Referenced (world : World) : Prop :=
  ∀ row ∈ world.httpSessions.rows, ∀ id, row.userSessionId = some id →
    world.userSessions.find? id ≠ none

theorem referenced_execute (P : Primitives) (stmt : AnyStatement)
    (referenced : w.Referenced) : (execute P stmt w).2.Referenced := by
  intro r mem id named
  refine userSession_present P stmt ?_
  have step := httpSession_step P stmt w r.id
  rw [find?_of_mem mem] at step
  generalize found : w.httpSessions.find? r.id = prev at step
  cases step with
  | same => exact referenced r (mem_of_find? found) id named
  | touched stmt old => exact referenced old (mem_of_find? found) id named
  | stored r nid storageId entries exp live present =>
    intro missing
    have isLive := live id named
    simp [World.isLive, missing] at isLive

/-- Once a logout for values that fit their columns has succeeded, no open user session is backed by
a login it names, if since it began such a login is stored only for sessions that have one stored.
-/
theorem logout_ends_every_login_it_names (primitives : Primitives) (world : World)
    (referenced : world.Referenced) (first rest : List (Move Task)) (provider : String)
    (subject sid : Option String) (fits : FitsColumns provider subject sid) :
    let reached : State := (Config.initial world).run (system primitives) first
    let begun := reached.step (system primitives) (.start (.ssoLogout provider subject sid))
    let later := begun.run (system primitives) rest
    Config.Along (system primitives) (Config.Performing (system primitives) fun c _ stmt =>
      writesBackStored provider subject sid c.state stmt = true) begun rest →
    later.threads[reached.threads.length]?.bind Thread.result = some (.ok ()) →
    ∀ r ∈ later.state.httpSessions.rows, r.data.isNamed provider subject sid = true →
      ∀ id, r.userSessionId = some id → later.state.isLive id = false := by
  intro reached begun later stored fin r mem named id its
  have referencedThen : reached.state.Referenced := run_state_invariant World.Referenced
      (fun stmt _ => referenced_execute primitives stmt) _ first referenced
  suffices loggedOut : later.state.LoggedOut provider subject sid id by
    exact loggedOut.resolve_right fun unbacked => unbacked r mem named its
  by_cases known : reached.state.userSessions.find? id = none
  · refine .inr (run_invariant _ (fun c : State => c.state.Unbacked provider subject sid id)
      (fun _ _ _ unbacked => unbacked) ?_ begun rest stored ?_)
    · intro s pre t hist stmt next post log perm perf _ unbacked
      exact unbacked_execute primitives (perm.admits _ perf) unbacked
    · exact fun r mem _ its => referencedThen r mem id its known
  · let knows : State → Prop := fun c => c.state.userSessions.find? id ≠ none
    have present : ∀ ms, Config.Along (system primitives) (Config.Performing (system primitives)
        fun c _ stmt => writesBackStored provider subject sid c.state stmt = true) begun ms →
        knows (begun.run (system primitives) ms) := fun ms _ =>
      run_state_invariant (fun s : World => s.userSessions.find? id ≠ none)
        (fun stmt _ => userSession_present primitives stmt) begun ms known
    obtain ⟨-, -, ensured⟩ := run_ensures (fun _ loggedOut => loggedOut)
      (fun _ _ _ first second loggedOut => second (first loggedOut))
      (fun _ _ _ _ relied ensured ok => relied (ensured ok)) reached
      (.ssoLogout provider subject sid) rest _
      (fun c m t stmt perm _ perf =>
        keepsLoggedOut_execute primitives perm.2 (perm.1.admits _ perf))
      (fun _ _ _ _ _ => trivial)
      (along_and_invariant (system primitives) present rest stored)
      (ssoBackchannelLogout_meets fits id reached.state) fin
    exact ensured rfl

def aliceReturns (subject : String) : SsoReturn where
  nodeId := 0
  storedId := none
  newId := "a"
  expires := none
  handle := ⟨1, .http, 0⟩
  replacement := 2
  user := alice
  accepted := true
  provider := "idp"
  subject := subject
  sid := none

def logsIn (subject : String) : List (Move Task) :=
  [.start (.register 1 .http none), .advance 0, .start (.ssoReturn (aliceReturns subject)),
   .advance 1, .advance 1]

def logsInAndRequests : List (Move Task) :=
  logsIn "sub" ++
    [.start (.request 0 "a" "" none (.changed ((aliceReturns "sub").entries 1))), .advance 2,
     .advance 2, .advance 2]

theorem logout_ends_every_login_it_names_during_request :
    let reached : State :=
      (Config.initial (fresh aliceHasRole .empty)).run (system plain) logsInAndRequests
    let begun := reached.step (system plain) (.start (.ssoLogout "idp" (some "sub") none))
    let later := begun.run (system plain)
      (.advance 3 :: .advance 2 :: List.replicate 6 (.advance 3))
    (reached.state.isLive 1 = true ∧ (reached.state.httpSessions.rows.any fun r =>
        r.data.isNamed "idp" (some "sub") none ∧ r.userSessionId = some 1) = true) ∧
      ∀ r ∈ later.state.httpSessions.rows, r.data.isNamed "idp" (some "sub") none = true →
        ∀ id, r.userSessionId = some id → later.state.isLive id = false :=
  ⟨by decide +kernel, logout_ends_every_login_it_names plain (fresh aliceHasRole .empty)
      (fun _ mem => by cases mem) logsInAndRequests
      (.advance 3 :: .advance 2 :: List.replicate 6 (.advance 3)) "idp" (some "sub") none
      (by decide +kernel) (by decide +kernel) (by decide +kernel)⟩

def longSubject : String := String.ofList (List.replicate 256 'a')

theorem logout_misses_a_long_subject :
    let later : State := (Config.initial (World.fresh aliceHasRole .empty)).run (system plain)
      (logsIn longSubject ++ [.start (.ssoLogout "idp" (some longSubject) none), .advance 2])
    later.threads.map Thread.result = List.replicate 3 (some (.ok ())) ∧
      later.state.isLive 1 = true ∧
      (later.state.httpSessions.rows.any fun r =>
        r.data.isNamed "idp" (some longSubject) none ∧ r.userSessionId = some 1) = true := by
  decide +kernel

example :
    let later : State := (Config.initial (World.fresh aliceHasRole .empty)).run (system plain)
      [.start (.register 1 .http none), .advance 0, .start (.ssoReturn (aliceReturns "sub")),
       .advance 1, .start (.ssoLogout "idp" (some "sub") none), .advance 2, .advance 1]
    later.threads.map Thread.result = List.replicate 3 (some (.ok ())) ∧
      later.state.isLive 1 = true ∧
      (later.state.httpSessions.rows.any fun row =>
        row.data.isNamed "idp" (some "sub") none ∧ row.userSessionId = some 1) = true := by
  decide +kernel

end Warpgate.Sessions
