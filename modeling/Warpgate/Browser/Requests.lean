/-
This file shows that everything a request does is one of the steps.
-/

import Warpgate.Browser.Login

namespace Warpgate.Browser

open Option LoginProtection World Exchange EStateM

open Auth (AuthStateUserInfo AuthState StoredCredential)
open Handlers (Ensures)
open Http (SessionAuthorization)

variable {Result : Type} {origin : Option Attempt} {att : Attempt} {name : String}

section

def Timeless (statement : LoginProtection.Statement) : Prop :=
  ∀ period, statement ≠ .elapse period

theorem execute_timeless {P : LoginProtection.Primitives}
    {stmt : LoginProtection.Statement} (timeless : Timeless stmt) (w : LoginProtection.World) :
    (LoginProtection.execute P stmt w).2.clock = w.clock ∧
      (LoginProtection.execute P stmt w).2.users = w.users := by
  have step := step_execute P stmt w
  generalize (LoginProtection.execute P stmt w).2 = later at step ⊢
  cases step with
  | elapsed period => exact absurd rfl (timeless period)
  | same | cached | recorded | attemptsDeleted | blocksDeleted | blocksExpired | lockoutsDeleted
  | configSet | reachableSet => exact ⟨rfl, rfl⟩

theorem eval_timeless (P : LoginProtection.Primitives)
    {prog : LoginProtection.Action Result} (perf : prog.Performs Timeless)
    (w : LoginProtection.World) :
    (prog.eval (LoginProtection.execute P) w).2.clock = w.clock ∧
      (prog.eval (LoginProtection.execute P) w).2.users = w.users := by
  refine perf.eval_keeps (fun later : LoginProtection.World => later.clock = w.clock ∧
    later.users = w.users)
    (fun stmt s timeless same => ?_) ⟨rfl, rfl⟩
  obtain ⟨clock, users⟩ := execute_timeless timeless s
  exact ⟨clock.trans same.1, users.trans same.2⟩

theorem timeless_ask (q : Question) : Timeless (.ask q) := by
  intro period same
  cases same

variable (node : NodeId)

theorem timeless_cache (access : CacheAccess) : Timeless (.cache node access) := by
  intro period same
  cases same

theorem checkIpBlocked_timeless (ip : Auth.IpAddr) :
    (LoginProtection.checkIpBlocked node ip).Performs Timeless :=
  checkIpBlocked_performs timeless_ask node ip (fun _ => timeless_cache _ _)
    fun _ _ => timeless_cache _ _

theorem checkUserLocked_timeless (name : String) :
    (LoginProtection.checkUserLocked node name).Performs Timeless :=
  checkUserLocked_performs timeless_ask node name (fun _ => timeless_cache _ _)
    fun _ _ => timeless_cache _ _

theorem recordFailedAttempt_timeless (att : FailedAttemptInfo) :
    (recordFailedAttempt node att).Performs Timeless := by
  refine recordFailedAttempt_performs timeless_ask node att
    (fun c period same => ?_) (fun _ _ => timeless_cache _ _) fun _ _ => timeless_cache _ _
  cases same

theorem clearFailedAttempts_timeless (ip : Auth.IpAddr) (name : String) :
    (LoginProtection.clearFailedAttempts ip name).Performs Timeless := by
  refine readConfig_performs timeless_ask trivial fun c => ?_
  dsimp only
  split
  · trivial
  · refine ⟨fun period same => ?_, fun _ => trivial⟩
    cases same

/-! ### Handlers go by steps -/

section

variable (P : Primitives) (request : Request) {start : Exchange}

def Going (request : Request) (origin : Option Attempt) (start exchange : Exchange) : Prop :=
  Exchange.Trace request origin start exchange ∧ exchange.purged = false

abbrev Goes (origin : Option Attempt) (start : Exchange) {Result : Type} (before : Exchange → Prop)
    (handler : Handler Result) (after : Result → Exchange → Prop) : Prop :=
  Ensures (fun exchange => Going request origin start exchange ∧ before exchange) handler
    (fun result exchange => Going request origin start exchange ∧ after result exchange)
    (Exchange.Trace request origin start)

variable {req}

theorem Going.step {pre post : Exchange} (going : Going req origin start pre)
    (step : Step req origin pre post) (live : post.purged = pre.purged) :
    Going req origin start post :=
  ⟨going.1.tail step, live.trans going.2⟩

theorem Goes.onWorld {pre post : Exchange → Prop} {change : World → World}
    (steps : ∀ ex, Going req origin start ex → pre ex →
      Step req origin ex { ex with world := change ex.world })
    (holds : ∀ ex, Going req origin start ex → pre ex → post { ex with world := change ex.world }) :
    Goes req origin start pre (onWorld change) fun _ => post :=
  Ensures.modify fun ex here => ⟨here.1.step (steps ex here.1 here.2) rfl, holds ex here.1 here.2⟩

theorem Goes.onSession {pre post : Exchange → Prop} {change : Entries → Entries}
    (steps : ∀ ex, Going req origin start ex → pre ex →
      Step req origin ex { ex with session := change ex.session })
    (holds : ∀ ex, Going req origin start ex → pre ex →
      post { ex with session := change ex.session }) :
    Goes req origin start pre (onSession change) fun _ => post := by
  refine Ensures.modify fun ex here => ?_
  rw [if_neg (by rw [here.1.2]; exact Bool.false_ne_true)]
  exact ⟨here.1.step (steps ex here.1 here.2) rfl, holds ex here.1 here.2⟩

variable {post : Result → Exchange → Prop} {pre : Exchange → Prop}
  {hdl : Handler Result} {cred : AuthCredential}

theorem Goes.get {next : Exchange → Handler Result}
    (goesOn : ∀ seen, Going req origin start seen → pre seen →
      Goes req origin start (· = seen) (next seen) post) :
    Goes req origin start pre (MonadState.get >>= next) post := by
  rintro seen ⟨going, holds⟩
  rw [run_bind]
  exact goesOn seen going holds seen ⟨going, rfl⟩

theorem Goes.pure {res : Result} (holds : ∀ ex, Going req origin start ex → pre ex → post res ex) :
    Goes req origin start pre (Pure.pure res) post :=
  Ensures.pure fun ex here => ⟨here.1, holds ex here.1 here.2⟩

theorem Goes.throw {fault : Fault} : Goes req origin start pre (throw fault) post :=
  Ensures.throw fun _ here => here.1.1

theorem Goes.imp {pre stronger : Exchange → Prop} {post weaker : Result → Exchange → Prop}
    (goes : Goes req origin start pre hdl post)
    (starts : ∀ ex, Going req origin start ex → stronger ex → pre ex)
    (ends : ∀ res ex, Going req origin start ex → post res ex → weaker res ex) :
    Goes req origin start stronger hdl weaker :=
  Ensures.imp goes (fun ex here => ⟨here.1, starts ex here.1 here.2⟩)
    (fun res ex here => ⟨here.1, ends res ex here.1 here.2⟩) fun _ trace => trace

theorem Goes.known {fact : Prop} (knows : ∀ ex, Going req origin start ex → pre ex → fact)
    (goes : fact → Goes req origin start pre hdl post) : Goes req origin start pre hdl post :=
  fun ex here => goes (knows ex here.1 here.2) ex here

def Exchange.Known (exchange : Exchange) : Prop :=
  ∃ id, exchange.session.sessionId = some id ∧ (exchange.world.userSessions id).isSome = true

def Entries.Unclaimed (entries : Entries) : Prop :=
  entries.auth = none ∨ entries.sessionId = none

open Goes

theorem createHandle_goes :
    Goes req origin start (fun ex => ex.session.Unclaimed) (createHandle req) fun _ => Known := by
  rintro seen ⟨going, unclaimed⟩
  have drawn := going.step (.drew fun i => seen.world.uuids (i + 1)) rfl
  cases free : seen.world.userSessions (seen.world.uuids 0) with
  | some r =>
    have fails : (createHandle req).run seen = .error .internal { seen with world :=
          { seen.world with uuids := fun i => seen.world.uuids (i + 1) } } := by
      simp only [createHandle, run_bind, run_get, onWorld, run_modify, free]
      rfl
    rw [fails]
    exact drawn.1
  | none =>
    have created := drawn.step (.created (seen.world.uuids 0) free unclaimed) rfl
    have returns : (createHandle req).run seen = .ok () { seen with
          world := setHandle (setUserSession
              { seen.world with uuids := fun i => seen.world.uuids (i + 1) }
              (seen.world.uuids 0) ⟨none, false, none, .http⟩)
            req.node (seen.world.uuids 0) (some none)
          session := { seen.session with sessionId := some (seen.world.uuids 0) } } := by
      simp only [createHandle, run_bind, run_get, onWorld, onSession,
        run_modify, free, going.2, Bool.false_eq_true, if_false]
    rw [returns]
    exact ⟨created, seen.world.uuids 0, rfl, by simp [setUserSession, setHandle]⟩

theorem clear_goes : Goes req origin start pre clear fun _ ex => ex.session = .empty :=
  Goes.onSession (fun _ _ _ => .cleared) fun _ _ _ => rfl

variable (sound : start.Sound)

include sound

theorem resolveHandle_goes :
    Goes req origin start pre (resolveHandle req) fun refusal ex => refusal = none → ex.Known := by
  unfold resolveHandle
  refine Goes.get fun seen going _ => ?_
  have creates : Goes req origin start (fun ex => ex.session.Unclaimed)
      (do createHandle req; Pure.pure (none : Option Refusal))
      fun refusal ex => refusal = none → ex.Known :=
    createHandle_goes.bind fun _ => Goes.pure fun _ _ known _ => known
  cases names : seen.session.sessionId with
  | none => exact creates.imp (fun _ _ same => .inr (same ▸ names)) fun _ _ _ known => known
  | some id =>
    dsimp only
    cases held : seen.world.handles req.node id with
    | some attr =>
      have known : seen.Known := ⟨id, names, (going.1.sound sound).world.attached _ id _ held⟩
      dsimp only
      split
      · exact Goes.pure fun _ _ _ absent => by cases absent
      · exact Goes.pure fun _ _ same _ => same ▸ known
    | none =>
      cases found : (seen.world.userSessions id).filter UserSession.adoptable with
      | some r =>
        have isRow := (filter_eq_some_iff.mp found).1
        dsimp only
        split
        · exact Goes.pure fun _ _ _ absent => by cases absent
        · have attaches : Goes req origin start (· = seen)
              (onWorld fun w => w.setHandle req.node id (some none)) fun _ => Known := by
            have known : (seen.world.userSessions id).isSome = true := by
              rw [isRow]
              rfl
            exact Goes.onWorld (fun _ _ same => .attached id (same ▸ known)) fun _ _ same =>
              ⟨id, same ▸ names, same ▸ known⟩
          exact attaches.bind fun _ => Goes.pure fun _ _ known _ => known
      | none =>
        dsimp only
        split
        · exact Goes.pure fun _ _ _ absent => by cases absent
        · next noUser =>
          refine creates.imp (fun _ _ same => .inl ?_) fun _ _ _ known => known
          rw [same]
          simpa [Entries.authUserId] using noUser

theorem handleForRequest_goes (status : Fault) :
    Goes req origin start pre (handleForRequest req status) fun _ => Known := by
  refine (resolveHandle_goes sound).bind fun refusal => ?_
  rcases refusal with _ | _ | _
  · exact pure fun _ _ known => known rfl
  · exact throw
  · have purges : Ensures (fun ex => Going req origin start ex ∧
          ((some Refusal.endedWithAuth) = none → ex.Known))
        purge (fun _ => Trace req origin start) (Trace req origin start) :=
      Ensures.modify fun ex here => here.1.1.tail .purged
    exact purges.bind fun _ => Ensures.throw fun _ trace => trace

theorem handleForLogin_goes : Goes req origin start pre (handleForLogin req) fun _ => Known := by
  refine (resolveHandle_goes sound).bind fun refusal => ?_
  cases refusal with
  | none => exact pure fun _ _ known => known rfl
  | some refusal =>
    refine clear_goes.bind fun _ => createHandle_goes.imp (fun _ _ empty => .inl ?_)
      fun _ _ _ known => known
    rw [empty]
    rfl

variable (id : UserSessionId) (userInfo info : AuthStateUserInfo)

theorem setUserInfo_goes :
    Goes req origin start pre (setUserInfo req info) fun attr ex => attr = true →
        ex.world.Attributed ex.session info.id := by
  unfold setUserInfo
  refine Goes.get fun seen going _ => ?_
  cases names : seen.session.sessionId with
  | none => exact Goes.pure fun _ _ _ absent => by cases absent
  | some id =>
    dsimp only
    split
    · next held =>
      obtain ⟨r, found, isUser⟩ := (going.1.sound sound).world.handles req.node id info held
      exact Goes.pure fun _ _ same _ => same ▸ ⟨id, r, names, found, isUser⟩
    · cases found : (seen.world.userSessions id).filter fun r =>
          r.userId = none || r.userId = some info.id with
      | none => exact Goes.pure fun _ _ _ absent => by cases absent
      | some r =>
        obtain ⟨isRow, free⟩ := filter_eq_some_iff.mp found
        have attributes : Goes req origin start (· = seen) (onWorld fun w =>
              (w.setUserSession id { r with userId := some info.id }).setHandle
                req.node id (some (some info)))
            fun _ ex => ex.world.Attributed ex.session info.id := by
          refine Goes.onWorld
            (fun _ _ same => .attributed id r info (same ▸ isRow) (by simpa using free))
            fun _ _ same => ⟨id, { r with userId := some info.id }, same ▸ names, ?_, rfl⟩
          simp [setUserSession, setHandle]
        exact attributes.bind fun _ => Goes.pure fun _ _ attr _ => attr

omit sound in
theorem endLogin_goes : Goes req origin start pre (endLogin req) fun _ _ => True := by
  unfold endLogin
  refine Goes.get fun seen _ _ => ?_
  cases seen.session.sessionId with
  | none => exact Goes.pure fun _ _ _ => trivial
  | some id => exact Goes.onWorld (fun _ _ _ => .ended id) fun _ _ _ => trivial

theorem attributeSession_goes :
    Goes req origin start pre (attributeSession req info)
      fun _ ex => ex.world.Attributed ex.session info.id := by
  refine (handleForRequest_goes sound .internal).bind fun _ => ?_
  refine (setUserInfo_goes sound info).bind fun attr => ?_
  cases attr with
  | true => exact pure fun _ _ holds => holds rfl
  | false =>
    refine endLogin_goes.bind fun _ => clear_goes.bind fun _ => ?_
    refine (handleForRequest_goes sound .internal).bind fun _ => ?_
    refine (setUserInfo_goes sound info).bind fun attr => ?_
    cases attr with
    | true => exact pure fun _ _ holds => holds rfl
    | false => exact throw

omit sound

section Protect

variable {P} {kept : Exchange → Prop}
  (stable : ∀ exchange protection, kept exchange → kept (exchange.withProtection protection))

include stable

theorem protect_goes {prog : LoginProtection.Action Result} (perf : prog.Performs Timeless) :
    Goes req origin start kept (protect P prog) fun _ => kept := by
  refine Goes.get fun seen _ holds => ?_
  have runs : Goes req origin start (· = seen) (onWorld fun w => { w with
        protection := (prog.eval (LoginProtection.execute P.protecting) seen.world.protection).2 })
      fun _ => kept := by
    obtain ⟨clock, users⟩ := eval_timeless P.protecting perf seen.world.protection
    refine Goes.onWorld (fun ex _ same => ?_) fun ex _ same => ?_
    · subst same
      exact .guarded _ clock users
    · subst same
      exact stable ex _ holds
  exact runs.bind fun _ => Goes.pure fun _ _ holds => holds

theorem checkIpBlocked_goes (ip : Option Auth.IpAddr) :
    Goes req origin start kept (checkIpBlocked P req ip) fun _ => kept := by
  cases ip with
  | none => exact pure fun _ _ holds => holds
  | some ip =>
    refine (protect_goes stable (checkIpBlocked_timeless req.node ip)).bind fun block => ?_
    cases block with
    | none => exact throw
    | some block => exact pure fun _ _ holds => holds

theorem checkUserLocked_goes (name : String) :
    Goes req origin start kept (checkUserLocked P req name) fun _ => kept := by
  refine (protect_goes stable (checkUserLocked_timeless req.node name)).bind fun lock => ?_
  cases lock with
  | none => exact throw
  | some lock => exact pure fun _ _ holds => holds

theorem recordFailedLoginAttempt_goes (name credentialType : String) :
    Goes req origin start kept
      (recordFailedLoginAttempt P req name credentialType) fun _ => kept := by
  unfold recordFailedLoginAttempt
  cases req.remoteIp with
  | none => exact pure fun _ _ holds => holds
  | some ip =>
    exact (protect_goes stable (recordFailedAttempt_timeless req.node _)).bind fun _ =>
      pure fun _ _ holds => holds

theorem clearFailedAttempts_goes (name : String) :
    Goes req origin start kept (clearFailedAttempts P req name) fun _ => kept := by
  unfold clearFailedAttempts
  cases req.remoteIp with
  | none => exact pure fun _ _ holds => holds
  | some ip =>
    exact (protect_goes stable (clearFailedAttempts_timeless ip name)).bind fun _ =>
      pure fun _ _ holds => holds

end Protect

theorem kind_of_validateCredential {w : World} {stored : StoredCredential}
    (valid : validateCredential P w name cred = some stored) : stored.kind = recordedAs cred := by
  obtain ⟨user, -, matched⟩ := bind_eq_some_iff.mp valid
  cases cred with
  | password secret | otp code | sso prov email =>
    obtain ⟨r, -, same⟩ := map_eq_some_iff.mp matched
    cases same
    rfl

structure Submitted (attempt : Attempt) (credential : AuthCredential) (now : OffsetDateTime)
    (valid : Bool) (later : Attempt) : Prop where
  userInfo : later.state.userInfo = attempt.state.userInfo
  accepted : valid = true → Exchange.recordedAs credential = .sso → later.ssoAcceptedAt = some now
  unchanged : Exchange.recordedAs credential ≠ .sso → later.ssoAcceptedAt = attempt.ssoAcceptedAt

theorem Submitted.userInfo_of_accepted {later : Attempt} {now : OffsetDateTime}
    {valid : Bool} {info : AuthStateUserInfo} (submitted : Submitted att cred now valid later)
    (accepted : later.state.verify = .accepted info) : info = att.state.userInfo :=
  ((later.state.verify_eq_accepted_iff info).mp accepted).2.2.2.symm.trans submitted.userInfo

theorem submitted_submitted (att : Attempt) (cred : AuthCredential)
    (validated : Option StoredCredential) (now : OffsetDateTime) :
    Submitted att cred now validated.isSome (att.submitted cred validated now) where
  userInfo := by
    cases validated with
    | none => rfl
    | some stored => exact AuthState.userInfo_of_about (AuthState.about_maybeUpdate _)
  accepted := by
    intro valid isSso
    obtain ⟨stored, rfl⟩ := isSome_iff_exists.mp valid
    cases cred with
    | sso prov email => rfl
    | password secret | otp code => cases isSso
  unchanged := by
    intro notSso
    cases cred with
    | sso prov email => exact absurd rfl notSso
    | password secret | otp code => rfl

theorem submitCredential_goes (cred : AuthCredential) :
    Goes req (some att) start (fun ex => ex.world.attempts req.node id = some att)
      (submitCredential P req id cred) fun res ex =>
        Submitted att cred ex.world.clock res.1 res.2 := by
  unfold submitCredential
  refine Goes.get fun seen _ held => ?_
  rw [held]
  have checked : ∀ now, Submitted att cred now false att := fun now =>
    { userInfo := rfl
      accepted := fun absent => by cases absent
      unchanged := fun _ => rfl }
  have begins : Goes req (some att) start (· = seen) (checkIpBlocked P req att.state.remoteIp)
      fun _ ex => ex.world.attempts req.node id = some att :=
    (checkIpBlocked_goes (fun _ _ isHeld => isHeld) _).imp (fun _ _ same => same ▸ held)
      fun _ _ _ isHeld => isHeld
  refine begins.bind fun blocked => ?_
  cases blocked with
  | true => exact Goes.pure fun _ _ _ => checked _
  | false =>
    have goesOn : Goes req (some att) start (fun ex => ex.world.attempts req.node id = some att)
        (checkUserLocked P req att.state.userInfo.username)
        fun _ ex => ex.world.attempts req.node id = some att :=
      checkUserLocked_goes (fun _ _ isHeld => isHeld) _
    refine goesOn.bind fun locked => ?_
    cases locked with
    | true => exact Goes.pure fun _ _ _ => checked _
    | false =>
      refine Goes.get fun seen _ held => ?_
      have submits : Goes req (some att) start (· = seen) (onWorld fun w => w.setAttempt req.node id
            (some (att.submitted cred (validateCredential P seen.world
              att.state.userInfo.username cred) seen.world.clock)))
          fun _ ex => ex.world.clock = seen.world.clock :=
        Goes.onWorld (fun _ _ same => .submitted id att rfl cred _ _ (same ▸ held)
          fun stored valid => kind_of_validateCredential P valid) fun _ _ same => same ▸ rfl
      refine submits.bind fun _ => Goes.pure fun ex _ sameClock => ?_
      rw [sameClock]
      exact submitted_submitted att cred _ _

variable (sound : start.Sound)

include sound

theorem authorizeSession_ensures (ssoAcceptedAt : Option OffsetDateTime) :
    Ensures (fun ex => Going req origin start ex ∧ pre ex) (authorizeSession req info ssoAcceptedAt)
      (fun _ ex => ∃ seen, Going req origin start seen ∧
        seen.world.Attributed seen.session info.id ∧ ex = { seen with
          session := seen.session.authorized info ssoAcceptedAt seen.world.clock })
      (Trace req origin start) := by
  refine (attributeSession_goes sound info).bind fun _ => Ensures.read fun seen here => ?_
  refine Ensures.modify fun ex same => ⟨seen, here.1, here.2, ?_⟩
  rw [same, if_neg (by rw [here.1.2]; exact Bool.false_ne_true)]

theorem submitAndFinalize_goes (notSso : recordedAs cred ≠ .sso)
    (otherRoute : req.route.isSso = false) (credentialType : String) :
    Goes req (some att) start (fun ex => ex.world.attempts req.node id = some att)
      (submitAndFinalize P req id cred credentialType) fun _ _ => True := by
  refine (submitCredential_goes P id cred).bind fun res => ?_
  obtain ⟨valid, later⟩ := res
  dsimp only
  cases valid with
  | false =>
    have records : Goes req (some att) start
        (fun ex => Submitted att cred ex.world.clock false later)
        (recordFailedLoginAttempt P req later.state.userInfo.username credentialType)
        fun _ _ => True :=
      (recordFailedLoginAttempt_goes (fun _ _ _ => trivial) _ _).imp (fun _ _ _ => trivial)
        fun _ _ _ _ => trivial
    exact records.bind fun _ => pure fun _ _ _ => trivial
  | true =>
    cases verdict : later.state.verify with
    | need ks | rejected => exact pure fun _ _ _ => trivial
    | accepted info =>
      refine known (fun _ _ submitted =>
        And.intro (submitted.userInfo_of_accepted verdict) (submitted.unchanged notSso))
        fun same => ?_
      have authorizes : Goes req (some att) start
          (fun ex => Submitted att cred ex.world.clock true later)
          (authorizeSession req info later.ssoAcceptedAt) fun _ _ => True := by
        rw [same.1, same.2]
        refine (authorizeSession_ensures sound _ _).imp (fun _ here => here) (fun _ ex ends => ?_)
          fun _ trace => trace
        obtain ⟨seen, going, attr, rfl⟩ := ends
        exact ⟨going.step (.authorized att rfl otherRoute attr) rfl, trivial⟩
      refine authorizes.bind fun _ => ?_
      have clears : Goes req (some att) start (fun _ => True)
          (clearFailedAttempts P req info.username) fun _ _ => True :=
        clearFailedAttempts_goes (fun _ _ _ => trivial) _
      exact clears.bind fun _ => pure fun _ _ _ => trivial

omit sound in
theorem rejectedCredentialFailure_goes (name : String) :
    Goes req origin start pre (rejectedCredentialFailure P req name) fun _ _ => True := by
  have trivially : ∀ (ex : Exchange) (prot : LoginProtection.World),
      True → True := fun _ _ _ => trivial
  refine ((checkIpBlocked_goes trivially req.remoteIp).imp (fun _ _ _ => trivial)
    fun _ _ _ holds => holds).bind fun blocked => ?_
  exact (recordFailedLoginAttempt_goes trivially name "sso").bind fun _ =>
    pure fun _ _ _ => trivial

theorem submitSso_goes (isSso : req.route.isSso = true) (context : SsoContext)
    (response : SsoResponse) (name email : String) (id : UserSessionId) :
    Goes req (some att) start (fun ex => ex.world.attempts req.node id = some att)
      (submitSso P req context response name email id) fun _ _ => True := by
  refine (checkIpBlocked_goes (fun _ _ held => held) req.remoteIp).bind fun blocked => ?_
  cases blocked with
  | true => exact Goes.pure fun _ _ _ => trivial
  | false =>
    refine (submitCredential_goes P id _).bind fun res => ?_
    obtain ⟨valid, later⟩ := res
    cases valid with
    | false => exact Ensures.map (rejectedCredentialFailure_goes P name)
    | true =>
      refine Goes.known (fun ex going submitted =>
        And.intro submitted.userInfo ((submitted.accepted rfl rfl).trans
          (congrArg some going.1.clock_eq))) fun known => ?_
      obtain ⟨sameUser, acceptedAt⟩ := known
      let s : SsoLoginState := ⟨response.idToken, context.provider,
        context.supportsSingleLogout, some response.subject, response.sid⟩
      have remembers : Goes req (some att) start
          (fun ex => Submitted att (.sso context.provider email) ex.world.clock true later)
          (onSession fun entries =>
            { entries with ssoLoginState := some ⟨s, later.state.userInfo.id⟩ })
          fun _ ex => Submitted att (.sso context.provider email) ex.world.clock true later := by
        rw [sameUser]
        exact Goes.onSession (fun _ _ _ => .remembered att s rfl isSso)
          fun _ _ submitted => submitted
      refine remembers.bind fun _ => ?_
      cases verdict : later.state.verify with
      | need ks | rejected => exact Goes.pure fun _ _ _ => trivial
      | accepted info =>
        refine Goes.known (fun _ _ submitted => submitted.userInfo_of_accepted verdict)
          fun isUser => ?_
        subst isUser
        refine (authorizeSession_ensures sound _ _).bind fun _ => Ensures.read fun ex ends => ?_
        obtain ⟨seen, going, attr, rfl⟩ := ends
        have stamps : Ensures (· = { seen with
              session := seen.session.authorized att.state.userInfo later.ssoAcceptedAt
                seen.world.clock })
            (onSession fun entries => entries.stamped s att.state.userInfo seen.world.clock)
            (fun _ ex => Going req (some att) start ex ∧ True)
            (Trace req (some att) start) := by
          refine Ensures.modify fun ex same => ?_
          subst same
          rw [if_neg (by rw [going.2]; exact Bool.false_ne_true), acceptedAt, ← going.1.clock_eq]
          exact ⟨going.step (.ssoAuthorized att s rfl isSso attr) rfl, trivial⟩
        refine stamps.bind fun _ => ?_
        exact (clearFailedAttempts_goes (fun _ _ _ => trivial) name).bind fun _ =>
          Goes.pure fun _ _ _ => trivial

end

/-! ### Attempts that are found -/

section

variable (primitives P : Primitives) {request req : Request} {world w : World}
  {before pre : Exchange → Prop}

structure Found (request : Request) (world : World)
    (result : Except LoginError UserSessionId) (exchange : Exchange) : Prop where
  missing : ∀ error, result = .error error →
    Going request none (world.begin request) exchange
  found : ∀ id, result = .ok id → ∃ attempt, world.WorksOn primitives request attempt ∧
    Going request (some attempt) (world.begin request) exchange ∧
      exchange.world.attempts request.node id = some attempt

variable {exchange ex : Exchange} {username : String}

theorem Found.error {P : Primitives} {error : LoginError}
    (going : Going req none (w.begin req) ex) : Found P req w (.error error) ex where
  missing := fun _ _ => going
  found := fun _ absent => by cases absent

theorem Found.ok {P : Primitives} {id : UserSessionId} (works : w.WorksOn P req att)
    (going : Going req (some att) (w.begin req) ex)
    (held : ex.world.attempts req.node id = some att) : Found P req w (.ok id) ex where
  missing := fun _ absent => by cases absent
  found := fun _ same => by
    cases same
    exact ⟨att, works, going, held⟩

theorem unknownUser_finds (name : String) (credentialType : Option String) :
    Ensures (fun ex => Going req none (w.begin req) ex ∧ True)
      (unknownUser P req name credentialType) (Found P req w) (Trace req none (w.begin req)) := by
  have missing : Ensures (fun ex => Going req none (w.begin req) ex ∧ True)
      (pure (.error .userNotFound) : Handler (Except LoginError UserSessionId))
      (Found P req w) (Trace req none (w.begin req)) :=
    Ensures.pure fun _ here => Found.error here.1
  cases credentialType with
  | none => exact missing
  | some credentialType =>
    exact (recordFailedLoginAttempt_goes (fun _ _ _ => trivial) name credentialType).bind
      fun _ => missing

theorem createAuthState_finds (named : w.loginName req = some name) (id : UserSessionId)
    (credentialType : Option String) :
    Ensures (fun ex => Going req none (w.begin req) ex ∧ (ex.world.userSessions id).isSome = true)
      (createAuthState P req id name credentialType)
      (Found P req w) (Trace req none (w.begin req)) := by
  refine Ensures.read fun seen here => ?_
  obtain ⟨going, known⟩ := here
  have users : seen.world.protection.users = w.protection.users := going.1.users_eq
  have unknown := (unknownUser_finds P name credentialType).imp
    (fun _ (same : _ = seen) => And.intro (same ▸ going) trivial) (fun _ _ found => found)
    fun _ trace => trace
  cases found : seen.world.protection.users.rows.find? fun user =>
      usernameEqCi P user.username name with
  | none => exact unknown
  | some user =>
    dsimp only
    split
    · exact Ensures.pure fun _ same => by
        subst same
        exact Found.error going
    · cases findUser P seen.world name with
      | none => exact unknown
      | some model =>
        rintro ex rfl
        let s := AuthState.new id req.remoteIp user .http ""
          (ex.world.accounts model.id).policy ex.world.clock ""
        have isUser : s.userInfo = user := congrArg (·.2.1)
          (AuthState.about_new id req.remoteIp user .http ""
            (ex.world.accounts model.id).policy ex.world.clock "")
        have works : w.WorksOn P req ⟨s, none⟩ := by
          refine .fresh named ?_ (by simp [s, AuthState.new]) rfl
          rw [isUser, ← users]
          exact found
        have started := (going.1.toSome ⟨s, none⟩).tail (.started id ⟨s, none⟩ rfl known rfl)
        exact Found.ok works ⟨started, going.2⟩ (by simp [setAttempt, s])

theorem getAuthState_goes {start : Exchange} :
    Goes req origin start pre (getAuthState req) fun found ex =>
      ∀ id att, found = some (id, att) → ex.session.sessionId = some id ∧
        ex.world.attempts req.node id = some att := by
  refine Goes.get fun seen _ _ => Goes.pure fun ex _ same id att found => ?_
  subst same
  obtain ⟨id', names, found⟩ := bind_eq_some_iff.mp found
  obtain ⟨attempt', held, same⟩ := map_eq_some_iff.mp found
  cases same
  exact ⟨names, held⟩

variable (sound : (world.begin request).Sound)

include sound

omit sound in
theorem logsIn_of_loginName (named : w.loginName req = some name) : req.route.logsIn = true := by
  unfold loginName at named
  split at named
  · next isRoute => rw [isRoute]; rfl
  · next isRoute => rw [isRoute]; rfl
  · cases named

theorem getOrCreateAuthState_finds (named : world.loginName request = some username)
    (credentialType : Option String) :
    Ensures (fun exchange => Going request none (world.begin request) exchange ∧ before exchange)
      (getOrCreateAuthState P request username credentialType)
      (Found P request world) (Trace request none (world.begin request)) := by
  refine getAuthState_goes.bind fun current => ?_
  cases found : current.filter fun found => found.2.reusable P username with
  | some kept =>
    obtain ⟨id, attempt⟩ := kept
    obtain ⟨isCurrent, reusable⟩ := filter_eq_some_iff.mp found
    refine Ensures.pure fun exchange here => ?_
    obtain ⟨going, holds⟩ := here
    obtain ⟨names, held⟩ := holds id attempt isCurrent
    obtain ⟨named', held'⟩ := going.1.held_before sound names held
    refine Found.ok (.current (logsIn_of_loginName named) named' held' fun other isNamed => ?_)
      ⟨going.1.toSome attempt, going.2⟩ held
    rw [named] at isNamed
    cases isNamed
    exact reusable
  | none =>
    refine (handleForLogin_goes sound).bind fun _ => Ensures.read fun seen here => ?_
    obtain ⟨going, id, names, known⟩ := here
    rw [names]
    exact (createAuthState_finds P named id credentialType).imp
      (fun _ same => same ▸ ⟨going, known⟩) (fun _ _ found => found) fun _ trace => trace

end

end

/-! ### What is served -/

section

variable {P : Primitives} {request req : Request} {world w : World} {before pre : Exchange → Prop}
  (sound : (w.begin req).Sound)

def World.Served (primitives : Primitives) (world : World) (request : Request)
    (exchange : Exchange) : Prop :=
  ∃ origin : Option Attempt,
    (∀ attempt, origin = some attempt → world.WorksOn primitives request attempt) ∧
      Exchange.Trace request origin (world.begin request) exchange

variable {exchange ex : Exchange} {hdl : Handler Result}

theorem World.Served.of_none (trace : Trace req none (w.begin req) ex) : w.Served P req ex := by
  refine ⟨none, fun att absent => ?_, trace⟩
  cases absent

theorem World.Served.of_some (works : w.WorksOn P req att)
    (trace : Trace req (some att) (w.begin req) ex) : w.Served P req ex := by
  refine ⟨some att, fun other same => ?_, trace⟩
  cases same
  exact works

abbrev World.Serves (primitives : Primitives) (world : World) (request : Request)
    (before : Exchange → Prop) {Result : Type} (handler : Handler Result) : Prop :=
  Ensures (fun exchange => Going request none (world.begin request) exchange ∧ before exchange)
    handler (fun _ => world.Served primitives request) (world.Served primitives request)

open Goes

theorem Goes.serves {post : Result → Exchange → Prop}
    (goes : Goes req none (w.begin req) pre hdl post) : w.Serves P req pre hdl :=
  Ensures.imp goes (fun _ here => here) (fun _ _ here => .of_none here.1.1)
    fun _ trace => .of_none trace

theorem World.serves_pure (res : Result) : w.Serves P req pre (Pure.pure res : Handler Result) :=
  Ensures.pure fun _ here => .of_none here.1.1

theorem World.serves_throw (fault : Fault) : w.Serves P req pre (throw fault : Handler Result) :=
  Ensures.throw fun _ here => .of_none here.1.1

theorem World.serves_read {next : Exchange → Handler Result}
    (goesOn : ∀ seen, Going req none (w.begin req) seen → pre seen →
      w.Serves P req pre (next seen)) : w.Serves P req pre (MonadState.get >>= next) :=
  Ensures.read fun seen here => (goesOn seen here.1 here.2).imp (fun _ same => same ▸ here)
    (fun _ _ served => served) fun _ served => served

theorem Goes.andThen {First : Type} {first : Handler First} {next : First → Handler Result}
    {between : First → Exchange → Prop} (goes : Goes req none (w.begin req) pre first between)
    (goesOn : ∀ res, w.Serves P req (between res) (next res)) :
    w.Serves P req pre (first >>= next) :=
  (Ensures.weaken goes fun _ trace => Served.of_none trace).bind goesOn

theorem serves_of_found {id : UserSessionId}
    (goes : ∀ att, Goes req (some att) (w.begin req)
      (fun ex => ex.world.attempts req.node id = some att) hdl fun _ _ => True) :
    Ensures (Found P req w (.ok id)) hdl (fun _ => w.Served P req) (w.Served P req) := by
  intro ex found
  obtain ⟨att, works, going, held⟩ := found.found id rfl
  exact Ensures.imp (goes att) (fun _ here => here)
    (fun _ _ here => .of_some works here.1.1) (fun _ trace => .of_some works trace) ex ⟨going, held⟩

include sound

theorem getOrCreateAuthState_serves
    (named : w.loginName req = some name) (credentialType : Option String)
    {next : Except LoginError UserSessionId → Handler Result}
    (fails : ∀ error, w.Serves P req (fun _ => True) (next (.error error)))
    (goes : ∀ id att, Goes req (some att) (w.begin req)
      (fun ex => ex.world.attempts req.node id = some att) (next (.ok id)) fun _ _ => True) :
    w.Serves P req pre (getOrCreateAuthState P req name credentialType >>= next) := by
  refine ((getOrCreateAuthState_finds P sound named credentialType).weaken
    fun _ trace => Served.of_none trace).bind fun res => ?_
  cases res with
  | error error =>
    exact (fails error).imp (fun _ found => ⟨found.missing error rfl, trivial⟩)
      (fun _ _ served => served) fun _ served => served
  | ok id => exact serves_of_found (goes id)

theorem serveLogin_serves {pw : String} (isRoute : req.route = .login name pw) :
    w.Serves P req (fun _ => True) (serveLogin P req name pw) := by
  have named : w.loginName req = some name := by simp only [loginName, isRoute]
  have otherRoute : req.route.isSso = false := by
    rw [isRoute]
    rfl
  have trivially : ∀ (ex : Exchange) (prot : LoginProtection.World),
      True → True := fun _ _ _ => trivial
  refine andThen (checkIpBlocked_goes trivially req.remoteIp) fun blocked => ?_
  cases blocked with
  | true => exact serves_pure _
  | false =>
    refine serves_read fun seen _ _ => ?_
    split
    · exact andThen (recordFailedLoginAttempt_goes trivially name "password") fun _ =>
        serves_pure _
    · refine andThen (checkUserLocked_goes trivially name) fun locked => ?_
      cases locked with
      | true => exact serves_pure _
      | false =>
        refine getOrCreateAuthState_serves sound named (some "password") (fun error => ?_)
          fun id att => submitAndFinalize_goes P sound id
            (by simp [recordedAs]) otherRoute "password"
        cases error with
        | userNotFound | ipAddrNotAllowed =>
          exact andThen (handleForLogin_goes sound) fun _ => serves_pure _

theorem serveOtpLogin_serves {code : String} (isRoute : req.route = .otp code) :
    w.Serves P req (fun _ => True) (serveOtpLogin P req code) := by
  have unnamed : w.loginName req = none := by
    simp only [loginName, isRoute]
  have otherRoute : req.route.isSso = false := by
    rw [isRoute]
    rfl
  have trivially : ∀ (ex : Exchange) (prot : LoginProtection.World),
      True → True := fun _ _ _ => trivial
  refine andThen (checkIpBlocked_goes trivially req.remoteIp) fun blocked => ?_
  cases blocked with
  | true => exact serves_pure _
  | false =>
    refine andThen getAuthState_goes fun cur => ?_
    cases cur with
    | none => exact serves_pure _
    | some found =>
      obtain ⟨id, att⟩ := found
      rintro ex ⟨going, holds⟩
      obtain ⟨names, held⟩ := holds id att rfl
      obtain ⟨named', held'⟩ := going.1.held_before sound names held
      have works : w.WorksOn P req att :=
        .current (by rw [isRoute]; rfl) named' held' fun name named => by
          rw [unnamed] at named
          cases named
      have goes : Goes req (some att) (w.begin req)
          (fun ex => ex.world.attempts req.node id = some att) (do
            if ← checkUserLocked P req att.state.userInfo.username then
              pure (.failure .userLocked false)
            else submitAndFinalize P req id (.otp code) "otp") fun _ _ => True := by
        refine (checkUserLocked_goes (fun _ _ held => held) _).bind fun locked => ?_
        cases locked with
        | true => exact pure fun _ _ _ => trivial
        | false =>
          exact submitAndFinalize_goes P sound id (by simp [recordedAs])
            otherRoute "otp"
      exact Ensures.imp goes (fun _ here => here) (fun _ _ here => .of_some works here.1.1)
        (fun _ trace => .of_some works trace) ex ⟨⟨going.1.toSome att, going.2⟩, held⟩

theorem serveSsoReturn_serves {answer : SsoReturn} (isRoute : req.route = .ssoReturn answer) :
    w.Serves P req (fun _ => True) (serveSsoReturn P req answer) := by
  have isSso : req.route.isSso = true := by
    rw [isRoute]
    rfl
  refine andThen (handleForLogin_goes sound) fun _ => ?_
  cases hasContext : answer.context with
  | none => exact serves_pure _
  | some context =>
    cases hasResponse : answer.response with
    | none =>
      dsimp only
      split
      · exact serves_pure _
      · exact serves_throw _
    | some response =>
      dsimp only
      split
      · exact serves_pure _
      · cases hasEmail : response.email with
        | none => exact serves_pure _
        | some email =>
          refine serves_read fun seen going _ => ?_
          split
          · exact serves_pure _
          · cases isNamed : usernameForSsoCredential seen.world context.provider email with
            | none => exact andThen (handleForLogin_goes sound) fun _ => serves_pure _
            | some name =>
              have named : w.loginName req = some name := by
                simp only [loginName, isRoute, hasContext, hasResponse, hasEmail, bind_some]
                rw [← isNamed, usernameForSsoCredential, usernameForSsoCredential,
                  going.1.ssoCredentials_eq, going.1.users_eq]
                rfl
              refine getOrCreateAuthState_serves sound named none (fun error => ?_) fun id att => ?_
              · cases error with
                | userNotFound => exact serves_throw _
                | ipAddrNotAllowed =>
                  exact andThen (handleForLogin_goes sound) fun _ => serves_pure _
              · refine (submitSso_goes P sound isSso context response name email
                  id).bind fun error => ?_
                split
                · exact pure fun _ _ _ => trivial
                · exact throw

omit sound

section Gates

variable {start : Exchange}

theorem presentTicket_goes (ticket : TicketPresentation) :
    Goes req origin start pre (presentTicket ticket) fun _ _ => True := by
  refine Goes.get fun seen _ _ => ?_
  split
  · exact Goes.pure fun _ _ _ => trivial
  · cases ticket.authorization with
    | none => exact Goes.pure fun _ _ _ => trivial
    | some authorization =>
      obtain ⟨info, tgt, tid⟩ := authorization
      have tickets : Goes req origin start (· = seen) (onSession fun entries =>
            { entries with auth := some (.ticket info tgt tid) }) fun _ _ => True :=
        Goes.onSession (fun _ _ _ => .ticketed info tgt tid) fun _ _ _ => trivial
      exact tickets.bind fun _ => Goes.pure fun _ _ _ => trivial

theorem callTicketMiddleware_goes :
    Goes req origin start pre (callTicketMiddleware req) fun _ _ => True := by
  unfold callTicketMiddleware
  cases req.ticket with
  | none => exact pure fun _ _ _ => trivial
  | some ticket => exact presentTicket_goes ticket

theorem assertMfaSetupGate_goes (auth : SessionAuthorization) :
    Goes req origin start (fun ex => ex.session.auth = some auth)
      (assertMfaSetupGate req auth) fun _ _ => True := by
  unfold assertMfaSetupGate
  split
  · exact Goes.pure fun _ _ _ => trivial
  · cases auth with
    | ticket info tgt tid => exact Goes.pure fun _ _ _ => trivial
    | user info =>
      refine Goes.get fun seen _ claims => ?_
      split
      · exact Goes.pure fun _ _ _ => trivial
      · split
        · exact Goes.pure fun _ _ _ => trivial
        · split
          · exact Goes.throw
          · next unneeded =>
            refine Goes.onSession (fun ex _ same => ?_) fun _ _ _ => trivial
            subst same
            exact .enrolled info claims (by simpa using unneeded)

theorem injectRequestAuthorization_goes :
    Goes req origin start pre (injectRequestAuthorization req) fun _ _ => True := by
  refine get fun seen _ _ => ?_
  cases claims : seen.session.auth with
  | none => exact pure fun _ _ _ => trivial
  | some auth =>
    dsimp only
    split
    · exact clear_goes.bind fun _ => pure fun _ _ _ => trivial
    · split
      · exact pure fun _ _ _ => trivial
      · have gates : Goes req origin start (· = seen) (assertMfaSetupGate req auth)
            fun _ _ => True :=
          (assertMfaSetupGate_goes auth).imp (fun _ _ same => same ▸ claims)
            fun _ _ _ holds => holds
        exact gates.bind fun _ => pure fun _ _ _ => trivial

theorem innerAuth_goes (auth : Option SessionAuthorization) :
    Goes req origin start pre (innerAuth req auth) fun _ _ => True := by
  cases auth with
  | none => exact pure fun _ _ _ => trivial
  | some auth =>
    refine get fun seen _ _ => ?_
    split
    · exact endLogin_goes.bind fun _ => clear_goes.bind fun _ => pure fun _ _ _ => trivial
    · exact pure fun _ _ _ => trivial

theorem createOtp_goes (secretKey : List UInt8) (info : AuthStateUserInfo) :
    Goes req origin start pre (createOtp secretKey info) fun _ _ => True := by
  refine Goes.get fun seen _ _ => ?_
  split
  · exact Goes.pure fun _ _ _ => trivial
  · split
    · exact Goes.pure fun _ _ _ => trivial
    · let cred : OtpCredential := ⟨seen.world.uuids 0, info.id, secretKey⟩
      have draws : Goes req origin start (· = seen)
          (onWorld fun w => { w with uuids := fun i => w.uuids (i + 1) })
          fun _ ex => ex.world.otpCredentials = seen.world.otpCredentials :=
        Goes.onWorld (fun _ _ _ => .drew _) fun _ _ same => same ▸ rfl
      refine draws.bind fun _ => ?_
      split
      · have creates : Goes req origin start
            (fun ex => ex.world.otpCredentials = seen.world.otpCredentials)
            (onWorld fun w => { w with
              otpCredentials := (seen.world.otpCredentials.insert cred).2 })
            fun _ _ => True := by
          refine Goes.onWorld (fun ex _ same => ?_) fun _ _ _ => trivial
          rw [← same]
          exact .otpCreated cred
        exact creates.bind fun _ => Goes.pure fun _ _ _ => trivial
      · exact Goes.throw

theorem deleteOtp_goes (id : Uuid) (info : AuthStateUserInfo) :
    Goes req origin start pre (deleteOtp id info) fun _ _ => True := by
  refine Goes.get fun seen _ _ => ?_
  dsimp only
  split
  · exact Goes.pure fun _ _ _ => trivial
  · split
    · exact Goes.pure fun _ _ _ => trivial
    · split
      · exact Goes.pure fun _ _ _ => trivial
      · next kept =>
        have spared : seen.world.effectiveMfaEnforcement info.id = .off ∨
            1 < (seen.world.otpCredentials.select fun r => r.userId = info.id).length := by
          simp only [Bool.and_eq_true, decide_eq_true_eq, not_and, not_le] at kept
          by_cases off : seen.world.effectiveMfaEnforcement info.id = .off
          · exact .inl off
          · exact .inr (kept off)
        have deletes : Goes req origin start (· = seen) (onWorld fun w => { w with
              otpCredentials := w.otpCredentials.delete fun r =>
                r.userId = info.id && r.id = id }) fun _ _ => True := by
          refine Goes.onWorld (fun ex _ same => ?_) fun _ _ _ => trivial
          subst same
          exact .otpDeleted id info.id spared
        exact deletes.bind fun _ => Goes.pure fun _ _ _ => trivial

end Gates

theorem purge_serves :
    Ensures (fun ex => Going req none (w.begin req) ex ∧ pre ex)
      purge (fun _ => w.Served P req) (w.Served P req) :=
  Ensures.modify fun _ here => .of_none (here.1.1.tail .purged)

theorem logout_serves : w.Serves P req pre (logout req) := by
  refine serves_read fun seen _ _ => ?_
  split
  · exact serves_pure _
  · exact andThen endLogin_goes fun _ =>
      purge_serves.bind fun _ => Ensures.pure fun _ served => served

theorem endpointAuth_serves (auth : Option SessionAuthorization)
    {endpoint : AuthStateUserInfo → Handler Response}
    (goes : ∀ info, Goes req none (w.begin req) (fun _ => True) (endpoint info) fun _ _ => True) :
    w.Serves P req pre (endpointAuth req auth endpoint) := by
  refine andThen (innerAuth_goes auth) fun auth => ?_
  rcases auth with _ | info | ⟨info, tgt, tid⟩
  · exact serves_throw _
  · exact (goes info).serves
  · exact serves_pure _

include sound

theorem stampTargetSessionIdentity_goes (info : AuthStateUserInfo) :
    Goes req none (w.begin req) pre (stampTargetSessionIdentity req info) fun _ _ => True := by
  refine get fun seen _ _ => ?_
  rcases seen.session.sessionId.bind (seen.world.handles req.node) with _ | _ | attr
  · exact throw
  · refine (setUserInfo_goes sound info).bind fun attr => ?_
    cases attr with
    | true => exact pure fun _ _ _ => trivial
    | false => exact throw
  · dsimp only
    split
    · exact pure fun _ _ _ => trivial
    · exact throw

theorem catchall_serves (auth : SessionAuthorization) (hasTarget : Bool) :
    w.Serves P req pre (catchall req auth hasTarget) := by
  unfold catchall
  cases hasTarget with
  | false => exact serves_pure _
  | true =>
    refine andThen (handleForRequest_goes sound .unauthorized) fun _ => ?_
    refine andThen (stampTargetSessionIdentity_goes sound auth.userInfo) fun _ => ?_
    refine serves_read fun seen _ _ => ?_
    split
    · exact purge_serves.bind fun _ => Ensures.throw fun _ served => served
    · exact serves_pure _

theorem serveRoute_serves (auth : Option SessionAuthorization) :
    w.Serves P req (fun _ => True) (serveRoute P req auth) := by
  unfold serveRoute
  cases isRoute : req.route with
  | login name pw => exact Ensures.map (serveLogin_serves sound isRoute)
  | otp code => exact Ensures.map (serveOtpLogin_serves sound isRoute)
  | ssoReturn answer => exact Ensures.map (serveSsoReturn_serves sound isRoute)
  | logout => exact logout_serves
  | page hasTarget =>
    refine andThen (innerAuth_goes auth) fun auth => ?_
    cases auth with
    | none => exact serves_pure _
    | some auth => exact catchall_serves sound auth hasTarget
  | api => exact endpointAuth_serves auth fun _ => pure fun _ _ _ => trivial
  | createOtp secretKey => exact endpointAuth_serves auth fun _ => createOtp_goes secretKey _
  | deleteOtp id =>
    refine serves_read fun seen _ _ => ?_
    split
    · exact serves_pure _
    · exact endpointAuth_serves auth fun _ => deleteOtp_goes id _

theorem serveRequest_serves : w.Serves P req (fun _ => True) (serveRequest P req) := by
  refine andThen callTicketMiddleware_goes fun redirected => ?_
  cases redirected with
  | true => exact serves_pure _
  | false =>
    exact andThen injectRequestAuthorization_goes fun auth => serveRoute_serves sound auth

theorem serve_cases : (w.serve P req).2 = w ∨ ∃ ex, w.Served P req ex ∧
      ((w.serve P req).2 = ex.stored req.browser ∨ (w.serve P req).2 = ex.world) := by
  unfold serve
  split
  · have serves : w.Serves P req (fun _ => True) (serveRequest P req) := serveRequest_serves sound
    have served := serves (w.begin req) ⟨⟨.refl, rfl⟩, trivial⟩
    cases ended : (serveRequest P req).run (w.begin req) with
    | ok response ex =>
      rw [ended] at served
      exact .inr ⟨ex, served, .inl rfl⟩
    | error fault ex =>
      rw [ended] at served
      exact .inr ⟨ex, served, .inr rfl⟩
  · exact .inl rfl

end

end Warpgate.Browser
