/-
This file is about whole runs of a browser, and about step-up in them.
-/

import Warpgate.Browser.Requests
import Warpgate.LoginProtection.Lockout

namespace Warpgate.Browser

open Auth (AuthStateUserInfo AuthState)
open Approvals (ApprovalDecision)

inductive Decision
  | commitBypass
  | deliver (target : String) (userId : Uuid) (decision : ApprovalDecision)
  | reject

def Decision.call : Decision → Auth.Call
  | commitBypass => .commitBypass
  | deliver target userId decision => .deliver target userId decision
  | reject => .reject

/-! ### Runs -/

inductive Change
  | protect (statement : LoginProtection.Statement)
  | administer (users : Sql.Table AuthStateUserInfo AuthStateUserInfo.id)
      (accounts : Uuid → Account)
      (passwordCredentials : Sql.Table PasswordCredential PasswordCredential.id)
  | createOtpCredential (credential : OtpCredential)
  | deleteOtpCredential (id : Uuid)
  | createSsoCredential (credential : SsoCredential)
  | updateSsoCredential (id : Uuid) (email : String) (provider : Option String)
  | deleteSsoCredential (id : Uuid)
  | updateParameters (parameters : Parameters)
  | configure (config : Config)
  | openSession (id : UserSessionId) (row : UserSession)
  | endSession (id : UserSessionId)
  | forget (browser : BrowserId)
  | dropHandle (node : NodeId) (id : UserSessionId)
  | dropAttempt (node : NodeId) (id : UserSessionId)
  | decide (node : NodeId) (id : UserSessionId) (decision : Decision)

inductive Event
  | request (request : Request)
  | change (change : Change)

variable {P : Primitives} {req : Request}

namespace World

def decide (world : World) (node : NodeId) (id : UserSessionId) (decision : Decision) : World :=
  match world.attempts node id with
  | none => world
  | some attempt =>
    world.setAttempt node id
      (some { attempt with state := (attempt.state.handle decision.call).2 })

def openSession (world : World) (id : UserSessionId) (row : UserSession) : World :=
  match world.userSessions id with
  | none => world.setUserSession id row
  | some _ => world

section Step

variable (primitives : Primitives)

def apply (world : World) : Change → World
  | .protect statement =>
    { world with
      protection := (LoginProtection.execute primitives.protecting statement world.protection).2 }
  | .administer users accounts passwordCredentials =>
    { world with
      protection := { world.protection with users := users }
      accounts := accounts
      passwordCredentials := passwordCredentials }
  | .createOtpCredential credential =>
    { world with otpCredentials := (world.otpCredentials.insert credential).2 }
  | .deleteOtpCredential id =>
    { world with otpCredentials := world.otpCredentials.delete fun row => row.id = id }
  | .createSsoCredential credential =>
    { world with ssoCredentials := (world.ssoCredentials.insert credential).2 }
  | .updateSsoCredential id email provider =>
    { world with
      ssoCredentials := world.ssoCredentials.update (fun row => row.id = id)
        (fun row => { row with email := email, provider := provider }) fun _ => rfl }
  | .deleteSsoCredential id =>
    { world with ssoCredentials := world.ssoCredentials.delete fun row => row.id = id }
  | .updateParameters parameters => { world with parameters := parameters }
  | .configure config => { world with config := config }
  | .openSession id row => world.openSession id row
  | .endSession id => world.endSession id
  | .forget browser => world.setBrowser browser .empty
  | .dropHandle node id => world.setHandle node id none
  | .dropAttempt node id => world.setAttempt node id none
  | .decide node id decision => world.decide node id decision

def step (world : World) : Event → World
  | .request request => (world.serve primitives request).2
  | .change change => world.apply primitives change

abbrev run (world : World) (events : List Event) : World :=
  Handlers.run (step primitives) world events

abbrev Along (condition : World → Event → Prop) (world : World) (events : List Event) : Prop :=
  Handlers.Along (step primitives) condition world events

end Step

structure Initial (world : World) : Prop where
  browsers : ∀ browser, world.browsers browser = .empty
  handles : ∀ node id, world.handles node id = none
  attempts : ∀ node id, world.attempts node id = none

variable {w : World} {ex : Exchange}

theorem Initial.sound (initial : w.Initial) : w.Sound where
  handles := by
    intro node id info held
    rw [initial.handles] at held
    cases held
  attached := by
    intro node id handle held
    rw [initial.handles] at held
    cases held
  attempted := by
    intro node id att held
    rw [initial.attempts] at held
    cases held
  browsers := by
    intro br
    rw [initial.browsers]
    exact Entries.sound_empty w

@[simp] theorem browsers_setBrowser_self (w : World) (br : BrowserId)
    (entries : Entries) : (w.setBrowser br entries).browsers br = entries :=
  Function.update_self ..

theorem browsers_setBrowser_of_ne (w : World) {br other : BrowserId}
    (ne : other ≠ br) (entries : Entries) :
    (w.setBrowser br entries).browsers other = w.browsers other :=
  Function.update_of_ne ne ..

theorem Sound.begin (sound : w.Sound) (req : Request) : (w.begin req).Sound :=
  ⟨sound, sound.browsers req.browser⟩

theorem Sound.setBrowser (sound : w.Sound) (br : BrowserId) {entries : Entries}
    (soundEntries : entries.Sound w) : (w.setBrowser br entries).Sound where
  handles := sound.handles
  attached := sound.attached
  attempted := sound.attempted
  browsers := by
    intro other
    by_cases same : other = br
    · subst same
      rw [browsers_setBrowser_self]
      exact soundEntries.grow (.of_eq rfl)
    · rw [browsers_setBrowser_of_ne w same]
      exact (sound.browsers other).grow (.of_eq rfl)

theorem Sound.stored (sound : ex.Sound) (br : BrowserId) : (ex.stored br).Sound := by
  refine sound.world.setBrowser br ?_
  split
  · exact Entries.sound_empty _
  · exact sound.session

theorem Sound.serve (sound : w.Sound) (req : Request) : (w.serve P req).2.Sound := by
  rcases serve_cases (sound.begin req) with same | ⟨ex, ⟨origin, -, trace⟩, ends⟩
  · rw [same]
    exact sound
  · have soundExchange := trace.sound (sound.begin req)
    rcases ends with stored | unstored
    · rw [stored]
      exact Sound.stored soundExchange req.browser
    · rw [unstored]
      exact soundExchange.world

theorem Sound.apply (sound : w.Sound) (change : Change) : (w.apply P change).Sound := by
  have unrelated : ∀ {post : World}, post.userSessions = w.userSessions →
      post.browsers = w.browsers → post.handles = w.handles →
      post.attempts = w.attempts → post.Sound := fun rows browsers handles atts =>
    sound.grow (.of_eq rows) browsers (fun _ _ _ held => .inl (handles ▸ held))
      fun _ _ att held => .inl ⟨att, atts ▸ held⟩
  cases change with
  | openSession id r =>
    show (w.openSession id r).Sound
    unfold World.openSession
    split
    · next free =>
      refine sound.grow (w.grows_setUserSession id r fun prev user was _ => ?_) rfl
        (fun _ _ _ held => .inl held) fun _ _ att held => .inl ⟨att, held⟩
      rw [free] at was
      cases was
    · exact sound
  | endSession id =>
    obtain ⟨userSessions, same⟩ := Exchange.endSession_eq w id
    have grows := w.grows_endSession id
    show (w.endSession id).Sound
    rw [same] at grows ⊢
    exact sound.grow grows rfl (fun _ _ _ held => .inl held) fun _ _ att held => .inl ⟨att, held⟩
  | forget br => exact sound.setBrowser br (Entries.sound_empty w)
  | dropHandle node id =>
    refine sound.grow (.of_eq rfl) rfl (fun otherNode otherId handle held => ?_)
      fun _ _ att held => .inl ⟨att, held⟩
    exact .inl ((w.handles_setHandle node id held).resolve_right fun isNew => by cases isNew.2)
  | dropAttempt node id =>
    refine sound.grow (.of_eq rfl) rfl (fun _ _ _ held => .inl held)
      fun otherNode otherId att held => .inl ⟨att, ?_⟩
    exact (w.attempts_setAttempt node id held).resolve_right fun isNew => by cases isNew.2
  | decide node id dec =>
    show (w.decide node id dec).Sound
    unfold World.decide
    split
    · exact sound
    · next att held =>
      refine sound.grow (.of_eq rfl) rfl (fun _ _ _ held => .inl held)
        fun otherNode otherId other isHeld => ?_
      rcases w.attempts_setAttempt node id isHeld with prev | ⟨same, -⟩
      · exact .inl ⟨other, prev⟩
      · exact .inr (same ▸ sound.attempted node id att held)
  | _ => exact unrelated rfl rfl rfl rfl

theorem Sound.step (sound : w.Sound) (ev : Event) : (w.step P ev).Sound := by
  cases ev with
  | request req => exact sound.serve req
  | change change => exact sound.apply change

theorem Served.browsers_eq (served : w.Served P req ex) : ex.world.browsers = w.browsers := by
  obtain ⟨origin, -, trace⟩ := served
  exact congrArg (·.2.2.2.2.2) trace.fixed_eq

theorem browsers_apply (w : World) (change : Change) (br : BrowserId) :
    (w.apply P change).browsers br = w.browsers br ∨ (w.apply P change).browsers br = .empty := by
  cases change with
  | openSession id r =>
    refine .inl ?_
    show (w.openSession id r).browsers br = _
    unfold World.openSession
    split
    · rfl
    · rfl
  | endSession id =>
    refine .inl ?_
    obtain ⟨userSessions, same⟩ := Exchange.endSession_eq w id
    show (w.endSession id).browsers br = _
    rw [same]
  | forget other =>
    by_cases same : br = other
    · subst same
      exact .inr (browsers_setBrowser_self w br _)
    · exact .inl (browsers_setBrowser_of_ne w same _)
  | decide node id dec =>
    refine .inl ?_
    show (w.decide node id dec).browsers br = _
    unfold World.decide
    split
    · rfl
    · rfl
  | _ => exact .inl rfl

theorem browsers_step (sound : w.Sound) (ev : Event) (br : BrowserId) :
    (w.step P ev).browsers br = w.browsers br ∨ (w.step P ev).browsers br = .empty ∨
      ∃ req ex, ev = .request req ∧ br = req.browser ∧ w.Served P req ex ∧
        (w.step P ev).browsers br = ex.session := by
  cases ev with
  | change change =>
    rcases w.browsers_apply change br with same | empty
    · exact .inl same
    · exact .inr (.inl empty)
  | request req =>
    have outcome : (w.serve P req).2 = w ∨ _ := serve_cases (sound.begin req)
    rcases outcome with same | ⟨ex, served, stored | unstored⟩
    · exact .inl (congrArg (·.browsers br) same)
    · have browsers := served.browsers_eq
      by_cases own : br = req.browser
      · have entries : (w.step P (.request req)).browsers br =
            if ex.purged then .empty else ex.session := by
          show (w.serve P req).2.browsers br = _
          rw [stored, own]
          exact browsers_setBrowser_self ex.world req.browser _
        cases isPurged : ex.purged with
        | true => exact .inr (.inl (by simpa [isPurged] using entries))
        | false => grind
      · refine .inl ?_
        show (w.serve P req).2.browsers br = _
        rw [stored, Exchange.stored, browsers_setBrowser_of_ne _ own, browsers]
    · refine .inl ?_
      show (w.serve P req).2.browsers br = _
      rw [unstored, served.browsers_eq]

end World

def plainPrimitives : Primitives where
  protecting := LoginProtection.plainPrimitives
  verifyPassword := fun password hash => password = hash
  verifyTotp := fun code secret _ => Auth.asBytes code = secret
  fingerprint := fun _ => 0
  ssoBytes := fun _ => []

def twoUsers : World where
  protection := { LoginProtection.quietWorld with
    users := ⟨[⟨1, "alice"⟩, ⟨2, "bob"⟩], by decide⟩ }
  accounts := fun user =>
    ⟨none, if user = 1 then .all {.sso, .password} {.sso, .password}
      else .anySingle {.sso, .password}⟩
  passwordCredentials := ⟨[⟨11, 1, "alice's"⟩, ⟨12, 2, "bob's"⟩], by decide⟩
  otpCredentials := .empty
  ssoCredentials := ⟨[⟨21, 1, "alice@idp", none⟩, ⟨22, 2, "bob@idp", none⟩], by decide⟩
  parameters := ⟨.off, false, .enabled, true⟩
  config := ⟨[⟨"idp", false⟩], some (LoginProtection.seconds 3600)⟩
  userSessions := fun _ => none
  handles := fun _ _ => none
  attempts := fun _ _ => none
  browsers := fun _ => .empty
  uuids := fun index => BitVec.ofNat 128 (100 + index)

theorem twoUsers_initial : twoUsers.Initial := ⟨fun _ => rfl, fun _ _ => rfl, fun _ _ => rfl⟩

def posts (path : String) (route : Route) : Event :=
  .request
    { browser := 0, node := 0, remoteIp := some (.v4 7), method := .post, path := path
      hostRejected := false, cookieIgnored := false, ticket := none, route := route }

def logsIn (username password : String) : Event :=
  posts "/@warpgate/api/auth/login" (.login username password)

def returnsWith (email : String) : Event :=
  posts "/@warpgate/api/sso/return"
    (.ssoReturn ⟨some ⟨"idp", false, true⟩,
      some ⟨"token", "subject", none, some email, none⟩, true⟩)

def asksForPage : Request where
  browser := 0
  node := 0
  remoteIp := some (.v4 7)
  method := .get
  path := "/"
  hostRejected := false
  cookieIgnored := false
  ticket := none
  route := .page true

/-! ### Marks of one user -/

def Entries.markWriters (entries : Entries) : List Uuid :=
  entries.writers ++ (entries.ssoLoginState.map Mark.writer).toList

def World.MarksOfOneUser (world : World) : Prop :=
  ∀ browser userInfo, (world.browsers browser).auth = some (.user userInfo) →
    ∀ writer ∈ (world.browsers browser).markWriters, writer = userInfo.id

def World.OneUserAtATime (primitives : Primitives) (world : World) : Event → Prop
  | .change _ => True
  | .request request =>
    ∀ attempt, world.WorksOn primitives request attempt →
      (∀ userInfo, (world.browsers request.browser).auth = some (.user userInfo) →
        request.route.isSso = true → attempt.state.userInfo.id = userInfo.id) ∧
      ∀ mark, (world.browsers request.browser).ssoLoginState = some mark →
        (∀ userInfo, (world.browsers request.browser).auth ≠ some (.user userInfo)) →
          attempt.state.userInfo.id = mark.writer

def Entries.Remembers (entries : Entries) : Prop :=
  ∀ userInfo mark, entries.auth = some (.user userInfo) → entries.ssoLoginState = some mark →
    mark.writer = userInfo.id

namespace Exchange

structure KeepsMarks (exchange : Exchange) (request : Request) (origin : Option Attempt) :
    Prop where
  remembers : exchange.session.Remembers
  returned : ∀ attempt userInfo, origin = some attempt → request.route.isSso = true →
    exchange.session.auth = some (.user userInfo) → attempt.state.userInfo.id = userInfo.id
  carried : ∀ attempt mark, origin = some attempt →
    exchange.session.ssoLoginState = some mark →
      mark.writer = attempt.state.userInfo.id ∨
        exchange.session.auth.isSome = true ∧
          exchange.world.Attributed exchange.session mark.writer

variable {origin : Option Attempt} {pre post : Exchange}

theorem KeepsMarks.grow (keeps : pre.KeepsMarks req origin)
    (sess : post.session = pre.session) (grows : pre.world.Grows post.world) :
    post.KeepsMarks req origin where
  remembers := by
    rw [sess]
    exact keeps.remembers
  returned := by
    rw [sess]
    exact keeps.returned
  carried := by
    rw [sess]
    intro att mark works isMark
    rcases keeps.carried att mark works isMark with own | ⟨claimed, attr⟩
    · exact .inl own
    · exact .inr ⟨claimed, grows.attributed attr⟩

theorem keepsMarks_of_empty (empty : post.session = .empty) : post.KeepsMarks req origin where
  remembers := by
    rw [empty]
    intro info mark claims
    cases claims
  returned := by
    rw [empty]
    intro att info works isSso claims
    cases claims
  carried := by
    rw [empty]
    intro att mark works isMark
    cases isMark

theorem Step.keepsMarks (step : Step req origin pre post)
    (keeps : pre.KeepsMarks req origin) : post.KeepsMarks req origin := by
  have grows := step.grows
  cases step with
  | created id free unclaimed =>
    refine ⟨keeps.remembers, keeps.returned, fun att mark works isMark => ?_⟩
    refine .inl ((keeps.carried att mark works isMark).resolve_right ?_)
    rintro ⟨claimed, _, _, names, _⟩
    rcases unclaimed with noAuth | noSession
    · rw [noAuth] at claimed
      cases claimed
    · rw [noSession] at names
      cases names
  | cleared | purged => exact keepsMarks_of_empty rfl
  | authorized att works other attr =>
    have own : ∀ mark, pre.session.ssoLoginState = some mark →
        mark.writer = att.state.userInfo.id := fun mark isMark =>
      (keeps.carried att mark works isMark).elim id fun carried => carried.2.unique attr
    refine ⟨?_, ?_, ?_⟩
    · intro info mark claims isMark
      cases claims
      exact own mark isMark
    · grind
    · intro attempt' mark works' isMark
      rw [works] at works'
      cases works'
      exact .inl (own mark isMark)
  | ssoAuthorized att s works sso attr =>
    refine ⟨?_, ?_, ?_⟩
    · intro info mark claims isMark
      cases claims
      cases isMark
      rfl
    · intro attempt' info works' _ claims
      rw [works] at works'
      cases works'
      cases claims
      rfl
    · intro attempt' mark works' isMark
      rw [works] at works'
      cases works'
      cases isMark
      exact .inl rfl
  | remembered att s works sso =>
    refine ⟨?_, keeps.returned, ?_⟩
    · intro info mark claims isMark
      cases isMark
      exact keeps.returned att info works sso claims
    · intro attempt' mark works' isMark
      rw [works] at works'
      cases works'
      cases isMark
      exact .inl rfl
  | ticketed info tgt tid =>
    refine ⟨?_, ?_, fun att mark works isMark => ?_⟩
    · intro other mark claims
      cases claims
    · intro att other works isSso claims
      cases claims
    · rcases keeps.carried att mark works isMark with own | ⟨_, attr⟩
      · exact .inl own
      · exact .inr ⟨rfl, attr⟩
  | enrolled info claims unneeded => exact ⟨keeps.remembers, keeps.returned, keeps.carried⟩
  | _ => exact keeps.grow rfl grows

theorem Trace.keepsMarks (trace : Trace req origin pre post)
    (keeps : pre.KeepsMarks req origin) : post.KeepsMarks req origin :=
  trace.keeps (·.KeepsMarks req origin) (fun _ _ step => step.keepsMarks) keeps

end Exchange

variable {w : World}

namespace World

structure Remembers (world : World) : Prop where
  sound : world.Sound
  browsers : ∀ browser, (world.browsers browser).Remembers

theorem Remembers.marksOfOneUser (remembers : w.Remembers) : w.MarksOfOneUser := by
  intro br info claims writer isWriter
  rcases List.mem_append.mp isWriter with marked | isMark
  · exact ((remembers.sound.browsers br).marked writer marked).2.unique
      ((remembers.sound.browsers br).claimed info claims)
  · obtain ⟨mark, found, rfl⟩ := Option.map_eq_some_iff.mp (Option.mem_toList.mp isMark)
    exact remembers.browsers br info mark claims found

theorem Remembers.begin (remembers : w.Remembers)
    (oneUser : w.OneUserAtATime P (.request req)) {origin : Option Attempt}
    (works : ∀ att, origin = some att → w.WorksOn P req att) :
    (w.begin req).KeepsMarks req origin where
  remembers := remembers.browsers req.browser
  returned := by
    intro att info isOrigin isSso claims
    exact (oneUser att (works att isOrigin)).1 info claims isSso
  carried := by
    intro att mark isOrigin isMark
    by_cases claimed : ∃ info, (w.browsers req.browser).auth = some (.user info)
    · obtain ⟨info, claims⟩ := claimed
      have isUser := remembers.browsers req.browser info mark claims isMark
      refine .inr ⟨?_, ?_⟩
      · show (w.browsers req.browser).auth.isSome = true
        rw [claims]
        rfl
      · rw [isUser]
        exact (remembers.sound.browsers req.browser).claimed info claims
    · refine .inl ((oneUser att (works att isOrigin)).2 mark isMark ?_).symm
      exact fun info claims => claimed ⟨info, claims⟩

theorem Remembers.step (remembers : w.Remembers) (ev : Event) (oneUser : w.OneUserAtATime P ev) :
    (w.step P ev).Remembers := by
  refine ⟨remembers.sound.step ev, fun br => ?_⟩
  have outcome : (w.step P ev).browsers br = w.browsers br ∨ _ :=
    browsers_step remembers.sound ev br
  rcases outcome with same | empty | ⟨req, ex, rfl, rfl, ⟨origin, works, trace⟩, stored⟩
  · rw [same]
    exact remembers.browsers br
  · rw [empty]
    intro info mark claims
    cases claims
  · rw [stored]
    exact (trace.keepsMarks (remembers.begin oneUser works)).remembers

theorem Initial.remembers (initial : w.Initial) : w.Remembers := by
  refine ⟨initial.sound, fun br => ?_⟩
  rw [initial.browsers]
  intro info mark claims
  cases claims

/-- In every run in which sessions are used by one user at a time, the marks of a session with a
user are of logins of that user. -/
theorem marks_of_one_user (primitives : Primitives) (world : World) (initial : world.Initial)
    (events : List Event)
    (along : world.Along primitives (World.OneUserAtATime primitives) events) :
    (world.run primitives events).MarksOfOneUser := by
  have remembers :=
    Handlers.Along.keeps (fun _ ev remembers oneUser => remembers.step ev oneUser) along
      initial.remembers
  exact remembers.marksOfOneUser

theorem bobs_marks : (twoUsers.run plainPrimitives
    [returnsWith "bob@idp", logsIn "bob" "bob's"]).MarksOfOneUser := by
  refine marks_of_one_user plainPrimitives twoUsers twoUsers_initial _ ⟨?_, ?_, trivial⟩
  · intro att _
    refine ⟨fun info claims => ?_, fun mark isMark => ?_⟩
    · cases claims
    · cases isMark
  · intro att _
    refine ⟨fun info _ isSso => ?_, fun mark _ unclaimed => ?_⟩
    · cases isSso
    · have claims : ((twoUsers.step plainPrimitives (returnsWith "bob@idp")).browsers 0).auth =
          some (.user ⟨2, "bob"⟩) := by
        decide +kernel
      exact absurd claims (unclaimed _)

theorem sso_login_state_of_another :
    ¬(twoUsers.run plainPrimitives
      [returnsWith "alice@idp", logsIn "bob" "bob's"]).MarksOfOneUser := by
  intro marks
  have isWriter : (1 : Uuid) ∈ ((twoUsers.run plainPrimitives
      [returnsWith "alice@idp", logsIn "bob" "bob's"]).browsers 0).markWriters := by
    decide +kernel
  have claims : ((twoUsers.run plainPrimitives
      [returnsWith "alice@idp", logsIn "bob" "bob's"]).browsers 0).auth =
        some (.user ⟨2, "bob"⟩) := by
    decide +kernel
  exact absurd (marks 0 ⟨2, "bob"⟩ claims 1 isWriter) (by decide)

end World

open World Entries Exchange
open Auth (StoredCredential StoredCredentialKind ValidCredential isFresh fitsTimeDuration)
open Http (isSessionBootstrapPath)

section

/-! ### Enrolment -/

def World.passesMfaSetupGate (world : World) (request : Request) (userInfo : AuthStateUserInfo) :
    Bool :=
  match (assertMfaSetupGate request (.user userInfo)).run (world.begin request) with
  | .ok _ _ => true
  | .error _ _ => false

def World.SparesEnrolled (primitives : Primitives) (world : World) : Event → Prop
  | .request _ => True
  | .change change =>
    ∀ browser mark, (world.browsers browser).mfaGatePassed = some mark →
      (world.apply primitives change).mfaSetupRequired mark.writer = false

theorem World.mfaSetupRequired_eq_false_iff (w : World) (user : Uuid) :
    w.mfaSetupRequired user = false ↔
      w.effectiveMfaEnforcement user = .off ∨ w.hasOtpCredential user = true := by
  unfold mfaSetupRequired
  split
  · next off => simp [off]
  · next enforced => simp [enforced]

theorem exists_other_of_two {table : Sql.Table OtpCredential OtpCredential.id} {user : Uuid}
    (two : 1 < (table.select fun r => r.userId = user).length) (id : Uuid) :
    ∃ r ∈ table.rows, r.userId = user ∧ r.id ≠ id := by
  by_contra absent
  have all : ∀ r ∈ table.select (fun r => r.userId = user), r.id = id := by
    intro r isIn
    rw [Sql.Table.mem_select] at isIn
    by_contra ne
    exact absent ⟨r, isIn.1, by simpa using isIn.2, ne⟩
  have distinct : ((table.select fun r => r.userId = user).map OtpCredential.id).Nodup :=
    (List.filter_sublist.map OtpCredential.id).nodup table.distinct
  have same : (table.select fun r => r.userId = user).map OtpCredential.id =
      List.replicate (table.select fun r => r.userId = user).length id := by
    rw [List.eq_replicate_iff]
    refine ⟨by simp, fun other isIn => ?_⟩
    obtain ⟨r, isRow, rfl⟩ := List.mem_map.mp isIn
    exact all r isRow
  rw [same, List.nodup_replicate] at distinct
  omega

theorem World.hasOtpCredential_iff (w : World) (user : Uuid) :
    w.hasOtpCredential user = true ↔ ∃ r ∈ w.otpCredentials.rows, r.userId = user := by
  simp [hasOtpCredential]

variable {request : Request} {origin : Option Attempt} {pre post : Exchange}

theorem Exchange.Step.spares (step : Step req origin pre post) (user : Uuid)
    (enrolled : pre.world.mfaSetupRequired user = false) :
    post.world.mfaSetupRequired user = false := by
  cases step with
  | otpCreated cred =>
    rw [mfaSetupRequired_eq_false_iff, hasOtpCredential_iff] at enrolled ⊢
    rcases enrolled with off | ⟨r, isIn, isUser⟩
    · exact .inl off
    · exact .inr ⟨r, Sql.Table.mem_insert_of_mem isIn, isUser⟩
  | otpDeleted id owner spared =>
    rw [mfaSetupRequired_eq_false_iff, hasOtpCredential_iff] at enrolled ⊢
    have stays : ∀ r ∈ pre.world.otpCredentials.rows, r.userId ≠ owner ∨ r.id ≠ id →
        r ∈ (pre.world.otpCredentials.delete fun r => r.userId = owner && r.id = id).rows := by
      intro r isIn other
      refine List.mem_filter.mpr ⟨isIn, ?_⟩
      rcases other with other | other
      · simp [other]
      · simp [other]
    rcases enrolled with off | ⟨r, isIn, isUser⟩
    · exact .inl off
    · by_cases own : user = owner
      · subst own
        rcases spared with off | two
        · exact .inl off
        · obtain ⟨r, isIn, isUser, ne⟩ := exists_other_of_two two id
          exact .inr ⟨r, stays r isIn (.inr ne), isUser⟩
      · exact .inr ⟨r, stays r isIn (.inl (isUser ▸ own)), isUser⟩
  | ended id =>
    obtain ⟨userSessions, same⟩ := endSession_eq pre.world id
    rw [same]
    exact enrolled
  | _ => exact enrolled

def Entries.Enrolled (world : World) (entries : Entries) : Prop :=
  ∀ mark, entries.mfaGatePassed = some mark → world.mfaSetupRequired mark.writer = false

theorem Entries.enrolled_empty (w : World) : empty.Enrolled w := by
  intro mark isMark
  cases isMark

theorem Exchange.Step.keepsEnrolled (step : Step req origin pre post)
    (enrolled : pre.session.Enrolled pre.world) : post.session.Enrolled post.world := by
  have spares := step.spares
  cases step with
  | cleared | purged => exact enrolled_empty _
  | enrolled info claims unneeded =>
    intro mark isMark
    cases isMark
    exact unneeded
  | _ => exact fun mark isMark => spares mark.writer (enrolled mark isMark)

namespace World

structure Enrolled (world : World) : Prop where
  sound : world.Sound
  browsers : ∀ browser, (world.browsers browser).Enrolled world

theorem Initial.enrolled (initial : w.Initial) : w.Enrolled := by
  refine ⟨initial.sound, fun br => ?_⟩
  rw [initial.browsers]
  exact enrolled_empty w

theorem Enrolled.serve (enrolled : w.Enrolled) (req : Request) : (w.serve P req).2.Enrolled := by
  refine ⟨enrolled.sound.serve req, ?_⟩
  have outcome : (w.serve P req).2 = w ∨ _ := serve_cases (enrolled.sound.begin req)
  rcases outcome with same | ⟨ex, served, ends⟩
  · rw [same]
    exact enrolled.browsers
  · have browsers := served.browsers_eq
    obtain ⟨origin, works, trace⟩ := served
    have others : ∀ br, (ex.world.browsers br).Enrolled ex.world := by
      intro br mark isMark
      rw [browsers] at isMark
      exact trace.keeps (·.world.mfaSetupRequired mark.writer = false)
        (fun _ _ step => step.spares mark.writer) (enrolled.browsers br mark isMark)
    have own := trace.keeps (fun ex => ex.session.Enrolled ex.world)
        (fun _ _ step => step.keepsEnrolled) (enrolled.browsers req.browser)
    rcases ends with stored | unstored
    · rw [stored]
      intro br
      by_cases same : br = req.browser
      · subst same
        rw [Exchange.stored, browsers_setBrowser_self]
        split
        · exact enrolled_empty _
        · exact own
      · rw [Exchange.stored, browsers_setBrowser_of_ne _ same]
        exact others br
    · rw [unstored]
      exact others

theorem Enrolled.step (enrolled : w.Enrolled) (ev : Event)
    (spares : w.SparesEnrolled P ev) : (w.step P ev).Enrolled := by
  cases ev with
  | request req => exact enrolled.serve req
  | change change =>
    refine ⟨enrolled.sound.apply change, fun br => ?_⟩
    show ((w.apply P change).browsers br).Enrolled _
    have outcome : (w.apply P change).browsers br = w.browsers br ∨ _ := w.browsers_apply change br
    rcases outcome with same | empty
    · rw [same]
      exact spares br
    · rw [empty]
      exact enrolled_empty _

theorem Enrolled.passes (enrolled : w.Enrolled) {info : AuthStateUserInfo}
    (claims : (w.browsers req.browser).auth = some (.user info))
    (guarded : isSessionBootstrapPath req.method req.path = false)
    (passes : w.passesMfaSetupGate req info = true) : w.mfaSetupRequired info.id = false := by
  by_contra required
  have isRequired : w.mfaSetupRequired info.id = true := by simpa using required
  have enforced : w.parameters.mfaEnforcement ≠ .off := by
    intro off
    simp [mfaSetupRequired, effectiveMfaEnforcement, off] at isRequired
  have unmarked : (w.browsers req.browser).mfaGatePassed.map Mark.value ≠ some true := by
    intro marked
    obtain ⟨mark, isMark, -⟩ := Option.map_eq_some_iff.mp marked
    have isWriter : mark.writer ∈ (w.browsers req.browser).writers := by
      simp [writers, isMark]
    have sound := enrolled.sound.browsers req.browser
    have same := (sound.marked mark.writer isWriter).2.unique (sound.claimed info claims)
    exact required (same ▸ enrolled.browsers req.browser mark isMark)
  have refused : (assertMfaSetupGate req (.user info)).run (w.begin req) =
      .error .mfaSetupRequired (w.begin req) := by
    simp only [assertMfaSetupGate, guarded, Bool.false_eq_true, if_false, EStateM.run_bind,
      EStateM.run_get, begin, if_neg enforced, if_neg unmarked, if_pos isRequired]
    rfl
  rw [passesMfaSetupGate, refused] at passes
  cases passes

/-- In every run in which no administrator makes a user enrol again whom a session was let through
for, the gate lets users through only if they need not enrol. -/
theorem enrolment_is_enforced (primitives : Primitives) (world : World) (initial : world.Initial)
    (events : List Event) (along : world.Along primitives (World.SparesEnrolled primitives) events)
    (request : Request) (userInfo : AuthStateUserInfo)
    (claims : ((world.run primitives events).browsers request.browser).auth =
      some (.user userInfo))
    (guarded : isSessionBootstrapPath request.method request.path = false)
    (passes : (world.run primitives events).passesMfaSetupGate request userInfo = true) :
    (world.run primitives events).mfaSetupRequired userInfo.id = false := by
  have enrolled := Handlers.Along.keeps (fun _ ev enrolled spares => enrolled.step ev spares) along
      initial.enrolled
  exact enrolled.passes claims guarded passes

def enforcing (exempt : Bool) : Event :=
  .change (.updateParameters ⟨.require, exempt, .enabled, true⟩)

theorem browsers_of_others {browser : BrowserId} (initial : w.Initial) {events : List Event}
    (others : w.Along P (fun _ event => ∀ request, event = .request request →
      request.browser ≠ browser) events) : (w.run P events).browsers browser = .empty := by
  have step : ∀ (world : World) (event : Event), world.Sound ∧ world.browsers browser = .empty →
      (∀ request, event = .request request → request.browser ≠ browser) →
      (world.step P event).Sound ∧ (world.step P event).browsers browser = .empty := by
    rintro world event ⟨sound, empty⟩ other
    refine ⟨sound.step event, ?_⟩
    rcases browsers_step sound event browser with same | purged | ⟨request, _, rfl, rfl, _⟩
    · exact same.trans empty
    · exact purged
    · exact absurd rfl (other request rfl)
  exact (Handlers.Along.keeps step others ⟨initial.sound, initial.browsers _⟩).2

def bobEnrolled : List Event := [enforcing true, returnsWith "bob@idp", .request asksForPage]

/-- The session of Bob, who is exempt, carries a mark when the parameters are saved once more. -/
theorem bob_stays_exempt :
    (twoUsers.run plainPrimitives (bobEnrolled ++ [enforcing true])).mfaSetupRequired 2 =
      false := by
  have marked : ∀ browser mark,
      ((twoUsers.run plainPrimitives bobEnrolled).browsers browser).mfaGatePassed = some mark →
        mark.writer = 2 := by
    intro browser mark isMark
    by_cases own : browser = 0
    · subst own
      have bobs : ((twoUsers.run plainPrimitives bobEnrolled).browsers 0).mfaGatePassed.map
        Mark.writer = some 2 := by decide +kernel
      rw [isMark] at bobs
      exact Option.some.inj bobs
    · have others : twoUsers.Along plainPrimitives (fun _ event => ∀ request,
          event = .request request → request.browser ≠ browser) bobEnrolled :=
        ⟨by rintro _ ⟨⟩, by rintro _ ⟨⟩; exact Ne.symm own, by rintro _ ⟨⟩; exact Ne.symm own,
          trivial⟩
      rw [browsers_of_others twoUsers_initial others] at isMark
      cases isMark
  refine enrolment_is_enforced plainPrimitives twoUsers twoUsers_initial
    (bobEnrolled ++ [enforcing true]) ⟨fun _ _ isMark => (by cases isMark), trivial, trivial,
      fun browser mark isMark => ?_, trivial⟩
    asksForPage ⟨2, "bob"⟩ (by decide +kernel) (by decide +kernel) (by decide +kernel)
  rw [marked browser mark isMark]
  decide +kernel

theorem enrolment_outlived :
    ((twoUsers.run plainPrimitives [enforcing true, returnsWith "bob@idp", .request asksForPage,
      enforcing false]).browsers 0).auth = some (.user ⟨2, "bob"⟩) ∧
    isSessionBootstrapPath asksForPage.method asksForPage.path = false ∧
    (twoUsers.run plainPrimitives [enforcing true, returnsWith "bob@idp", .request asksForPage,
      enforcing false]).passesMfaSetupGate asksForPage ⟨2, "bob"⟩ = true ∧
    (twoUsers.run plainPrimitives [enforcing true, returnsWith "bob@idp", .request asksForPage,
      enforcing false]).mfaSetupRequired 2 = true := by
  decide +kernel

end World

end

/-! ### Step-up -/

def World.SsoComesLast (primitives : Primitives) (world : World) : Event → Prop
  | .change _ => True
  | .request request =>
    request.route.isSso = false → ∀ attempt, world.WorksOn primitives request attempt →
      .sso ∉ attempt.state.validCredentialKinds

def Attempt.Accounts (attempt : Attempt) : Prop :=
  attempt.ssoAcceptedAt.isSome = true → .sso ∈ attempt.state.validCredentialKinds

def World.AttemptsAccount (world : World) : Prop :=
  ∀ node id attempt, world.attempts node id = some attempt → attempt.Accounts

theorem validCredentialKinds_subset {prev later : AuthState}
    (grows : prev.validCredentials <+: later.validCredentials) :
    prev.validCredentialKinds ⊆ later.validCredentialKinds := by
  intro kind isIn
  rw [AuthState.validCredentialKinds, List.mem_toFinset] at isIn ⊢
  exact (grows.map ValidCredential.kind).subset isIn

variable {att : Attempt}

theorem Attempt.Accounts.submitted (accounts : att.Accounts)
    {cred : AuthCredential} {validated : Option StoredCredential}
    (kind : ∀ stored, validated = some stored → stored.kind = recordedAs cred)
    (now : OffsetDateTime) : (att.submitted cred validated now).Accounts := by
  have kept : att.state.validCredentialKinds ⊆
      (att.submitted cred validated now).state.validCredentialKinds := by
    cases validated with
    | none => exact Finset.Subset.refl _
    | some stored =>
      exact validCredentialKinds_subset
        (att.state.validCredentials_handle (.submitCredential (.ok (some stored))))
  intro accepted
  cases cred with
  | password secret | otp code => exact kept (accounts accepted)
  | sso prov email =>
    cases validated with
    | none => exact kept (accounts accepted)
    | some stored =>
      have isSso := kind stored rfl
      simp [Attempt.submitted, AuthState.submitCredential, AuthState.validCredentialKinds,
        ValidCredential.kind, isSso, recordedAs, StoredCredentialKind.kind]

theorem Attempt.Accounts.decided (accounts : att.Accounts) (dec : Decision) :
    ({ att with state := (att.state.handle dec.call).2 } : Attempt).Accounts :=
  fun accepted => validCredentialKinds_subset
    (att.state.validCredentials_handle dec.call) (accounts accepted)

theorem World.AttemptsAccount.setAttempt (account : w.AttemptsAccount)
    (node : NodeId) (id : UserSessionId) {att : Option Attempt}
    (own : ∀ set, att = some set → set.Accounts) : (w.setAttempt node id att).AttemptsAccount := by
  intro otherNode otherId other held
  rcases w.attempts_setAttempt node id held with prev | ⟨-, isSet⟩
  · exact account otherNode otherId other prev
  · exact own other isSet

variable {origin : Option Attempt}

theorem Exchange.Step.attemptsAccount {pre post : Exchange} (step : Step req origin pre post)
    (account : pre.world.AttemptsAccount) : post.world.AttemptsAccount := by
  cases step with
  | started id att works known unaccepted =>
    refine account.setAttempt req.node id fun set isSet accepted => ?_
    cases isSet
    rw [unaccepted] at accepted
    cases accepted
  | submitted id att works cred validated now held kind =>
    refine account.setAttempt req.node id fun set isSet => ?_
    cases isSet
    exact (account req.node id att held).submitted kind now
  | ended id =>
    obtain ⟨userSessions, same⟩ := endSession_eq pre.world id
    rw [same]
    exact account
  | _ => exact account

theorem World.AttemptsAccount.step (account : w.AttemptsAccount) (sound : w.Sound) (ev : Event) :
    (w.step P ev).AttemptsAccount := by
  cases ev with
  | request req =>
    have outcome : (w.serve P req).2 = w ∨ _ := serve_cases (sound.begin req)
    show (w.serve P req).2.AttemptsAccount
    rcases outcome with same | ⟨ex, ⟨origin, works, trace⟩, ends⟩
    · rw [same]
      exact account
    · have later :=
        trace.keeps (·.world.AttemptsAccount) (fun _ _ step => step.attemptsAccount) account
      rcases ends with stored | unstored
      · rw [stored]
        exact later
      · rw [unstored]
        exact later
  | change change =>
    cases change with
    | openSession id r =>
      show (w.openSession id r).AttemptsAccount
      unfold openSession
      split
      · exact account
      · exact account
    | endSession id =>
      obtain ⟨userSessions, same⟩ := endSession_eq w id
      show (w.endSession id).AttemptsAccount
      rw [same]
      exact account
    | dropAttempt node id => exact account.setAttempt node id fun set isSet => by cases isSet
    | decide node id dec =>
      show (w.decide node id dec).AttemptsAccount
      unfold decide
      split
      · exact account
      · next att held =>
        refine account.setAttempt node id fun set isSet => ?_
        cases isSet
        exact (account node id att held).decided dec
    | _ => exact account

def Entries.Stamped (entries : Entries) : Prop :=
  ∀ userInfo accepted, entries.auth = some (.user userInfo) →
    entries.ssoAcceptedAt = some accepted →
      entries.lastSsoAt.map Mark.value = some (unixTimestamp accepted)

structure Exchange.StampedSince (exchange start : Exchange) (request : Request) : Prop where
  other : ∀ mark, request.route.isSso = false → exchange.session.lastSsoAt = some mark →
    start.session.lastSsoAt = some mark
  returned : ∀ mark, exchange.session.lastSsoAt = some mark →
    start.session.lastSsoAt = some mark ∨ exchange.session.ssoAcceptedAt.isSome = true

namespace Exchange

variable {start pre post : Exchange}

theorem Step.stamped (step : Step req origin pre post)
    (unaccepted : ∀ att, origin = some att → req.route.isSso = false → att.ssoAcceptedAt = none)
    (stamped : pre.session.Stamped) : post.session.Stamped := by
  cases step with
  | cleared | purged =>
    intro info accepted claims
    cases claims
  | authorized att works other attr =>
    intro info accepted _ isAccepted
    have absent := isAccepted
    rw [unaccepted att works other] at absent
    cases absent
  | ssoAuthorized att s works sso attr =>
    intro info accepted _ isAccepted
    cases isAccepted
    rfl
  | ticketed info tgt tid =>
    intro other accepted claims
    cases claims
  | _ => exact stamped

theorem stampedSince_of_empty (empty : post.session = .empty) : post.StampedSince start req where
  other := by
    rw [empty]
    intro mark _ isMark
    cases isMark
  returned := by
    rw [empty]
    intro mark isMark
    cases isMark

theorem Step.stampedSince (step : Step req origin pre post)
    (stamped : pre.StampedSince start req) : post.StampedSince start req := by
  cases step with
  | cleared | purged => exact stampedSince_of_empty rfl
  | authorized att works other attr =>
    exact ⟨stamped.other, fun mark isMark => .inl (stamped.other mark other isMark)⟩
  | ssoAuthorized att s works sso attr =>
    refine ⟨fun mark other => ?_, fun mark _ => .inr rfl⟩
    rw [sso] at other
    cases other
  | _ => exact ⟨stamped.other, stamped.returned⟩

end Exchange

namespace World

structure Stamps (world : World) : Prop where
  sound : world.Sound
  attempts : world.AttemptsAccount
  browsers : ∀ browser, (world.browsers browser).Stamped

theorem Initial.stamps (initial : w.Initial) : w.Stamps where
  sound := initial.sound
  attempts := by
    intro node id att held
    rw [initial.attempts] at held
    cases held
  browsers := by
    intro br info accepted claims
    rw [initial.browsers] at claims
    cases claims

theorem Stamps.unaccepted (stamps : w.Stamps)
    (last : w.SsoComesLast P (.request req))
    (works : w.WorksOn P req att) (other : req.route.isSso = false) : att.ssoAcceptedAt = none := by
  have absent := last other att works
  cases works with
  | current logsIn names held reusable =>
    have accounts := stamps.attempts req.node _ att held
    by_contra accepted
    exact absent (accounts (Option.isSome_iff_ne_none.mpr accepted))
  | fresh named found unsubmitted unaccepted => exact unaccepted

theorem Stamps.step (stamps : w.Stamps) (ev : Event)
    (last : w.SsoComesLast P ev) : (w.step P ev).Stamps := by
  refine ⟨stamps.sound.step ev, stamps.attempts.step stamps.sound ev, fun br => ?_⟩
  have outcome : (w.step P ev).browsers br = w.browsers br ∨ _ := browsers_step stamps.sound ev br
  rcases outcome with same | empty | ⟨req, ex, rfl, rfl, ⟨origin, works, trace⟩, stored⟩
  · rw [same]
    exact stamps.browsers br
  · rw [empty]
    intro info accepted claims
    cases claims
  · rw [stored]
    exact trace.keeps (·.session.Stamped) (fun _ _ step => step.stamped
      fun att isOrigin => stamps.unaccepted last (works att isOrigin)) (stamps.browsers req.browser)

theorem lastSsoAt_step (sound : w.Sound) (ev : Event) (br : BrowserId) {mark : Mark Int}
    (isMark : ((w.step P ev).browsers br).lastSsoAt = some mark)
    (unaccepted : ((w.step P ev).browsers br).ssoAcceptedAt = none) :
    (w.browsers br).lastSsoAt = some mark := by
  have outcome : (w.step P ev).browsers br = w.browsers br ∨ _ := browsers_step sound ev br
  rcases outcome with same | empty | ⟨req, ex, rfl, rfl, ⟨origin, works, trace⟩, stored⟩
  · rw [same] at isMark
    exact isMark
  · rw [empty] at isMark
    cases isMark
  · have since := trace.keeps (·.StampedSince (w.begin req) req)
        (fun _ _ step => step.stampedSince) ⟨fun _ _ isMark => isMark, fun _ isMark => .inl isMark⟩
    rw [stored] at isMark unaccepted
    refine (since.returned mark isMark).resolve_right fun accepted => ?_
    rw [unaccepted] at accepted
    cases accepted

theorem innerAuth_of_fresh (req : Request) (info : AuthStateUserInfo) {ex : Exchange}
    (fresh : ex.session.stepUpStale (.user info) ex.world.config.stepUpInterval
      ex.world.clock = false) :
    (innerAuth req (some (.user info))).run ex = .ok (some (.user info)) ex := by
  simp only [innerAuth, EStateM.run_bind, EStateM.run_get, fresh]
  rfl

/-- In every run in which the return from the identity provider is the last step of the logins it is
part of, requests are let through in a session with a user whose login accepted an SSO credential,
for the interval from the second in which that was, if a `time::Duration` can hold it. -/
theorem sso_login_is_fresh (primitives : Primitives) (world : World) (initial : world.Initial)
    (events : List Event) :
    (world.Along primitives (World.SsoComesLast primitives) events →
      ∀ request userInfo accepted interval,
        ((world.run primitives events).browsers request.browser).auth = some (.user userInfo) →
        ((world.run primitives events).browsers request.browser).ssoAcceptedAt = some accepted →
        (world.run primitives events).config.stepUpInterval = some interval →
        fitsTimeDuration interval = true →
        (world.run primitives events).clock - accepted < interval →
        (world.run primitives events).clock - fromUnixTimestamp (unixTimestamp accepted) ≤
          interval →
        (innerAuth request (some (.user userInfo))).run
            ((world.run primitives events).begin request) =
          .ok (some (.user userInfo)) ((world.run primitives events).begin request)) ∧
    ∀ event browser userInfo interval now,
      (((world.run primitives events).step primitives event).browsers browser).ssoAcceptedAt =
        none →
      (((world.run primitives events).step primitives event).browsers browser).stepUpStale
        (.user userInfo) interval now = false →
      ((world.run primitives events).browsers browser).stepUpStale (.user userInfo) interval now =
        false := by
  constructor
  · intro along request userInfo accepted interval claims isAccepted isSet fits _ recent
    have stamps := Handlers.Along.keeps (fun _ event stamps last => stamps.step event last) along
        initial.stamps
    have stamped := stamps.browsers request.browser userInfo accepted claims isAccepted
    obtain ⟨mark, isMark, isValue⟩ := Option.map_eq_some_iff.mp stamped
    refine innerAuth_of_fresh request userInfo ?_
    show ((world.run primitives events).browsers request.browser).stepUpStale _
      (world.run primitives events).config.stepUpInterval
        (world.run primitives events).clock = false
    rw [stepUpStale, isSet, isMark, Option.map_some, isValue]
    simpa [isSessionStepUpStale, isFresh, fits] using recent
  · intro event browser userInfo interval now unaccepted fresh
    have sound : (world.run primitives events).Sound :=
      Handlers.run_keeps (fun _ event sound => sound.step event) events initial.sound
    cases interval with
    | none => rfl
    | some interval =>
      cases isMark : (((world.run primitives events).step primitives event).browsers
          browser).lastSsoAt with
      | none =>
        rw [stepUpStale, isMark] at fresh
        cases fresh
      | some mark => grind [stepUpStale, lastSsoAt_step]

/-- The password comes first and the return from the identity provider completes the login. -/
theorem alice_is_let_through :
    let reached := twoUsers.run plainPrimitives [logsIn "alice" "alice's", returnsWith "alice@idp"]
    (innerAuth asksForPage (some (.user ⟨1, "alice"⟩))).run (reached.begin asksForPage) =
      .ok (some (.user ⟨1, "alice"⟩)) (reached.begin asksForPage) := by
  refine (sso_login_is_fresh plainPrimitives twoUsers twoUsers_initial
    [logsIn "alice" "alice's", returnsWith "alice@idp"]).1
    ⟨fun _ attempt works => ?_, fun other => (by cases other), trivial⟩ asksForPage
    ⟨1, "alice"⟩ 0 (LoginProtection.seconds 3600)
    (by decide +kernel) (by decide +kernel) (by decide +kernel) (by decide +kernel)
    (by decide +kernel) (by decide +kernel)
  cases works with
  | current _ _ held => cases held
  | fresh _ _ unsubmitted => simp [AuthState.validCredentialKinds, unsubmitted]

def aliceLoggedIn : World :=
  twoUsers.run plainPrimitives [returnsWith "alice@idp", logsIn "alice" "alice's"]

theorem stale_after_sso_and_password :
    (aliceLoggedIn.browsers 0).auth = some (.user ⟨1, "alice"⟩) ∧
      (aliceLoggedIn.browsers 0).ssoAcceptedAt = some 0 ∧
      aliceLoggedIn.config.stepUpInterval = some (LoginProtection.seconds 3600) ∧
      aliceLoggedIn.clock = 0 ∧
      (aliceLoggedIn.browsers 0).stepUpStale (.user ⟨1, "alice"⟩)
        aliceLoggedIn.config.stepUpInterval aliceLoggedIn.clock = true ∧
      (aliceLoggedIn.serve plainPrimitives asksForPage).1.toOption = some .loginPage := by
  decide +kernel

end World

end Warpgate.Browser
