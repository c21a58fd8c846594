/-
This file models what the gates of the HTTP listener read of a request, and which target it goes
to.
-/

import Warpgate.Access.Directory

namespace Warpgate.Http

open Option Except

open Auth (AuthStateUserInfo)
open Access (Directory Target)

inductive SessionAuthorization
  | user (userInfo : AuthStateUserInfo)
  | ticket (userInfo : AuthStateUserInfo) (targetId : Uuid) (ticketId : Option Uuid)
  deriving DecidableEq, Repr

namespace SessionAuthorization

def userInfo : SessionAuthorization → AuthStateUserInfo
  | user userInfo => userInfo
  | ticket userInfo _ _ => userInfo

def userId (auth : SessionAuthorization) : Uuid := auth.userInfo.id

def username (auth : SessionAuthorization) : String := auth.userInfo.username

end SessionAuthorization

/-! ### Requests -/

inductive RequestAuthorization
  | session (auth : SessionAuthorization)
  | userToken (userInfo : AuthStateUserInfo)
  | adminToken
  | clusterPeer
  deriving DecidableEq, Repr

def publicUsername : String := "<public>"

def publicSessionAuthorization (targetId : Uuid) : SessionAuthorization :=
  .ticket ⟨0, publicUsername⟩ targetId none

def isPublicSessionAuthorization (auth : SessionAuthorization) : Bool :=
  auth.userId = 0 || auth.username = publicUsername

inductive Method
  | get
  | post
  | put
  | delete
  | other (name : String)
  deriving DecidableEq, Repr

def stripStart (start text : String) : Option String :=
  if start.toList.isPrefixOf text.toList then
    some (String.ofList (text.toList.drop start.toList.length))
  else none

def stripEnd (ending text : String) : Option String :=
  if ending.toList.isSuffixOf text.toList then
    some (String.ofList (text.toList.take (text.toList.length - ending.toList.length)))
  else none

def warpgateSurfacePath (path : String) : Option String :=
  (stripStart "/@warpgate" path).or (stripStart "/_warpgate" path)

def startedProvider (path : String) : Option String :=
  (stripStart "/api/sso/providers/" path).bind (stripEnd "/start")

def isAsset (path : String) : Bool :=
  (stripStart "/assets/" path).any fun rest => !rest.toList.contains '\n'

def isSessionBootstrapPath (method : Method) (path : String) : Bool :=
  match warpgateSurfacePath path with
  | none => false
  | some path =>
    path ∈ ["", "/", "/api/auth/state", "/api/sso/logout", "/api/sso/return"] || isAsset path ||
      match method with
      | .get =>
        path ∈ ["/admin", "/api/info", "/api/logo", "/api/sso/providers"] ||
          (startedProvider path).any fun name => name ≠ "" && !name.toList.contains '/'
      | .post =>
        path ∈ ["/api/profile/credentials/otp", "/api/auth/login", "/api/auth/otp",
          "/api/auth/logout"]
      | _ => false

def isLoginFlowRoute (method : Method) (path : String) : Bool :=
  match warpgateSurfacePath path with
  | none => false
  | some path =>
    if path = "" || path = "/" then method = .get
    else if ((path.toList.splitOn '/').drop 1).any fun segment =>
        segment = [] || segment = ['.'] || segment = ['.', '.'] then false
    else if (stripStart "/assets/" path).isSome then
      method = .get && !path.toList.contains '%'
    else
      match startedProvider path with
      | some name => method = .get && !name.toList.contains '/'
      | none =>
        if path ∈ ["/api/info", "/api/logo", "/api/sso/providers", "/api/sso/auto-start",
            "/api/sso/logout"] then method = .get
        else if path ∈ ["/api/auth/login", "/api/auth/otp", "/api/auth/logout"] then
          method = .post
        else if path = "/api/auth/state" then method = .get || method = .delete
        else if path = "/api/sso/return" then method = .get || method = .post
        else false

def isWarpgateManagementPath (path : String) : Bool :=
  path = "/@warpgate" || (stripStart "/@warpgate/" path).isSome ||
    path = "/_warpgate" || (stripStart "/_warpgate/" path).isSome

def rsplitOnce (separator : Char) (text : String) : Option (String × String) :=
  let reversed := text.toList.reverse
  if separator ∈ reversed then
    some (String.ofList ((reversed.dropWhile (· ≠ separator)).drop 1).reverse,
      String.ofList (reversed.takeWhile (· ≠ separator)).reverse)
  else none

def hostWithoutDefaultPort (host : String) : Option String :=
  (rsplitOnce ':' host).bind fun (name, port) =>
    let bracketed := name.toList.head? = some '[' && name.toList.getLast? = some ']'
    if (port = "80" || port = "443") && name ≠ "" && (bracketed || !name.toList.contains ':') then
      some name
    else none

def hostMatchesBinding (bound requestHost : String) : Bool :=
  requestHost = bound || hostWithoutDefaultPort requestHost = some bound

inductive Refusal
  | database
  | inconsistentState
  | badRequest
  | unauthorized
  | mfaSetupRequired
  deriving DecidableEq, Repr

/-! ### Targets of a host -/

structure Gateway where
  directory : Directory
  externalHost : Uuid → Option String
  now : OffsetDateTime
  reachable : Bool

namespace Gateway

variable (gateway : Gateway)

def hostOf (target : Target) : Option String :=
  if target.protocol = .http then gateway.externalHost target.id else none

def query {Result : Type} (gateway : Gateway) (result : Result) : Except Refusal Result :=
  if gateway.reachable then .ok result else .error .database

def getTargetById (id : Uuid) : Except Refusal (Option Target) :=
  gateway.query (gateway.directory.targets.find? id)

def getTargetByName (name : String) : Except Refusal (Option Target) :=
  gateway.query (gateway.directory.targets.rows.find? fun target => target.name = name)

def getTargetByHostname (hostname : String) : Except Refusal (Option Target) :=
  gateway.query (gateway.directory.targets.rows.find? fun target =>
    gateway.hostOf target = some hostname)

def getTargetByRequestHost (host : String) : Except Refusal (Option Target) := do
  match ← gateway.getTargetByHostname host with
  | some target => pure (some target)
  | none =>
    match hostWithoutDefaultPort host with
    | some name => gateway.getTargetByHostname name
    | none => pure none

def findHttpTargetByExternalHost (targets : List Target) (host : String) : Option Target :=
  targets.find? fun target => (gateway.hostOf target).any fun bound => hostMatchesBinding bound host

def servedOnHost (externalHost requestHost : Option String) : Bool :=
  match externalHost.filter (· ≠ "") with
  | some bound => requestHost.any (hostMatchesBinding bound)
  | none => true

def targetServedOnHost (target : Target) (requestHost : Option String) : Bool :=
  servedOnHost (gateway.hostOf target) requestHost

def boundToHost (target : Target) (requestHost : String) : Bool :=
  (gateway.hostOf target).any (· ≠ "") && gateway.targetServedOnHost target (some requestHost)

end Gateway

inductive PresentedToken
  | unreadable
  | admin
  | user (userInfo : AuthStateUserInfo)
  | unknown
  deriving DecidableEq, Repr

inductive ClusterIdentity
  | absent
  | user (userInfo : AuthStateUserInfo)
  | unresolved
  deriving DecidableEq, Repr

structure Request where
  method : Method
  path : String
  host : Option String
  warpgateTarget : Option String
  isClusterPeer : Bool
  clusterIdentity : ClusterIdentity
  token : Option PresentedToken
  sessionAuth : Option SessionAuthorization
  sessionTarget : Option String
  hostAuthorized : Bool
  restrictedOnHost : Bool
  crossOrigin : Bool
  mfaGatePassed : Bool
  stepUpStale : Bool
  deriving DecidableEq, Repr

namespace Gateway

variable (gateway : Gateway)

variable (request : Request)

def targetBinding : Except Refusal Bool :=
  match request.host with
  | none => pure false
  | some host => do
    let target ← gateway.getTargetByRequestHost host
    pure (target.any fun target => gateway.boundToHost target host)

def outOfScope : Except Refusal Bool :=
  if request.isClusterPeer || (warpgateSurfacePath request.path).isNone ||
      isLoginFlowRoute request.method request.path then pure false
  else gateway.targetBinding request

def credentialsRefusedOnBoundHost : Bool :=
  match gateway.outOfScope request with
  | .ok refused => refused
  | .error _ => true

def checkedSession : Option SessionAuthorization :=
  if request.sessionAuth.isSome && !request.isClusterPeer && !request.hostAuthorized then none
  else request.sessionAuth

def sessionCounts : Bool :=
  request.isClusterPeer ||
    (request.hostAuthorized && !gateway.credentialsRefusedOnBoundHost request &&
      !(request.restrictedOnHost && (warpgateSurfacePath request.path).isSome &&
        !isSessionBootstrapPath request.method request.path) &&
      !request.crossOrigin)

def clusterRequestAuthorization : Option RequestAuthorization :=
  match request.clusterIdentity with
  | .absent => some .clusterPeer
  | .user userInfo => some (.session (.user userInfo))
  | .unresolved => none

def tokenAuthorization : Except Refusal (Option RequestAuthorization) :=
  match request.token with
  | none => pure none
  | some .unreadable => .error .badRequest
  | some .admin => pure (some .adminToken)
  | some (.user userInfo) => pure (some (.userToken userInfo))
  | some .unknown => pure none

def requestAuthorization : Except Refusal (Option RequestAuthorization) :=
  match request.sessionAuth.filter fun _ => gateway.sessionCounts request with
  | some auth => pure (some (.session auth))
  | none =>
    if request.isClusterPeer then pure (clusterRequestAuthorization request)
    else if (request.sessionAuth.isSome || request.token.isSome) &&
        gateway.credentialsRefusedOnBoundHost request then pure none
    else tokenAuthorization request

def passesMfaGate : Option RequestAuthorization → Bool
  | some (.session (.user _)) =>
    isSessionBootstrapPath request.method request.path || request.mfaGatePassed
  | _ => true

def injectRequestAuthorization : Except Refusal (Option RequestAuthorization) := do
  let auth ← gateway.requestAuthorization request
  if passesMfaGate request auth then pure auth else .error .mfaSetupRequired

end Gateway

inductive PublicTargetDecision
  | bypass
  | reject401
  | notApplicable
  deriving DecidableEq, Repr

def decidePublicTargetAccess (target : Option Target) (auth : Option RequestAuthorization) :
    PublicTargetDecision :=
  match target with
  | none => .notApplicable
  | some target =>
    if !target.isPublic || target.requireApproval then .notApplicable
    else
      match auth with
      | none | some (.session _) => .bypass
      | some .adminToken | some (.userToken _) | some .clusterPeer => .reject401

def selectTargetName (query hostTarget sessionTarget : Option String) : Option String :=
  match hostTarget with
  | some hostTarget => some hostTarget
  | none =>
    match query with
    | some query => some query
    | none => sessionTarget

def ontoPublicTargetSession (visitor : Option SessionAuthorization) (targetId : Uuid) :
    SessionAuthorization :=
  match visitor with
  | some (.user userInfo) => .ticket userInfo targetId none
  | some (.ticket userInfo ticketTargetId ticketId) =>
    if userInfo.id ≠ 0 && ticketTargetId = targetId then .ticket userInfo targetId ticketId
    else publicSessionAuthorization targetId
  | none => publicSessionAuthorization targetId

namespace Gateway

variable (gateway : Gateway)

def resolvePublicTargetDecision (host : Option String) (auth : Option RequestAuthorization) :
    Except Refusal (Option Target × PublicTargetDecision) :=
  match host with
  | none => pure (none, .notApplicable)
  | some host => do
    let candidates ← gateway.getTargetByRequestHost host
    let resolved := gateway.findHttpTargetByExternalHost candidates.toList host
    pure (resolved, decidePublicTargetAccess resolved auth)

inductive PublicBypassOutcome
  | bypass (targetId : Uuid)
  | reject401
  | notApplicable
  deriving DecidableEq, Repr

variable (request : Request)

variable (auth : Option RequestAuthorization)

def tryPublicTargetBypass : Except Refusal PublicBypassOutcome :=
  if isWarpgateManagementPath request.path then pure .notApplicable
  else do
    match ← gateway.resolvePublicTargetDecision request.host auth with
    | (some target, .bypass) => pure (.bypass target.id)
    | (none, .bypass) => pure .notApplicable
    | (_, .reject401) => pure .reject401
    | (_, .notApplicable) => pure .notApplicable

def ticketTarget (targetId : Uuid) : Except Refusal (Option Target) := do
  match ← gateway.getTargetById targetId with
  | none => pure none
  | some target =>
    if target.id ≠ targetId then .error .inconsistentState
    else if !gateway.targetServedOnHost target request.host then pure none
    else pure (if target.protocol = .http then some target else none)

def hostBasedTarget : Except Refusal (Option Target) :=
  match request.host with
  | none => pure none
  | some host => gateway.getTargetByRequestHost host

def namedTarget (hostTarget : Option Target) (name : String) : Except Refusal (Option Target) :=
  match hostTarget.filter fun target => target.name = name with
  | some target => pure (some target)
  | none => gateway.getTargetByName name

def userTarget (userInfo : AuthStateUserInfo) : Except Refusal (Option Target) := do
  let hostTarget ← gateway.hostBasedTarget request
  match selectTargetName request.warpgateTarget (hostTarget.map Target.name)
      request.sessionTarget with
  | none => pure none
  | some name =>
    let target ← gateway.namedTarget hostTarget name
    match target.filter fun target => gateway.targetServedOnHost target request.host with
    | none => pure none
    | some target =>
      pure (if gateway.directory.authorizes userInfo.id target.id gateway.now &&
          target.protocol = .http then some target else none)

def getTargetForRequest : RequestAuthorization → Except Refusal (Option Target)
  | .session (.ticket _ targetId _) => gateway.ticketTarget request targetId
  | .session (.user userInfo) => gateway.userTarget request userInfo
  | _ => pure none

def innerAuth : Except Refusal (Option Target) :=
  match auth with
  | none => pure none
  | some (.session (.user userInfo)) =>
    if request.stepUpStale then pure none
    else gateway.getTargetForRequest request (.session (.user userInfo))
  | some auth => gateway.getTargetForRequest request auth

def pageAuth : Except Refusal (Option Target) := do
  match ← gateway.tryPublicTargetBypass request auth with
  | .bypass targetId =>
    gateway.getTargetForRequest request
      (.session (ontoPublicTargetSession (checkedSession request) targetId))
  | .reject401 => .error .unauthorized
  | .notApplicable => gateway.innerAuth request auth

def proxiedTo : Except Refusal (Option Target) := do
  let auth ← gateway.injectRequestAuthorization request
  gateway.pageAuth request auth

/-! ### What a lookup returns -/

section

variable {gateway : Gateway} {req : Request} {target : Target} {host : String}

theorem bind_eq_ok {First Second : Type} {first : Except Refusal First}
    {next : First → Except Refusal Second} {res : Second} (succeeds : first >>= next = .ok res) :
    ∃ v, first = .ok v ∧ next v = .ok res := by
  cases first with
  | error refusal => cases succeeds
  | ok v => exact ⟨v, rfl, succeeds⟩

theorem query_eq_ok {Result : Type} {found res : Result}
    (succeeds : gateway.query found = .ok res) : found = res := by
  unfold query at succeeds
  split at succeeds
  · exact ok.inj succeeds
  · cases succeeds

theorem mem_of_getTargetByHostname (found : gateway.getTargetByHostname host = .ok (some target)) :
    target ∈ gateway.directory.targets.rows ∧ gateway.hostOf target = some host := by
  have isFound := query_eq_ok found
  have matched := List.find?_some isFound
  exact ⟨List.mem_of_find?_eq_some isFound, of_decide_eq_true matched⟩

theorem mem_of_getTargetByRequestHost
    (found : gateway.getTargetByRequestHost host = .ok (some target)) :
    target ∈ gateway.directory.targets.rows ∧
      ∃ bound, gateway.hostOf target = some bound ∧ hostMatchesBinding bound host = true := by
  obtain ⟨exactly, looked, rest⟩ := bind_eq_ok found
  cases exactly with
  | some bound =>
    obtain rfl := some.inj (ok.inj rest)
    obtain ⟨stored, isHost⟩ := mem_of_getTargetByHostname looked
    exact ⟨stored, host, isHost, by simp [hostMatchesBinding]⟩
  | none =>
    dsimp only at rest
    split at rest
    · grind [hostMatchesBinding, mem_of_getTargetByHostname]
    · cases rest

theorem served_of_binding {bound : String} (served : gateway.targetServedOnHost target req.host)
    (isBound : gateway.hostOf target = some bound) (named : bound ≠ "") :
    ∃ host, req.host = some host ∧ hostMatchesBinding bound host = true := by
  rw [targetServedOnHost, servedOnHost, isBound, filter_some, if_pos (by simpa using named)]
    at served
  exact (any_eq_true _ _).mp served

variable {tgt : Uuid} {userInfo info : AuthStateUserInfo} {auth : RequestAuthorization}

/-- A ticket is served its own target, wherever that target is. -/
theorem ticketTarget_eq_some_iff : gateway.ticketTarget req tgt = .ok (some target) ↔
    gateway.reachable = true ∧ gateway.directory.targets.find? tgt = some target ∧
      gateway.targetServedOnHost target req.host = true ∧ target.protocol = .http := by
  cases online : gateway.reachable with
  | false =>
    rw [ticketTarget, getTargetById, query, online]
    exact ⟨fun found => (by cases found), fun holds => (by cases holds.1)⟩
  | true =>
    rw [ticketTarget, getTargetById, query, online, if_pos rfl]
    simp only [bind, Except.bind]
    cases stored : gateway.directory.targets.find? tgt with
    | none => exact ⟨fun found => (by cases found), fun holds => (by cases holds.2.1)⟩
    | some other =>
      simp only [Sql.Table.key_of_find? stored, ne_eq, not_true_eq_false, if_false, true_and,
        some.injEq]
      constructor
      · intro found
        split at found
        · cases found
        next served =>
        split at found
        · next isHttp =>
          obtain rfl := some.inj (ok.inj found)
          exact ⟨rfl, by simpa using served, isHttp⟩
        · cases found
      · rintro ⟨rfl, served, isHttp⟩
        simp [served, isHttp, pure, Except.pure]

theorem userTarget_spec (found : gateway.userTarget req info = .ok (some target)) :
    gateway.targetServedOnHost target req.host = true ∧
      ∃ hostTarget, gateway.hostBasedTarget req = .ok hostTarget ∧
        ∀ bound, hostTarget = some bound → target = bound := by
  obtain ⟨hostTarget, looked, rest⟩ := bind_eq_ok found
  split at rest
  · cases rest
  · next name selected =>
    obtain ⟨r, named, rest⟩ := bind_eq_ok rest
    split at rest
    · cases rest
    · next chosen isChosen =>
      split at rest
      · obtain rfl := some.inj (ok.inj rest)
        obtain ⟨isRow, served⟩ := filter_eq_some_iff.mp isChosen
        refine ⟨served, hostTarget, looked, ?_⟩
        rintro bound rfl
        obtain rfl : bound.name = name := some.inj selected
        rw [namedTarget, filter_some, if_pos (decide_eq_true rfl)] at named
        have isBound := ok.inj named
        rw [isRow] at isBound
        exact (some.inj isBound).symm
      · cases rest

theorem getTargetForRequest_served
    (found : gateway.getTargetForRequest req auth = .ok (some target)) :
    gateway.targetServedOnHost target req.host = true := by
  cases auth with
  | session auth =>
    cases auth with
    | user info => exact (userTarget_spec found).1
    | ticket info tgt tid => exact (ticketTarget_eq_some_iff.mp found).2.2.1
  | userToken info | adminToken | clusterPeer => cases found

theorem tryPublicTargetBypass_spec {auth : Option RequestAuthorization}
    (bypasses : gateway.tryPublicTargetBypass req auth = .ok (.bypass tgt)) :
    ∃ target, gateway.hostBasedTarget req = .ok (some target) ∧ target.id = tgt := by
  unfold tryPublicTargetBypass at bypasses
  split at bypasses
  · cases bypasses
  · obtain ⟨decided, decides, rest⟩ := bind_eq_ok bypasses
    unfold resolvePublicTargetDecision at decides
    unfold hostBasedTarget
    split at decides
    · obtain rfl := ok.inj decides
      cases rest
    · obtain ⟨candidates, looked, isDecided⟩ := bind_eq_ok decides
      obtain rfl := ok.inj isDecided
      cases resolved : gateway.findHttpTargetByExternalHost candidates.toList _ with
      | none =>
        rw [resolved] at rest
        cases rest
      | some target =>
        have isCandidate := List.mem_of_find?_eq_some resolved
        obtain rfl := mem_toList.mp isCandidate
        rw [resolved] at rest
        generalize decidePublicTargetAccess (some target) auth = dec at rest
        cases dec with
        | bypass =>
          refine ⟨target, looked, ?_⟩
          exact PublicBypassOutcome.bypass.inj (ok.inj rest)
        | reject401 | notApplicable => cases rest

theorem tryPublicTargetBypass_session {bound : Target} (isHost : req.host = some host)
    (resolves : gateway.getTargetByRequestHost host = .ok (some bound))
    (auth : SessionAuthorization) : gateway.tryPublicTargetBypass req (some (.session auth)) =
      .ok (if isWarpgateManagementPath req.path || !bound.isPublic || bound.requireApproval
        then .notApplicable else .bypass bound.id) := by
  obtain ⟨-, name, isName, matched⟩ := mem_of_getTargetByRequestHost resolves
  have isFound : gateway.findHttpTargetByExternalHost [bound] host = some bound := by
    simp [findHttpTargetByExternalHost, isName, matched]
  unfold tryPublicTargetBypass
  cases isWarpgateManagementPath req.path with
  | true => rfl
  | false =>
    have decides : gateway.resolvePublicTargetDecision req.host (some (.session auth)) =
        .ok (some bound, decidePublicTargetAccess (some bound) (some (.session auth))) := by
      simp only [resolvePublicTargetDecision, isHost, resolves, bind, Except.bind, toList_some,
        isFound]
      rfl
    rw [decides, decidePublicTargetAccess]
    cases bound.isPublic <;> cases bound.requireApproval <;> rfl

theorem ontoPublicTargetSession_ticket (visitor : Option SessionAuthorization) (tgt : Uuid) :
    ∃ info tid, ontoPublicTargetSession visitor tgt = .ticket info tgt tid := by
  unfold ontoPublicTargetSession
  split
  · exact ⟨_, _, rfl⟩
  · split
    · exact ⟨_, _, rfl⟩
    · exact ⟨_, _, rfl⟩
  · exact ⟨_, _, rfl⟩

theorem requestAuthorization_ticket {tid : Option Uuid}
    (authorized : gateway.requestAuthorization req = .ok (some (.session (.ticket info tgt tid)))) :
    req.sessionAuth = some (.ticket info tgt tid) ∧ gateway.sessionCounts req = true := by
  unfold requestAuthorization at authorized
  split at authorized
  · next auth counts =>
    obtain rfl := RequestAuthorization.session.inj (some.inj (ok.inj authorized))
    exact filter_eq_some_iff.mp counts
  · split at authorized
    · unfold clusterRequestAuthorization at authorized
      split at authorized <;> cases authorized
    · split at authorized
      · cases authorized
      · unfold tokenAuthorization at authorized
        split at authorized <;> cases authorized

inductive ServedUnder (gateway : Gateway) (request : Request) : RequestAuthorization → Prop
  | login (userInfo : AuthStateUserInfo) : ServedUnder gateway request (.session (.user userInfo))
  | bypass (userInfo : AuthStateUserInfo) (ticketId : Option Uuid) (shared : Target)
      (resolves : gateway.hostBasedTarget request = .ok (some shared)) :
      ServedUnder gateway request (.session (.ticket userInfo shared.id ticketId))
  | ticket (userInfo : AuthStateUserInfo) (targetId : Uuid) (ticketId : Option Uuid)
      (presented : request.sessionAuth = some (.ticket userInfo targetId ticketId))
      (counts : gateway.sessionCounts request = true)
      (unshared : gateway.tryPublicTargetBypass request
        (some (.session (.ticket userInfo targetId ticketId))) = .ok .notApplicable) :
      ServedUnder gateway request (.session (.ticket userInfo targetId ticketId))

theorem proxiedTo_spec (found : gateway.proxiedTo req = .ok (some target)) :
    ∃ auth, gateway.ServedUnder req auth ∧
      gateway.getTargetForRequest req auth = .ok (some target) := by
  obtain ⟨auth, injected, rest⟩ := bind_eq_ok found
  obtain ⟨out, bypassed, rest⟩ := bind_eq_ok rest
  have authorized : gateway.requestAuthorization req = .ok auth := by
    obtain ⟨unchecked, authorized, checks⟩ := bind_eq_ok injected
    split at checks
    · obtain rfl := ok.inj checks
      exact authorized
    · cases checks
  cases out with
  | bypass tgt =>
    obtain ⟨shared, resolves, rfl⟩ := tryPublicTargetBypass_spec bypassed
    obtain ⟨info, tid, isTicket⟩ := ontoPublicTargetSession_ticket (checkedSession req) shared.id
    dsimp only at rest
    rw [isTicket] at rest
    exact ⟨_, .bypass info tid shared resolves, rest⟩
  | reject401 => cases rest
  | notApplicable =>
    rcases auth with _ | (info | ⟨info, tgt, tid⟩) | info | _ | _
    · cases rest
    · dsimp only [innerAuth] at rest
      split at rest
      · cases rest
      · exact ⟨_, .login info, rest⟩
    · obtain ⟨presented, counts⟩ := requestAuthorization_ticket authorized
      exact ⟨_, .ticket info tgt tid presented counts bypassed, rest⟩
    · cases rest
    · cases rest
    · cases rest

theorem requestAuthorization_of_refused (notPeer : req.isClusterPeer = false)
    (refused : gateway.credentialsRefusedOnBoundHost req = true) :
    gateway.requestAuthorization req ≠ .ok (some auth) := by
  have ignored : gateway.sessionCounts req = false := by simp [sessionCounts, notPeer, refused]
  have noSession : (req.sessionAuth.filter fun _ => gateway.sessionCounts req) = none := by
    rw [ignored]
    cases req.sessionAuth with
    | none | some auth => rfl
  intro authorized
  rw [requestAuthorization, noSession] at authorized
  simp only [notPeer, refused, Bool.false_eq_true, if_false, Bool.and_true] at authorized
  split at authorized
  · cases authorized
  · next noCredential =>
    have noToken : req.token = none := by
      simp only [Bool.or_eq_true, not_or] at noCredential
      simpa using noCredential.2
    rw [tokenAuthorization, noToken] at authorized
    cases authorized

end

/-- A ticket whose session counts, where the public bypass does not decide first, is for the target
the host resolves to, or for one that is not served there. -/
def TicketFits (host : String) (bound : Target) : Prop :=
  ∀ userInfo targetId ticketId,
    request.sessionAuth = some (.ticket userInfo targetId ticketId) →
    gateway.sessionCounts request = true →
    (isWarpgateManagementPath request.path || !bound.isPublic || bound.requireApproval) = true →
    ∀ target ∈ gateway.directory.targets.rows, target.id = targetId →
      target = bound ∨ target.protocol ≠ .http ∨
        gateway.targetServedOnHost target (some host) = false

/-! ### Hosts with a target of their own -/

section

variable {gateway : Gateway} {request : Request} {host : String} {bound target : Target}
  (isHost : request.host = some host)
  (resolves : gateway.getTargetByRequestHost host = .ok (some bound))

include isHost resolves

theorem eq_bound_of_fits (fits : gateway.TicketFits request host bound)
    (found : gateway.proxiedTo request = .ok (some target)) : target = bound := by
  have hostTarget : gateway.hostBasedTarget request = .ok (some bound) := by
    rw [hostBasedTarget, isHost]
    exact resolves
  have boundStored := (mem_of_getTargetByRequestHost resolves).1
  obtain ⟨auth, under, selects⟩ := proxiedTo_spec found
  cases under with
  | login info =>
    obtain ⟨-, selected, looked, only⟩ := userTarget_spec selects
    exact only bound (ok.inj (looked.symm.trans hostTarget))
  | bypass info tid shared sharedResolves =>
    obtain rfl := some.inj (ok.inj (sharedResolves.symm.trans hostTarget))
    obtain ⟨-, stored, -⟩ := ticketTarget_eq_some_iff.mp selects
    exact some.inj (stored.symm.trans (Sql.Table.find?_of_mem boundStored))
  | ticket info tgt tid presented counts unshared =>
    obtain ⟨-, stored, served, isHttp⟩ := ticketTarget_eq_some_iff.mp selects
    rw [tryPublicTargetBypass_session isHost resolves] at unshared
    split at unshared
    · next first =>
      rcases fits info tgt tid presented counts first target (Sql.Table.mem_of_find? stored)
        (Sql.Table.key_of_find? stored) with same | other | elsewhere
      · exact same
      · exact absurd isHttp other
      · rw [isHost, elsewhere] at served
        cases served
    · cases unshared

theorem fits_of_eq_bound
    (only : ∀ target, gateway.proxiedTo request = .ok (some target) → target = bound) :
    gateway.TicketFits request host bound := by
  intro info tgt tid presented counts first target stored sameId
  by_contra unfit
  simp only [not_or, not_not, Bool.not_eq_false] at unfit
  obtain ⟨differs, isHttp, served⟩ := unfit
  have online : gateway.reachable = true := by
    by_contra offline
    rw [getTargetByRequestHost, getTargetByHostname, query, if_neg offline] at resolves
    cases resolves
  have selects : gateway.ticketTarget request tgt = .ok (some target) := by
    refine ticketTarget_eq_some_iff.mpr ⟨online, ?_, by rw [isHost]; exact served, isHttp⟩
    rw [← sameId]
    exact Sql.Table.find?_of_mem stored
  refine differs (only target ?_)
  have injected : gateway.injectRequestAuthorization request =
      .ok (some (.session (.ticket info tgt tid))) := by
    rw [injectRequestAuthorization, requestAuthorization, presented, filter_some, if_pos counts]
    rfl
  rw [proxiedTo, injected]
  show gateway.pageAuth request _ = _
  rw [pageAuth, tryPublicTargetBypass_session isHost resolves, if_pos first]
  exact selects

end

/-- A host that resolves to a bound target serves that target only, exactly if a ticket presented
there fits, and no credentials count there on Warpgate's own routes outside the login flow; a bound
target is served on no other host. -/
theorem bound_host_serves_its_target : (∀ host bound, request.host = some host →
      gateway.getTargetByRequestHost host = .ok (some bound) →
      gateway.boundToHost bound host = true →
      ((∀ target, gateway.proxiedTo request = .ok (some target) → target = bound) ↔
        gateway.TicketFits request host bound) ∧
      (request.isClusterPeer = false → (warpgateSurfacePath request.path).isSome = true →
        isLoginFlowRoute request.method request.path = false →
        ∀ auth, gateway.injectRequestAuthorization request ≠ .ok (some auth))) ∧
    ∀ target, gateway.proxiedTo request = .ok (some target) →
      ∀ bound, gateway.hostOf target = some bound → bound ≠ "" →
        ∃ host, request.host = some host ∧ hostMatchesBinding bound host = true := by
  refine ⟨fun host bound isHost resolves isBound => ⟨⟨fits_of_eq_bound isHost resolves,
    fun fits target => eq_bound_of_fits isHost resolves fits⟩, ?_⟩, ?_⟩
  · intro notPeer ownRoute outside auth injected
    have refused : gateway.credentialsRefusedOnBoundHost request = true := by
      have inScope : gateway.outOfScope request = .ok true := by
        have onOwn : (warpgateSurfacePath request.path).isNone = false := by
          rw [isNone_eq_false_iff]
          exact ownRoute
        rw [outOfScope, notPeer, onOwn, outside]
        simp only [Bool.or_false, Bool.false_eq_true, if_false, targetBinding, isHost]
        rw [resolves]
        show ok (gateway.boundToHost bound host) = _
        rw [isBound]
      rw [credentialsRefusedOnBoundHost, inScope]
    obtain ⟨unchecked, authorized, checks⟩ := bind_eq_ok injected
    split at checks
    · obtain rfl := ok.inj checks
      exact requestAuthorization_of_refused notPeer refused authorized
    · cases checks
  · intro target found bound isBound named
    obtain ⟨auth, -, selects⟩ := proxiedTo_spec found
    exact served_of_binding (getTargetForRequest_served selects) isBound named

def vm : Target := ⟨1, "vm", .http, false, false⟩

def wiki : Target := ⟨2, "wiki", .http, false, false⟩

def boundGateway : Gateway where
  directory :=
    { users := .empty
      targets := ⟨[vm, wiki], by decide⟩
      userRoles := ⟨[⟨7, 5, none, none⟩], by decide⟩
      targetRoles := [⟨1, 5⟩, ⟨2, 5⟩] }
  externalHost := fun id => if id = 1 then some "vm.example" else none
  now := 0
  reachable := true

def onBoundHost (auth : SessionAuthorization) : Request where
  method := .get
  path := "/"
  host := some "vm.example:443"
  warpgateTarget := some "wiki"
  isClusterPeer := false
  clusterIdentity := .absent
  token := none
  sessionAuth := some auth
  sessionTarget := some "wiki"
  hostAuthorized := true
  restrictedOnHost := false
  crossOrigin := false
  mfaGatePassed := true
  stepUpStale := false

theorem bound_host_serves_its_target_to_its_ticket :
    let request := onBoundHost (.ticket ⟨7, "alice"⟩ 1 (some 9))
    boundGateway.proxiedTo request = .ok (some vm) ∧
      ∀ target, boundGateway.proxiedTo request = .ok (some target) → target = vm := by
  refine ⟨by decide +kernel, ?_⟩
  refine ((bound_host_serves_its_target boundGateway _).1 "vm.example:443" vm rfl
    (by decide +kernel)
    (by decide +kernel)).1.mpr ?_
  rintro _ _ _ ⟨⟩ - - target stored isTicket
  rcases List.mem_pair.mp stored with rfl | rfl
  · exact .inl rfl
  · cases isTicket

theorem ticket_is_served_on_a_foreign_host :
    boundGateway.getTargetByRequestHost "vm.example:443" = .ok (some vm) ∧
      boundGateway.boundToHost vm "vm.example:443" = true ∧
      boundGateway.proxiedTo (onBoundHost (.ticket ⟨7, "alice"⟩ 2 (some 9))) = .ok (some wiki) ∧
      wiki ≠ vm := by
  decide +kernel

end Gateway

end Warpgate.Http
