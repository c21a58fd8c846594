/-
This file translates the handlers of browser requests, and says once what they can do.
-/

import Warpgate.Handlers.Logic
import Warpgate.Http.Hosts
import Warpgate.LoginProtection.System

namespace Warpgate.Browser

open Auth (AuthStateUserInfo AuthState CredentialPolicy IpAddr StoredCredential AuthResult isFresh)
open Http (SessionAuthorization Method isSessionBootstrapPath)
open LoginProtection (IpNet)

/-! ### What is stored -/

structure SsoLoginState where
  token : String
  provider : String
  supportsSingleLogout : Bool
  subject : Option String
  sid : Option String
  deriving DecidableEq, Repr

structure Mark (Value : Type) where
  value : Value
  writer : Uuid
  deriving DecidableEq, Repr

structure Entries where
  sessionId : Option UserSessionId
  auth : Option SessionAuthorization
  lastSsoAt : Option (Mark Int)
  authTime : Option (Mark Nat)
  mfaGatePassed : Option (Mark Bool)
  ssoLoginState : Option (Mark SsoLoginState)
  ssoAcceptedAt : Option OffsetDateTime
  deriving DecidableEq, Repr

namespace Entries

def empty : Entries where
  sessionId := none
  auth := none
  lastSsoAt := none
  authTime := none
  mfaGatePassed := none
  ssoLoginState := none
  ssoAcceptedAt := none

def authUserId (entries : Entries) : Option Uuid := entries.auth.map SessionAuthorization.userId

end Entries

def unixTimestamp (time : OffsetDateTime) : Int := time / 1000000000

def fromUnixTimestamp (seconds : Int) : OffsetDateTime := seconds * 1000000000

structure UserSession where
  userId : Option Uuid
  ended : Bool
  nodeId : Option NodeId
  protocol : Protocol
  deriving DecidableEq, Repr

def UserSession.adoptable (row : UserSession) : Bool :=
  !row.ended && row.nodeId.isNone && row.protocol = .http

structure Account where
  allowedIpRanges : Option (List IpNet)
  policy : CredentialPolicy

def ipAllowed (allowedIpRanges : Option (List IpNet)) (remoteIp : Option IpAddr) : Bool :=
  match allowedIpRanges with
  | none => true
  | some ranges =>
    match remoteIp with
    | none => true
    | some ip => ranges.isEmpty || ranges.any fun network => network.contains ip.toCanonical

structure PasswordCredential where
  id : Uuid
  userId : Uuid
  argonHash : String
  deriving DecidableEq, Repr

structure OtpCredential where
  id : Uuid
  userId : Uuid
  secretKey : List UInt8
  deriving DecidableEq, Repr

structure SsoCredential where
  id : Uuid
  userId : Uuid
  email : String
  provider : Option String
  deriving DecidableEq, Repr

inductive MfaEnforcement
  | off
  | enroll
  | require
  deriving DecidableEq, Repr

inductive PasswordLoginMode
  | enabled
  | minimized
  | disabled
  deriving DecidableEq, Repr

structure Parameters where
  mfaEnforcement : MfaEnforcement
  mfaPolicyExemptSsoUsers : Bool
  passwordLoginMode : PasswordLoginMode
  allowOwnCredentialManagement : Bool
  deriving DecidableEq, Repr

structure SsoProvider where
  name : String
  disableLocalLogout : Bool
  deriving DecidableEq, Repr

structure Config where
  ssoProviders : List SsoProvider
  stepUpInterval : Option Duration
  deriving DecidableEq, Repr

structure Attempt where
  state : AuthState
  ssoAcceptedAt : Option OffsetDateTime

abbrev BrowserId := Nat

structure World where
  protection : LoginProtection.World
  accounts : Uuid → Account
  passwordCredentials : Sql.Table PasswordCredential PasswordCredential.id
  otpCredentials : Sql.Table OtpCredential OtpCredential.id
  ssoCredentials : Sql.Table SsoCredential SsoCredential.id
  parameters : Parameters
  config : Config
  userSessions : UserSessionId → Option UserSession
  handles : NodeId → UserSessionId → Option (Option AuthStateUserInfo)
  attempts : NodeId → UserSessionId → Option Attempt
  browsers : BrowserId → Entries
  uuids : Nat → Uuid

namespace World

variable (world : World)

def clock : OffsetDateTime := world.protection.clock

def setUserSession (id : UserSessionId) (row : UserSession) : World :=
  { world with userSessions := Function.update world.userSessions id (some row) }

def setHandle (node : NodeId) (id : UserSessionId)
    (handle : Option (Option AuthStateUserInfo)) : World :=
  { world with
    handles := Function.update world.handles node
      (Function.update (world.handles node) id handle) }

def setAttempt (node : NodeId) (id : UserSessionId) (attempt : Option Attempt) : World :=
  { world with
    attempts := Function.update world.attempts node
      (Function.update (world.attempts node) id attempt) }

def setBrowser (browser : BrowserId) (entries : Entries) : World :=
  { world with browsers := Function.update world.browsers browser entries }

def endSession (id : UserSessionId) : World :=
  match world.userSessions id with
  | none => world
  | some row => world.setUserSession id { row with ended := true }

def effectiveMfaEnforcement (userId : Uuid) : MfaEnforcement :=
  if world.parameters.mfaPolicyExemptSsoUsers &&
      world.ssoCredentials.rows.any (fun credential => credential.userId = userId) then .off
  else world.parameters.mfaEnforcement

def hasOtpCredential (userId : Uuid) : Bool :=
  world.otpCredentials.rows.any fun credential => credential.userId = userId

def mfaSetupRequired (userId : Uuid) : Bool :=
  if world.effectiveMfaEnforcement userId = .off then false
  else !world.hasOtpCredential userId

end World

structure Primitives extends protecting : LoginProtection.Primitives where
  verifyPassword : String → String → Bool
  verifyTotp : String → List UInt8 → OffsetDateTime → Bool
  fingerprint : List UInt8 → BitVec 256
  ssoBytes : SsoCredential → List UInt8

inductive AuthCredential
  | password (secret : String)
  | otp (code : String)
  | sso (provider email : String)
  deriving DecidableEq, Repr

def firstById {Row : Type} (id : Row → Uuid) (rows : List Row) (condition : Row → Bool) :
    Option Row :=
  (rows.insertionSort fun first second => (id first) ≤ (id second)).find? condition

section Validate

variable (primitives : Primitives) (world : World)

def usernameEqCi (first second : String) : Bool :=
  primitives.toLowercase first = primitives.toLowercase second

def findUser (username : String) : Option AuthStateUserInfo :=
  world.protection.findUser primitives.protecting username

def validateCredential (username : String) (credential : AuthCredential) :
    Option StoredCredential :=
  (findUser primitives world username).bind fun user =>
    match credential with
    | .password secret =>
      (firstById PasswordCredential.id
          (world.passwordCredentials.select fun row => row.userId = user.id)
          fun row => primitives.verifyPassword secret row.argonHash).map fun row =>
        ⟨.password, row.id, primitives.fingerprint (Auth.asBytes row.argonHash)⟩
    | .otp code =>
      (firstById OtpCredential.id
          (world.otpCredentials.select fun row => row.userId = user.id)
          fun row => primitives.verifyTotp code row.secretKey world.clock).map fun row =>
        ⟨.totp, row.id, primitives.fingerprint row.secretKey⟩
    | .sso provider email =>
      (firstById SsoCredential.id
          (world.ssoCredentials.select fun row => row.userId = user.id)
          fun row => row.email = email && row.provider.all (· = provider)).map fun row =>
        ⟨.sso, row.id, primitives.fingerprint (primitives.ssoBytes row)⟩

def usernameForSsoCredential (provider email : String) : Option String :=
  (world.ssoCredentials.rows.find? fun row =>
      row.email = email && row.provider.all (· = provider)).bind fun row =>
    (world.protection.users.find? row.userId).map AuthStateUserInfo.username

end Validate

/-! ### Requests -/

structure TicketPresentation where
  presented : Option Uuid
  authorization : Option (AuthStateUserInfo × Uuid × Option Uuid)
  redirected : Bool

structure SsoContext where
  provider : String
  supportsSingleLogout : Bool
  hasSafeNext : Bool

structure SsoResponse where
  idToken : String
  subject : String
  sid : Option String
  email : Option String
  emailVerified : Option Bool

structure SsoReturn where
  context : Option SsoContext
  response : Option SsoResponse
  rolesMapped : Bool

inductive Route
  | login (username password : String)
  | otp (code : String)
  | ssoReturn (answer : SsoReturn)
  | logout
  | page (hasTarget : Bool)
  | api
  | createOtp (secretKey : List UInt8)
  | deleteOtp (id : Uuid)

structure Request where
  browser : BrowserId
  node : NodeId
  remoteIp : Option IpAddr
  method : Method
  path : String
  hostRejected : Bool
  cookieIgnored : Bool
  ticket : Option TicketPresentation
  route : Route

inductive ApiAuthState
  | notStarted
  | failed
  | passwordNeeded
  | otpNeeded
  | ssoNeeded
  | webUserApprovalNeeded
  | publicKeyNeeded
  | success
  | ipBlocked
  | userLocked
  | ipRejected
  deriving DecidableEq, Repr

def ApiAuthState.of : AuthResult → ApiAuthState
  | .rejected => .failed
  | .need kinds =>
    if .publicKey ∈ kinds then .publicKeyNeeded
    else if .password ∈ kinds then .passwordNeeded
    else if .totp ∈ kinds then .otpNeeded
    else if .sso ∈ kinds then .ssoNeeded
    else if .webUserApproval ∈ kinds then .webUserApprovalNeeded
    else .failed
  | .accepted _ => .success

inductive LoginResponse
  | success
  | failure (state : ApiAuthState) (credentialRejected : Bool)
  deriving DecidableEq, Repr

inductive SsoLoginError
  | ssoFailed
  | noMatchingUser
  | accessDenied
  | ipBlocked
  deriving DecidableEq, Repr

inductive Response
  | login (response : LoginResponse)
  | ssoReturned (error : Option SsoLoginError)
  | loggedOut
  | localLogoutDisabled
  | cleanAddress
  | loginPage
  | targetSelection
  | proxied
  | served
  | otpCreated
  | otpDeleted
  | unauthorized
  | forbidden
  | notFound
  deriving DecidableEq, Repr

inductive Fault
  | unauthorized
  | mfaSetupRequired
  | internal
  deriving DecidableEq, Repr

structure Exchange where
  world : World
  session : Entries
  purged : Bool

abbrev Handler (Result : Type) := Handlers.Handler Exchange Fault Result

def onWorld (change : World → World) : Handler Unit :=
  modify fun exchange => { exchange with world := change exchange.world }

def onSession (change : Entries → Entries) : Handler Unit :=
  modify fun exchange =>
    if exchange.purged then exchange else { exchange with session := change exchange.session }

def clear : Handler Unit := onSession fun _ => .empty

def purge : Handler Unit :=
  modify fun exchange => { exchange with session := .empty, purged := true }

/-! ### Handlers -/

section

variable (primitives : Primitives)

def protect {Result : Type} (program : LoginProtection.Action Result) : Handler Result := do
  let exchange ← get
  let outcome := program.eval (LoginProtection.execute primitives.protecting)
    exchange.world.protection
  onWorld fun world => { world with protection := outcome.2 }
  pure outcome.1

variable (request : Request)

def checkIpBlocked (ip : Option IpAddr) : Handler Bool :=
  match ip with
  | none => pure false
  | some ip => do
    match ← protect primitives (LoginProtection.checkIpBlocked request.node ip) with
    | none => throw .internal
    | some block => pure block.isSome

variable (username : String)

def checkUserLocked : Handler Bool := do
  match ← protect primitives (LoginProtection.checkUserLocked request.node username) with
  | none => throw .internal
  | some lock => pure lock.isSome

def recordFailedLoginAttempt (username credentialType : String) : Handler Unit :=
  match request.remoteIp with
  | none => pure ()
  | some ip => do
    let _ ← protect primitives (LoginProtection.recordFailedAttempt request.node
      ⟨username, ip, .http, credentialType⟩)

def clearFailedAttempts : Handler Unit :=
  match request.remoteIp with
  | none => pure ()
  | some ip => do
    let _ ← protect primitives (LoginProtection.clearFailedAttempts ip username)

def createHandle : Handler Unit := do
  let exchange ← get
  let id := exchange.world.uuids 0
  onWorld fun world => { world with uuids := fun index => world.uuids (index + 1) }
  match exchange.world.userSessions id with
  | some _ => throw .internal
  | none => do
    onWorld fun world => world.setUserSession id ⟨none, false, none, .http⟩
    onSession fun entries => { entries with sessionId := some id }
    onWorld fun world => world.setHandle request.node id (some none)

inductive Refusal
  | otherUser
  | endedWithAuth
  deriving DecidableEq, Repr

def resolveHandle : Handler (Option Refusal) := do
  let exchange ← get
  match exchange.session.sessionId with
  | none => do
    createHandle request
    pure none
  | some id =>
    match exchange.world.handles request.node id with
    | some attributed =>
      -- a handle that was adopted learns its user later
      if attributed.isSome && attributed.map AuthStateUserInfo.id ≠ exchange.session.authUserId then
        pure (some .otherUser)
      else pure none
    | none =>
      match (exchange.world.userSessions id).filter UserSession.adoptable with
      | some row =>
        if row.userId ≠ exchange.session.authUserId then pure (some .otherUser)
        else do
          onWorld fun world => world.setHandle request.node id (some none)
          pure none
      | none =>
        if exchange.session.authUserId.isSome then pure (some .endedWithAuth)
        else do
          createHandle request
          pure none

def handleForRequest (status : Fault) : Handler Unit := do
  match ← resolveHandle request with
  | none => pure ()
  | some .otherUser => throw status
  | some .endedWithAuth => do
    purge
    throw status

def handleForLogin : Handler Unit := do
  match ← resolveHandle request with
  | none => pure ()
  | some _ => do
    clear
    createHandle request

variable (userInfo : AuthStateUserInfo)

def setUserInfo : Handler Bool := do
  let exchange ← get
  match exchange.session.sessionId with
  | none => pure false
  | some id =>
    if exchange.world.handles request.node id = some (some userInfo) then pure true
    else
      match (exchange.world.userSessions id).filter fun row =>
          row.userId = none || row.userId = some userInfo.id with
      | none => pure false
      | some row => do
        onWorld fun world =>
          (world.setUserSession id { row with userId := some userInfo.id }).setHandle
            request.node id (some (some userInfo))
        pure true

def endLogin : Handler Unit := do
  let exchange ← get
  match exchange.session.sessionId with
  | none => pure ()
  | some id =>
    onWorld fun world => (world.endSession id).setHandle request.node id none

def Entries.authorized (entries : Entries) (userInfo : AuthStateUserInfo)
    (ssoAcceptedAt : Option OffsetDateTime) (now : OffsetDateTime) : Entries :=
  { entries with
    auth := some (.user userInfo)
    ssoAcceptedAt := ssoAcceptedAt
    authTime := some ⟨(unixTimestamp now).toNat, userInfo.id⟩ }

def attributeSession : Handler Unit := do
  handleForRequest request .internal
  let attributed ← setUserInfo request userInfo
  if attributed then pure ()
  else do
    endLogin request
    clear
    handleForRequest request .internal
    let attributed ← setUserInfo request userInfo
    if attributed then pure () else throw .internal

def authorizeSession (ssoAcceptedAt : Option OffsetDateTime) : Handler Unit := do
  attributeSession request userInfo
  let exchange ← get
  onSession fun entries => entries.authorized userInfo ssoAcceptedAt exchange.world.clock

inductive LoginError
  | userNotFound
  | ipAddrNotAllowed
  deriving DecidableEq, Repr

def getAuthState : Handler (Option (UserSessionId × Attempt)) := do
  let exchange ← get
  pure (exchange.session.sessionId.bind fun id =>
    (exchange.world.attempts request.node id).map fun attempt => (id, attempt))

def Attempt.reusable (attempt : Attempt) (username : String) : Bool :=
  usernameEqCi primitives attempt.state.userInfo.username username &&
    attempt.state.verify ≠ .rejected

def unknownUser (credentialType : Option String) : Handler (Except LoginError UserSessionId) := do
  match credentialType with
  | some credentialType => recordFailedLoginAttempt primitives request username credentialType
  | none => pure ()
  pure (.error .userNotFound)

def createAuthState (id : UserSessionId) (username : String)
    (credentialType : Option String) : Handler (Except LoginError UserSessionId) := do
  let exchange ← get
  match exchange.world.protection.users.rows.find? fun user =>
      usernameEqCi primitives user.username username with
  | none => unknownUser primitives request username credentialType
  | some user =>
    if !ipAllowed (exchange.world.accounts user.id).allowedIpRanges request.remoteIp then
      pure (.error .ipAddrNotAllowed)
    else
      match findUser primitives exchange.world username with
      | none => unknownUser primitives request username credentialType
      | some model => do
        let state := AuthState.new id request.remoteIp user .http ""
          (exchange.world.accounts model.id).policy exchange.world.clock ""
        onWorld fun world => world.setAttempt request.node id (some ⟨state, none⟩)
        pure (.ok id)

def getOrCreateAuthState
    (credentialType : Option String) : Handler (Except LoginError UserSessionId) := do
  match (← getAuthState request).filter fun found => found.2.reusable primitives username with
  | some (id, _) => pure (.ok id)
  | none => do
    handleForLogin request
    let exchange ← get
    match exchange.session.sessionId with
    | none => throw .internal
    | some id => createAuthState primitives request id username credentialType

def Attempt.submitted (attempt : Attempt) (credential : AuthCredential)
    (validated : Option StoredCredential) (now : OffsetDateTime) : Attempt where
  state := (attempt.state.submitCredential (.ok validated : Except Fault _)).2
  ssoAcceptedAt :=
    match credential, validated with
    | .sso _ _, some _ => some now
    | _, _ => attempt.ssoAcceptedAt

def submitCredential (id : UserSessionId) (credential : AuthCredential) :
    Handler (Bool × Attempt) := do
  let exchange ← get
  match exchange.world.attempts request.node id with
  | none => throw .internal
  | some attempt => do
    if ← checkIpBlocked primitives request attempt.state.remoteIp then pure (false, attempt)
    else if ← checkUserLocked primitives request attempt.state.userInfo.username then
      pure (false, attempt)
    else do
      let exchange ← get
      let validated :=
        validateCredential primitives exchange.world attempt.state.userInfo.username credential
      let submitted := attempt.submitted credential validated exchange.world.clock
      onWorld fun world => world.setAttempt request.node id (some submitted)
      pure (validated.isSome, submitted)

def submitAndFinalize (id : UserSessionId) (credential : AuthCredential)
    (credentialType : String) : Handler LoginResponse := do
  let (valid, attempt) ← submitCredential primitives request id credential
  if valid then
    match attempt.state.verify with
    | .accepted userInfo => do
      authorizeSession request userInfo attempt.ssoAcceptedAt
      clearFailedAttempts primitives request userInfo.username
      pure .success
    | other => pure (.failure (.of other) false)
  else do
    recordFailedLoginAttempt primitives request attempt.state.userInfo.username credentialType
    pure (.failure .failed true)

def serveLogin (username password : String) : Handler LoginResponse := do
  if ← checkIpBlocked primitives request request.remoteIp then pure (.failure .ipBlocked false)
  else do
    let exchange ← get
    if exchange.world.parameters.passwordLoginMode = .disabled then do
      recordFailedLoginAttempt primitives request username "password"
      pure (.failure .failed false)
    else if ← checkUserLocked primitives request username then pure (.failure .userLocked false)
    else
      match ← getOrCreateAuthState primitives request username (some "password") with
      | .error .userNotFound => do
        handleForLogin request
        pure (.failure .failed true)
      | .error .ipAddrNotAllowed => do
        handleForLogin request
        pure (.failure .ipRejected false)
      | .ok id => submitAndFinalize primitives request id (.password password) "password"

def serveOtpLogin (code : String) : Handler LoginResponse := do
  if ← checkIpBlocked primitives request request.remoteIp then pure (.failure .ipBlocked false)
  else
    match ← getAuthState request with
    | none => pure (.failure .failed true)
    | some (id, attempt) => do
      if ← checkUserLocked primitives request attempt.state.userInfo.username then
        pure (.failure .userLocked false)
      else submitAndFinalize primitives request id (.otp code) "otp"

def Entries.stamped (entries : Entries) (state : SsoLoginState) (userInfo : AuthStateUserInfo)
    (now : OffsetDateTime) : Entries :=
  { entries with
    lastSsoAt := some ⟨unixTimestamp now, userInfo.id⟩
    ssoLoginState := some ⟨state, userInfo.id⟩ }

def rejectedCredentialFailure : Handler SsoLoginError := do
  let blocked ← checkIpBlocked primitives request request.remoteIp
  recordFailedLoginAttempt primitives request username "sso"
  pure (if blocked then .ipBlocked else .ssoFailed)

def submitSso (context : SsoContext) (response : SsoResponse)
    (username email : String) (id : UserSessionId) : Handler (Option SsoLoginError) := do
  if ← checkIpBlocked primitives request request.remoteIp then pure (some .ipBlocked)
  else do
    let (valid, attempt) ←
      submitCredential primitives request id (.sso context.provider email)
    if valid then do
      let state : SsoLoginState :=
        ⟨response.idToken, context.provider, context.supportsSingleLogout, some response.subject,
          response.sid⟩
      -- stored before any remaining factor, so that a logout by the provider finds the session
      onSession fun entries =>
        { entries with ssoLoginState := some ⟨state, attempt.state.userInfo.id⟩ }
      match attempt.state.verify with
      | .accepted userInfo => do
        authorizeSession request userInfo attempt.ssoAcceptedAt
        let exchange ← get
        onSession fun entries => entries.stamped state userInfo exchange.world.clock
        clearFailedAttempts primitives request username
        pure none
      | _ => pure none
    else some <$> rejectedCredentialFailure primitives request username

def serveSsoReturn (answer : SsoReturn) : Handler (Option SsoLoginError) := do
  handleForLogin request
  match answer.context with
  | none => pure (some .ssoFailed)
  | some context =>
    match answer.response with
    | none => if context.hasSafeNext then pure (some .ssoFailed) else throw .internal
    | some response =>
      if response.emailVerified = some false then pure (some .ssoFailed)
      else
        match response.email with
        | none => pure (some .ssoFailed)
        | some email => do
          let exchange ← get
          if !exchange.world.config.ssoProviders.any (fun provider =>
              provider.name = context.provider) then pure (some .ssoFailed)
          else
            match usernameForSsoCredential exchange.world context.provider email with
            | none => do
              handleForLogin request
              pure (some .noMatchingUser)
            | some username =>
              match ← getOrCreateAuthState primitives request username none with
              | .error .userNotFound => throw .internal
              | .error .ipAddrNotAllowed => do
                handleForLogin request
                pure (some .accessDenied)
              | .ok id => do
                let error ← submitSso primitives request context response username email id
                if error.isSome || answer.rolesMapped then pure error else throw .internal

def Entries.holds (entries : Entries) (ticket : TicketPresentation) : Bool :=
  match entries.auth, ticket.presented with
  | some (.ticket _ _ (some held)), some presented => held = presented
  | _, _ => false

def presentTicket (ticket : TicketPresentation) : Handler Bool := do
  let exchange ← get
  if exchange.session.holds ticket then pure ticket.redirected
  else
    match ticket.authorization with
    | none => pure false
    | some (userInfo, targetId, ticketId) => do
      onSession fun entries => { entries with auth := some (.ticket userInfo targetId ticketId) }
      pure ticket.redirected

def assertMfaSetupGate (auth : SessionAuthorization) : Handler Unit := do
  if isSessionBootstrapPath request.method request.path then pure ()
  else
    match auth with
    | .ticket _ _ _ => pure ()
    | .user userInfo => do
      let exchange ← get
      if exchange.world.parameters.mfaEnforcement = .off then pure ()
      else if exchange.session.mfaGatePassed.map Mark.value = some true then pure ()
      else if exchange.world.mfaSetupRequired userInfo.id then throw .mfaSetupRequired
      else onSession fun entries => { entries with mfaGatePassed := some ⟨true, userInfo.id⟩ }

def injectRequestAuthorization : Handler (Option SessionAuthorization) := do
  let exchange ← get
  match exchange.session.auth with
  | none => pure none
  | some auth =>
    if request.hostRejected then do
      clear
      pure none
    else if request.cookieIgnored then pure none
    else do
      assertMfaSetupGate request auth
      pure (some auth)

def isSessionStepUpStale (auth : SessionAuthorization) (lastSsoAt : Option OffsetDateTime)
    (interval : Option Duration) (now : OffsetDateTime) : Bool :=
  match interval, auth with
  | some interval, .user _ => !isFresh lastSsoAt interval now
  | _, _ => false

def Entries.stepUpStale (entries : Entries) (auth : SessionAuthorization)
    (interval : Option Duration) (now : OffsetDateTime) : Bool :=
  isSessionStepUpStale auth (entries.lastSsoAt.map fun mark => fromUnixTimestamp mark.value)
    interval now

variable (auth : Option SessionAuthorization)

def innerAuth : Handler (Option SessionAuthorization) := do
  match auth with
  | none => pure none
  | some auth => do
    let exchange ← get
    if exchange.session.stepUpStale auth exchange.world.config.stepUpInterval
        exchange.world.clock then do
      endLogin request
      clear
      pure none
    else pure (some auth)

def stampTargetSessionIdentity : Handler Unit := do
  let exchange ← get
  match exchange.session.sessionId.bind (exchange.world.handles request.node) with
  | none => throw .internal
  | some none => do
    let attributed ← setUserInfo request userInfo
    if attributed then pure () else throw .internal
  | some (some attributed) => if attributed = userInfo then pure () else throw .internal

def catchall (auth : SessionAuthorization) (hasTarget : Bool) : Handler Response := do
  if hasTarget then do
    handleForRequest request .unauthorized
    stampTargetSessionIdentity request auth.userInfo
    let exchange ← get
    if (exchange.session.sessionId.bind exchange.world.userSessions).all UserSession.ended then do
      -- revoked in the meantime
      purge
      throw .unauthorized
    else pure .proxied
  else pure .targetSelection

def localLogoutDisabled (exchange : Exchange) : Bool :=
  exchange.session.ssoLoginState.any fun mark =>
    mark.value.supportsSingleLogout &&
      exchange.world.config.ssoProviders.any fun provider =>
        provider.name = mark.value.provider && provider.disableLocalLogout

def logout : Handler Response := do
  let exchange ← get
  if localLogoutDisabled exchange then pure .localLogoutDisabled
  else do
    endLogin request
    purge
    pure .loggedOut

def endpointAuth (endpoint : AuthStateUserInfo → Handler Response) : Handler Response := do
  match ← innerAuth request auth with
  | some (.user userInfo) => endpoint userInfo
  -- a ticket does not reach the functions of its user
  | some (.ticket _ _ _) => pure .unauthorized
  | none => throw .unauthorized

def createOtp (secretKey : List UInt8) (userInfo : AuthStateUserInfo) : Handler Response := do
  let exchange ← get
  if (exchange.world.protection.users.find? userInfo.id).isNone then pure .unauthorized
  else if !exchange.world.parameters.allowOwnCredentialManagement &&
      !exchange.world.mfaSetupRequired userInfo.id then pure .forbidden
  else do
    let inserted :=
      exchange.world.otpCredentials.insert ⟨exchange.world.uuids 0, userInfo.id, secretKey⟩
    onWorld fun world => { world with uuids := fun index => world.uuids (index + 1) }
    if inserted.1 then do
      onWorld fun world => { world with otpCredentials := inserted.2 }
      pure .otpCreated
    else throw .internal

def deleteOtp (id : Uuid) (userInfo : AuthStateUserInfo) : Handler Response := do
  let exchange ← get
  let own := exchange.world.otpCredentials.select fun row => row.userId = userInfo.id
  if (exchange.world.protection.users.find? userInfo.id).isNone then pure .unauthorized
  else if !own.any (fun row => row.id = id) then pure .notFound
  else if exchange.world.effectiveMfaEnforcement userInfo.id ≠ .off && own.length ≤ 1 then
    pure .forbidden
  else do
    onWorld fun world =>
      { world with
        otpCredentials := world.otpCredentials.delete fun row =>
          row.userId = userInfo.id && row.id = id }
    pure .otpDeleted

def serveRoute : Handler Response :=
  match request.route with
  | .login username password => .login <$> serveLogin primitives request username password
  | .otp code => .login <$> serveOtpLogin primitives request code
  | .ssoReturn answer => .ssoReturned <$> serveSsoReturn primitives request answer
  | .logout => logout request
  | .page hasTarget => do
    match ← innerAuth request auth with
    | none => pure .loginPage
    | some auth => catchall request auth hasTarget
  | .api => endpointAuth request auth fun _ => pure .served
  | .createOtp secretKey => endpointAuth request auth (createOtp secretKey)
  | .deleteOtp id => do
    let exchange ← get
    -- `parameters_based_auth`
    if !exchange.world.parameters.allowOwnCredentialManagement then pure .forbidden
    else endpointAuth request auth (deleteOtp id)

def callTicketMiddleware : Handler Bool :=
  match request.ticket with
  | none => pure false
  | some ticket => presentTicket ticket

def serveRequest : Handler Response := do
  if ← callTicketMiddleware request then pure .cleanAddress
  else do
    let auth ← injectRequestAuthorization request
    serveRoute primitives request auth

def World.begin (world : World) (request : Request) : Exchange :=
  ⟨world, world.browsers request.browser, false⟩

def Exchange.stored (exchange : Exchange) (browser : BrowserId) : World :=
  exchange.world.setBrowser browser (if exchange.purged then .empty else exchange.session)

def World.serve (world : World) (request : Request) : Except Fault Response × World :=
  if world.protection.reachable then
    match (serveRequest primitives request).run (world.begin request) with
    | .ok response exchange => (.ok response, exchange.stored request.browser)
    | .error fault exchange => (.error fault, exchange.world)
  else (.error .internal, world)

end

open Option World Entries

/-! ### Sound sessions -/

def World.Attributed (world : World) (entries : Entries) (user : Uuid) : Prop :=
  ∃ id row, entries.sessionId = some id ∧ world.userSessions id = some row ∧
    row.userId = some user

variable {entries : Entries} {pre post : World}

theorem World.Attributed.unique {w : World} {first second : Uuid}
    (left : w.Attributed entries first) (right : w.Attributed entries second) : first = second := by
  obtain ⟨id, r, names, found, user⟩ := left
  obtain ⟨id', row', names', found', user'⟩ := right
  rw [names] at names'
  cases names'
  rw [found] at found'
  cases found'
  rw [user] at user'
  cases user'
  rfl

def Entries.writers (entries : Entries) : List Uuid :=
  (entries.lastSsoAt.map Mark.writer).toList ++ (entries.authTime.map Mark.writer).toList ++
    (entries.mfaGatePassed.map Mark.writer).toList

structure Entries.Sound (world : World) (entries : Entries) : Prop where
  marked : ∀ user ∈ entries.writers, entries.auth.isSome = true ∧ world.Attributed entries user
  claimed : ∀ userInfo, entries.auth = some (.user userInfo) →
    world.Attributed entries userInfo.id

structure World.Sound (world : World) : Prop where
  handles : ∀ node id userInfo, world.handles node id = some (some userInfo) →
    ∃ row, world.userSessions id = some row ∧ row.userId = some userInfo.id
  attached : ∀ node id handle, world.handles node id = some handle →
    (world.userSessions id).isSome = true
  attempted : ∀ node id attempt, world.attempts node id = some attempt →
    (world.userSessions id).isSome = true
  browsers : ∀ browser, (world.browsers browser).Sound world

structure Exchange.Sound (exchange : Exchange) : Prop where
  world : exchange.world.Sound
  session : exchange.session.Sound exchange.world

theorem Entries.sound_empty (w : World) : empty.Sound w where
  marked := by
    intro user isIn
    cases isIn
  claimed := by
    intro info claims
    cases claims

theorem Entries.Sound.writers_eq_nil {w : World} (sound : entries.Sound w)
    (unclaimed : entries.auth = none ∨ entries.sessionId = none) : entries.writers = [] := by
  refine List.eq_nil_iff_forall_not_mem.mpr fun user isIn => ?_
  obtain ⟨hasAuth, id, r, names, -⟩ := sound.marked user isIn
  rcases unclaimed with noAuth | noSession
  · rw [noAuth] at hasAuth
    cases hasAuth
  · rw [noSession] at names
    cases names

/-- No user session goes, and none that has a user gets another. -/
def World.Grows (before after : World) : Prop :=
  ∀ id row, before.userSessions id = some row →
    ∃ later, after.userSessions id = some later ∧
      ∀ user, row.userId = some user → later.userId = some user

theorem World.Grows.of_eq (same : post.userSessions = pre.userSessions) : pre.Grows post := by
  intro id r found
  exact ⟨r, by rw [same, found], fun _ attr => attr⟩

theorem World.Grows.isSome (grows : pre.Grows post) {id : UserSessionId}
    (known : (pre.userSessions id).isSome = true) : (post.userSessions id).isSome = true := by
  obtain ⟨r, found⟩ := isSome_iff_exists.mp known
  obtain ⟨later, found', -⟩ := grows id r found
  rw [found']
  rfl

variable {user : Uuid}

theorem World.Grows.attributed (grows : pre.Grows post)
    (attr : pre.Attributed entries user) : post.Attributed entries user := by
  obtain ⟨id, r, names, found, isUser⟩ := attr
  obtain ⟨later, found', keeps⟩ := grows id r found
  exact ⟨id, later, names, found', keeps user isUser⟩

theorem Entries.Sound.grow (sound : entries.Sound pre) (grows : pre.Grows post) :
    entries.Sound post where
  marked := fun user isIn =>
    ⟨(sound.marked user isIn).1, grows.attributed (sound.marked user isIn).2⟩
  claimed := fun info claims => grows.attributed (sound.claimed info claims)

theorem World.Sound.grow (sound : pre.Sound) (grows : pre.Grows post)
    (browsers : post.browsers = pre.browsers)
    (handles : ∀ node id handle, post.handles node id = some handle →
      pre.handles node id = some handle ∨ ∃ r, post.userSessions id = some r ∧
          ∀ info, handle = some info → r.userId = some info.id)
    (atts : ∀ node id att, post.attempts node id = some att →
      (∃ prev, pre.attempts node id = some prev) ∨
        (post.userSessions id).isSome = true) : post.Sound where
  handles := by
    intro node id info held
    rcases handles node id (some info) held with prev | ⟨r, found, attr⟩
    · obtain ⟨r, found, isUser⟩ := sound.handles node id info prev
      obtain ⟨later, found', keeps⟩ := grows id r found
      exact ⟨later, found', keeps _ isUser⟩
    · exact ⟨r, found, attr info rfl⟩
  attached := by
    intro node id handle held
    rcases handles node id handle held with prev | ⟨r, found, -⟩
    · exact grows.isSome (sound.attached node id handle prev)
    · rw [found]
      rfl
  attempted := by
    intro node id att held
    rcases atts node id att held with ⟨prev, was⟩ | known
    · exact grows.isSome (sound.attempted node id prev was)
    · exact known
  browsers := by
    intro br
    rw [browsers]
    exact (sound.browsers br).grow grows

section Update

variable (w : World) (node : NodeId) (id : UserSessionId) {otherNode : NodeId}
  {otherId : UserSessionId}

theorem update_eq_some {Held : Type} {table : NodeId → UserSessionId → Option Held}
    {stored : Option Held} {held : Held}
    (found : Function.update table node (Function.update (table node) id stored) otherNode otherId =
      some held) : table otherNode otherId = some held ∨ otherId = id ∧ stored = some held := by
  by_cases sameNode : otherNode = node
  · subst sameNode
    by_cases sameId : otherId = id
    · subst sameId
      exact .inr ⟨rfl, by simpa using found⟩
    · exact .inl (by simpa [sameId] using found)
  · exact .inl (by simpa [sameNode] using found)

theorem World.handles_setHandle {handle : Option (Option AuthStateUserInfo)}
    {held : Option AuthStateUserInfo}
    (found : (w.setHandle node id handle).handles otherNode otherId = some held) :
    w.handles otherNode otherId = some held ∨ otherId = id ∧ handle = some held :=
  update_eq_some node id found

theorem World.attempts_setAttempt {att : Option Attempt} {held : Attempt}
    (found : (w.setAttempt node id att).attempts otherNode otherId = some held) :
    w.attempts otherNode otherId = some held ∨ otherId = id ∧ att = some held :=
  update_eq_some node id found

theorem World.grows_setUserSession (r : UserSession)
    (keeps : ∀ prev user, w.userSessions id = some prev → prev.userId = some user →
      r.userId = some user) : w.Grows (w.setUserSession id r) := by
  intro otherId prev found
  by_cases same : otherId = id
  · subst same
    exact ⟨r, by simp [setUserSession], fun user isUser => keeps prev user found isUser⟩
  · exact ⟨prev, by simpa [setUserSession, same] using found, fun _ isUser => isUser⟩

theorem World.grows_endSession : w.Grows (w.endSession id) := by
  unfold endSession
  split
  · exact .of_eq rfl
  · next r found =>
    refine w.grows_setUserSession id _ fun prev user was isUser => ?_
    rw [found] at was
    cases was
    exact isUser

end Update

/-! ### What a request can do -/

def Route.isSso : Route → Bool
  | .ssoReturn _ => true
  | _ => false

def Route.logsIn : Route → Bool
  | .login _ _ | .otp _ | .ssoReturn _ => true
  | _ => false

def World.loginName (world : World) (request : Request) : Option String :=
  match request.route with
  | .login username _ => some username
  | .ssoReturn answer =>
    answer.context.bind fun context => answer.response.bind fun response =>
      response.email.bind fun email => usernameForSsoCredential world context.provider email
  | _ => none

inductive World.WorksOn (primitives : Primitives) (world : World) (request : Request) :
    Attempt → Prop
  | current {id : UserSessionId} {attempt : Attempt} (logsIn : request.route.logsIn = true)
      (names : (world.browsers request.browser).sessionId = some id)
      (held : world.attempts request.node id = some attempt)
      (reusable : ∀ username, world.loginName request = some username →
        attempt.reusable primitives username = true) : WorksOn primitives world request attempt
  | fresh {attempt : Attempt} {username : String}
      (named : world.loginName request = some username)
      (found : world.protection.users.rows.find? (fun user =>
        usernameEqCi primitives user.username username) = some attempt.state.userInfo)
      (unsubmitted : attempt.state.validCredentials = [])
      (unaccepted : attempt.ssoAcceptedAt = none) : WorksOn primitives world request attempt

namespace Exchange

def recordedAs : AuthCredential → Auth.StoredCredentialKind
  | .password _ => .password
  | .otp _ => .totp
  | .sso _ _ => .sso

def withProtection (exchange : Exchange) (protection : LoginProtection.World) : Exchange :=
  { exchange with world := { exchange.world with protection := protection } }

/-- All that a handler can do to the world and the session. -/
inductive Step (request : Request) (origin : Option Attempt) : Exchange → Exchange → Prop
  | guarded {before : Exchange} (protection : LoginProtection.World)
      (clock : protection.clock = before.world.protection.clock)
      (users : protection.users = before.world.protection.users) :
      Step request origin before (before.withProtection protection)
  | drew {before : Exchange} (uuids : Nat → Uuid) :
      Step request origin before { before with world := { before.world with uuids := uuids } }
  | created {before : Exchange} (id : UserSessionId)
      (free : before.world.userSessions id = none)
      (unclaimed : before.session.auth = none ∨ before.session.sessionId = none) :
      Step request origin before
        { before with
          world := (before.world.setUserSession id ⟨none, false, none, .http⟩).setHandle
            request.node id (some none)
          session := { before.session with sessionId := some id } }
  | attached {before : Exchange} (id : UserSessionId)
      (known : (before.world.userSessions id).isSome = true) :
      Step request origin before
        { before with world := before.world.setHandle request.node id (some none) }
  | attributed {before : Exchange} (id : UserSessionId) (row : UserSession)
      (userInfo : AuthStateUserInfo) (found : before.world.userSessions id = some row)
      (free : row.userId = none ∨ row.userId = some userInfo.id) :
      Step request origin before
        { before with
          world := (before.world.setUserSession id
            { row with userId := some userInfo.id }).setHandle request.node id
              (some (some userInfo)) }
  | ended {before : Exchange} (id : UserSessionId) :
      Step request origin before
        { before with world := (before.world.endSession id).setHandle request.node id none }
  | started {before : Exchange} (id : UserSessionId) (attempt : Attempt)
      (works : origin = some attempt)
      (known : (before.world.userSessions id).isSome = true)
      (unaccepted : attempt.ssoAcceptedAt = none) :
      Step request origin before
        { before with world := before.world.setAttempt request.node id (some attempt) }
  | submitted {before : Exchange} (id : UserSessionId) (attempt : Attempt)
      (works : origin = some attempt) (credential : AuthCredential)
      (validated : Option StoredCredential) (now : OffsetDateTime)
      (held : before.world.attempts request.node id = some attempt)
      (kind : ∀ stored, validated = some stored → stored.kind = recordedAs credential) :
      Step request origin before
        { before with
          world := before.world.setAttempt request.node id
            (some (attempt.submitted credential validated now)) }
  | otpCreated {before : Exchange} (credential : OtpCredential) :
      Step request origin before
        { before with
          world := { before.world with
            otpCredentials := (before.world.otpCredentials.insert credential).2 } }
  | otpDeleted {before : Exchange} (id user : Uuid)
      (spared : before.world.effectiveMfaEnforcement user = .off ∨
        1 < (before.world.otpCredentials.select fun row => row.userId = user).length) :
      Step request origin before
        { before with
          world := { before.world with
            otpCredentials := before.world.otpCredentials.delete fun row =>
              row.userId = user && row.id = id } }
  | cleared {before : Exchange} :
      Step request origin before { before with session := .empty }
  | purged {before : Exchange} :
      Step request origin before { before with session := .empty, purged := true }
  | authorized {before : Exchange} (attempt : Attempt) (works : origin = some attempt)
      (other : request.route.isSso = false)
      (attributed : before.world.Attributed before.session attempt.state.userInfo.id) :
      Step request origin before
        { before with
          session := before.session.authorized attempt.state.userInfo attempt.ssoAcceptedAt
            before.world.clock }
  | ssoAuthorized {before : Exchange} (attempt : Attempt) (state : SsoLoginState)
      (works : origin = some attempt) (sso : request.route.isSso = true)
      (attributed : before.world.Attributed before.session attempt.state.userInfo.id) :
      Step request origin before
        { before with
          session := (before.session.authorized attempt.state.userInfo (some before.world.clock)
            before.world.clock).stamped state attempt.state.userInfo before.world.clock }
  | remembered {before : Exchange} (attempt : Attempt) (state : SsoLoginState)
      (works : origin = some attempt) (sso : request.route.isSso = true) :
      Step request origin before
        { before with
          session := { before.session with
            ssoLoginState := some ⟨state, attempt.state.userInfo.id⟩ } }
  | ticketed {before : Exchange} (userInfo : AuthStateUserInfo) (targetId : Uuid)
      (ticketId : Option Uuid) :
      Step request origin before
        { before with
          session := { before.session with auth := some (.ticket userInfo targetId ticketId) } }
  | enrolled {before : Exchange} (userInfo : AuthStateUserInfo)
      (claims : before.session.auth = some (.user userInfo))
      (unneeded : before.world.mfaSetupRequired userInfo.id = false) :
      Step request origin before
        { before with
          session := { before.session with mfaGatePassed := some ⟨true, userInfo.id⟩ } }

variable {info : AuthStateUserInfo} {now : OffsetDateTime} {req : Request}
  {origin : Option Attempt} {pre post : Exchange} {id : UserSessionId}

theorem mem_writers_authorized {ssoAcceptedAt : Option OffsetDateTime}
    (isIn : user ∈ (entries.authorized info ssoAcceptedAt now).writers) :
    user ∈ entries.writers ∨ user = info.id := by
  grind [writers, authorized]

theorem mem_writers_stamped {s : SsoLoginState}
    (isIn : user ∈ (entries.stamped s info now).writers) :
    user ∈ entries.writers ∨ user = info.id := by
  simp only [writers, stamped, map_some, toList_some, List.mem_append, List.mem_singleton] at isIn ⊢
  tauto

theorem sound_authorized {w : World} (sound : entries.Sound w)
    (attr : w.Attributed entries info.id) (ssoAcceptedAt : Option OffsetDateTime)
    (now : OffsetDateTime) : (entries.authorized info ssoAcceptedAt now).Sound w where
  marked := by
    intro user isIn
    rcases mem_writers_authorized isIn with prev | same
    · exact ⟨rfl, (sound.marked user prev).2⟩
    · rw [same]
      exact ⟨rfl, attr⟩
  claimed := by
    intro other claims
    cases claims
    exact attr

theorem sound_stamped {w : World} (sound : entries.Sound w)
    (claims : entries.auth = some (.user info)) (s : SsoLoginState) (now : OffsetDateTime) :
    (entries.stamped s info now).Sound w where
  marked := by
    intro user isIn
    rcases mem_writers_stamped isIn with prev | same
    · exact sound.marked user prev
    · rw [same]
      refine ⟨?_, sound.claimed info claims⟩
      show entries.auth.isSome = true
      rw [claims]
      rfl
  claimed := sound.claimed

theorem Step.sound (step : Step req origin pre post) (sound : pre.Sound) : post.Sound := by
  have grown : ∀ {w : World}, pre.world.Grows w → w.Sound →
      ({ pre with world := w } : Exchange).Sound := fun grows sound' =>
    ⟨sound', sound.session.grow grows⟩
  cases step with
  | guarded prot clock users | drew uuids | otpCreated cred | otpDeleted id user spared =>
    exact grown (.of_eq rfl) (sound.world.grow (.of_eq rfl) rfl
      (fun _ _ _ held => .inl held) fun _ _ att held => .inl ⟨att, held⟩)
  | created id free unclaimed =>
    have grows := pre.world.grows_setUserSession id ⟨none, false, none, .http⟩
      fun prev user was _ => by
        rw [free] at was
        cases was
    refine ⟨sound.world.grow grows rfl (fun node otherId handle held => ?_)
      fun _ _ att held => .inl ⟨att, held⟩, ?_, ?_⟩
    · rcases (pre.world.setUserSession id _).handles_setHandle req.node id held with
        prev | ⟨same, isHandle⟩
      · exact .inl prev
      · cases isHandle
        refine .inr ⟨⟨none, false, none, .http⟩, ?_, fun _ absent => by cases absent⟩
        rw [same]
        simp [setUserSession, setHandle]
    · intro user isIn
      have isIn : user ∈ pre.session.writers := isIn
      rw [sound.session.writers_eq_nil unclaimed] at isIn
      cases isIn
    · intro info claims
      rcases unclaimed with noAuth | noSession
      · rw [noAuth] at claims
        cases claims
      · obtain ⟨_, _, names, _⟩ := sound.session.claimed info claims
        rw [noSession] at names
        cases names
  | attached id known =>
    refine grown (.of_eq rfl)
      (sound.world.grow (.of_eq rfl) rfl (fun node otherId handle held => ?_)
      fun _ _ att held => .inl ⟨att, held⟩)
    rcases pre.world.handles_setHandle req.node id held with prev | ⟨same, isHandle⟩
    · exact .inl prev
    · obtain ⟨r, found⟩ := isSome_iff_exists.mp known
      cases isHandle
      exact .inr ⟨r, same ▸ found, fun _ absent => by cases absent⟩
  | attributed id r info found free =>
    have grows := pre.world.grows_setUserSession id
      { r with userId := some info.id } fun prev user was isUser => by grind
    refine grown grows (sound.world.grow grows rfl (fun node otherId handle held => ?_)
      fun _ _ att held => .inl ⟨att, held⟩)
    rcases (pre.world.setUserSession id _).handles_setHandle req.node id held with
      prev | ⟨same, isHandle⟩
    · exact .inl prev
    · cases isHandle
      refine .inr ⟨{ r with userId := some info.id }, ?_, fun other isOther => ?_⟩
      · rw [same]
        simp [setUserSession, setHandle]
      · cases isOther
        rfl
  | ended id =>
    have grows := pre.world.grows_endSession id
    have sameHandles : (pre.world.endSession id).handles = pre.world.handles := by
      unfold endSession
      split
      · rfl
      · rfl
    have sameAttempts : (pre.world.endSession id).attempts = pre.world.attempts := by
      unfold endSession
      split
      · rfl
      · rfl
    have sameBrowsers : (pre.world.endSession id).browsers = pre.world.browsers := by
      unfold endSession
      split
      · rfl
      · rfl
    refine grown grows (sound.world.grow grows sameBrowsers (fun node otherId handle held => ?_)
      fun node otherId att held => .inl ⟨att, sameAttempts ▸ held⟩)
    rcases (pre.world.endSession id).handles_setHandle req.node id held with
      prev | ⟨-, isHandle⟩
    · exact .inl (sameHandles ▸ prev)
    · cases isHandle
  | started id att works known unaccepted =>
    refine grown (.of_eq rfl) (sound.world.grow (.of_eq rfl) rfl (fun _ _ _ held => .inl held)
      fun node otherId other held => ?_)
    rcases pre.world.attempts_setAttempt req.node id held with prev | ⟨same, -⟩
    · exact .inl ⟨other, prev⟩
    · exact .inr (same ▸ known)
  | submitted id att works cred validated now held kind =>
    refine grown (.of_eq rfl) (sound.world.grow (.of_eq rfl) rfl (fun _ _ _ held => .inl held)
      fun node otherId other isHeld => ?_)
    rcases pre.world.attempts_setAttempt req.node id isHeld with prev | ⟨same, -⟩
    · exact .inl ⟨other, prev⟩
    · exact .inr (same ▸ sound.world.attempted req.node id att held)
  | cleared | purged => exact ⟨sound.world, sound_empty _⟩
  | authorized att works other attr => exact ⟨sound.world, sound_authorized sound.session attr _ _⟩
  | ssoAuthorized att s works sso attr =>
    exact ⟨sound.world, sound_stamped (sound_authorized sound.session attr _ _) rfl _ _⟩
  | remembered att s works sso => exact ⟨sound.world, sound.session.marked, sound.session.claimed⟩
  | ticketed info tgt tid =>
    refine ⟨sound.world, fun user isIn => ⟨rfl, (sound.session.marked user isIn).2⟩, ?_⟩
    intro other claims
    cases claims
  | enrolled info claims unneeded =>
    refine ⟨sound.world, fun user isIn => ?_, sound.session.claimed⟩
    have isWriter : user ∈ pre.session.writers ∨ user = info.id := by grind [writers]
    rcases isWriter with prev | same
    · exact sound.session.marked user prev
    · rw [same]
      refine ⟨?_, sound.session.claimed info claims⟩
      rw [claims]
      rfl

theorem endSession_eq (w : World) (id : UserSessionId) :
    ∃ userSessions, w.endSession id = { w with userSessions := userSessions } := by
  unfold endSession
  split
  · exact ⟨w.userSessions, rfl⟩
  · exact ⟨_, rfl⟩

def fixed (exchange : Exchange) :
    OffsetDateTime × Sql.Table AuthStateUserInfo AuthStateUserInfo.id ×
      Sql.Table SsoCredential SsoCredential.id × Parameters × Config × (BrowserId → Entries) :=
  (exchange.world.clock, exchange.world.protection.users, exchange.world.ssoCredentials,
    exchange.world.parameters, exchange.world.config, exchange.world.browsers)

theorem Step.fixed_eq (step : Step req origin pre post) : post.fixed = pre.fixed := by
  cases step with
  | guarded prot clock users => simp [fixed, withProtection, World.clock, clock, users]
  | ended id =>
    obtain ⟨userSessions, same⟩ := endSession_eq pre.world id
    rw [same]
    rfl
  | _ => rfl

theorem Step.attempts_eq (step : Step req none pre post) :
    post.world.attempts = pre.world.attempts := by
  cases step with
  | started id att works | submitted id att works => cases works
  | ended id =>
    obtain ⟨userSessions, same⟩ := endSession_eq pre.world id
    rw [same]
    rfl
  | _ => rfl

theorem Step.grows (step : Step req origin pre post) : pre.world.Grows post.world := by
  cases step with
  | created id free unclaimed =>
    refine pre.world.grows_setUserSession id _ fun prev user was _ => ?_
    rw [free] at was
    cases was
  | attributed id r info found free =>
    refine pre.world.grows_setUserSession id _ fun prev user was isUser => ?_
    rw [found] at was
    cases was
    rcases free with absent | same
    · rw [absent] at isUser
      cases isUser
    · exact same ▸ isUser
  | ended id => exact pre.world.grows_endSession id
  | _ => exact .of_eq rfl

theorem Step.session_of (step : Step req origin pre post)
    (names : post.session.sessionId = some id) :
    pre.session.sessionId = some id ∨ pre.world.userSessions id = none := by
  cases step with
  | created id' free unclaimed =>
    cases names
    exact .inr free
  | cleared | purged => cases names
  | _ => exact .inl names

theorem Step.toSome (step : Step req none pre post) (att : Attempt) :
    Step req (some att) pre post := by
  cases step with
  | guarded prot clock users => exact .guarded prot clock users
  | drew uuids => exact .drew uuids
  | created id free unclaimed => exact .created id free unclaimed
  | attached id known => exact .attached id known
  | attributed id r info found free => exact .attributed id r info found free
  | ended id => exact .ended id
  | started id att works | submitted id att works | authorized att works
  | ssoAuthorized att s works | remembered att s works => cases works
  | otpCreated cred => exact .otpCreated cred
  | otpDeleted id user spared => exact .otpDeleted id user spared
  | cleared => exact .cleared
  | purged => exact .purged
  | ticketed info tgt tid => exact .ticketed info tgt tid
  | enrolled info claims unneeded => exact .enrolled info claims unneeded

abbrev Trace (request : Request) (origin : Option Attempt) : Exchange → Exchange → Prop :=
  Relation.ReflTransGen (Step request origin)

section

variable (trace : Trace req origin pre post)
include trace

theorem Trace.keeps (kept : Exchange → Prop)
    (keeps : ∀ prev later, Step req origin prev later → kept prev → kept later)
    (holds : kept pre) : kept post := by
  induction trace with
  | refl => exact holds
  | tail _ step ih => exact keeps _ _ step ih

theorem Trace.sound (sound : pre.Sound) : post.Sound :=
  trace.keeps Exchange.Sound (fun _ _ step => step.sound) sound

theorem Trace.fixed_eq : post.fixed = pre.fixed := by
  induction trace with
  | refl => rfl
  | tail _ step ih => exact step.fixed_eq.trans ih

theorem Trace.clock_eq : post.world.clock = pre.world.clock :=
  congrArg Prod.fst trace.fixed_eq

theorem Trace.users_eq : post.world.protection.users = pre.world.protection.users :=
  congrArg (·.2.1) trace.fixed_eq

theorem Trace.ssoCredentials_eq : post.world.ssoCredentials = pre.world.ssoCredentials :=
  congrArg (·.2.2.1) trace.fixed_eq

end

theorem Trace.toSome (trace : Trace req none pre post) (att : Attempt) :
    Trace req (some att) pre post := by
  induction trace with
  | refl => exact .refl
  | tail _ step ih => exact ih.tail (step.toSome att)

theorem Trace.attempts_eq (trace : Trace req none pre post) :
    post.world.attempts = pre.world.attempts := by
  induction trace with
  | refl => rfl
  | tail _ step ih => exact step.attempts_eq.trans ih

theorem Trace.session_of (trace : Trace req origin pre post)
    (names : post.session.sessionId = some id) :
    pre.session.sessionId = some id ∨ pre.world.userSessions id = none := by
  induction trace using Relation.ReflTransGen.head_induction_on with
  | refl => exact .inl names
  | head step _ ih =>
    rcases ih with same | free
    · exact step.session_of same
    · refine .inr (eq_none_iff_forall_not_mem.mpr fun r found => ?_)
      obtain ⟨later, found', -⟩ := step.grows id r found
      rw [free] at found'
      cases found'

theorem Trace.held_before (trace : Trace req none pre post) (sound : pre.Sound)
    {att : Attempt} (names : post.session.sessionId = some id)
    (held : post.world.attempts req.node id = some att) :
    pre.session.sessionId = some id ∧ pre.world.attempts req.node id = some att := by
  rw [trace.attempts_eq] at held
  refine ⟨(trace.session_of names).resolve_right fun free => ?_, held⟩
  have known := sound.world.attempted req.node id att held
  rw [free] at known
  cases known

end Exchange

end Warpgate.Browser
