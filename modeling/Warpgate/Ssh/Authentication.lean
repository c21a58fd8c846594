/-
This file is about what a client learns over SSH while its address is blocked or its user locked.
-/

import Warpgate.Browser.Login
import Warpgate.LoginProtection.Lockout

namespace Warpgate.Ssh.Authentication

open Auth (AuthResult AuthState AuthStateUserInfo CredentialKind IpAddr)
open Browser (PasswordCredential OtpCredential firstById)

def splitOnce (separator : Char) (text : String) : String × String :=
  let before := text.toList.takeWhile (· ≠ separator)
  (String.ofList before, String.ofList (text.toList.drop (before.length + 1)))

/-! ### Requests -/

inductive AuthSelector
  | user (username targetName : String)
  | ticket (secret : String)
  deriving DecidableEq, Repr

def AuthSelector.of (text : String) : AuthSelector :=
  match Http.stripStart "ticket-" text with
  | some secret => .ticket secret
  | none =>
    let separator := if text.toList.contains '#' then '#' else ':'
    let (username, targetName) := splitOnce separator text
    .user username targetName

structure PublicKey where
  algorithm : String
  bytes : List UInt8
  deriving DecidableEq, Repr

inductive AuthRequest
  | publickeyOffer (sshUsername : String) (key : PublicKey)
  | publickey (sshUsername : String) (key : PublicKey)
  | password (sshUsername password : String)
  | keyboardInteractive (sshUsername : String) (responses : List String)
  deriving DecidableEq, Repr

def AuthRequest.sshUsername : AuthRequest → String
  | publickeyOffer sshUsername _ | publickey sshUsername _ => sshUsername
  | password sshUsername _ | keyboardInteractive sshUsername _ => sshUsername

inductive AuthCredential
  | publicKey (key : PublicKey)
  | password (secret : String)
  | otp (code : String)
  deriving DecidableEq, Repr

inductive MethodKind
  | publicKey
  | password
  | keyboardInteractive
  deriving DecidableEq, Repr

inductive Reply
  | accept
  | reject (proceedWithMethods : Option (List MethodKind)) (partialSuccess : Bool)
  | continued (name instructions : String) (prompts : List (String × Bool))
  | unsupportedMethod
  deriving DecidableEq, Repr

def Reply.rejected : Reply := .reject none false

structure PublicKeyCredential where
  id : Uuid
  userId : Uuid
  opensshPublicKey : String
  deriving DecidableEq, Repr

structure Credentials where
  publicKeys : Sql.Table PublicKeyCredential PublicKeyCredential.id
  passwords : Sql.Table PasswordCredential PasswordCredential.id
  otps : Sql.Table OtpCredential OtpCredential.id

structure World where
  protection : LoginProtection.World
  credentials : Credentials

structure PendingKeyboardInteractiveAuth where
  otpPromptSent : Bool
  webApprovalWait : Option String
  deriving DecidableEq, Repr

namespace PendingKeyboardInteractiveAuth

def fresh : PendingKeyboardInteractiveAuth := ⟨false, none⟩

def carryForward (previous : PendingKeyboardInteractiveAuth) : PendingKeyboardInteractiveAuth :=
  { previous with otpPromptSent := false }

end PendingKeyboardInteractiveAuth

inductive ProbeState
  | noAttempt
  | probe (username method : String)
  | settled
  deriving DecidableEq, Repr

/-! ### Connections -/

structure Connection where
  node : NodeId
  remoteIp : IpAddr
  allowedAuthMethods : List MethodKind
  probe : ProbeState
  keyboardInteractiveState : Option PendingKeyboardInteractiveAuth
  cachedSuccessfulTicketAuth : Option (String × AuthStateUserInfo)
  authState : Option (AuthState × String)
  userInfo : Option AuthStateUserInfo

structure Exchange where
  world : World
  connection : Connection

inductive Fault
  | failed
  deriving DecidableEq, Repr

abbrev Handler (Result : Type) := Handlers.Handler Exchange Fault Result

def onConnection (change : Connection → Connection) : Handler Unit :=
  modify fun exchange => { exchange with connection := change exchange.connection }

structure Round where
  name : String
  instructions : String
  prompts : List (String × Bool)
  pending : PendingKeyboardInteractiveAuth
  deriving DecidableEq, Repr

structure Continuations where
  authenticate : String → String → Option AuthCredential → Handler AuthResult
  redeem : String → Handler AuthResult
  webApprovalRound : AuthSelector → Finset CredentialKind → Round → Handler (Reply ⊕ Round)

structure Primitives extends protecting : LoginProtection.Primitives where
  base64 : List UInt8 → String

variable (primitives : Primitives)

def Primitives.openssh (key : PublicKey) : String :=
  key.algorithm ++ " " ++ primitives.base64 key.bytes

section Handlers

variable (primitives : Primitives)

def protect {Result : Type} (program : LoginProtection.Action Result) : Handler Result := do
  let exchange ← get
  let outcome := exchange.world.protection.call primitives.protecting program
  modify fun exchange => { exchange with world.protection := outcome.2 }
  pure outcome.1

def recordFailedLoginAttempt (username credentialType : String) : Handler Unit := do
  onConnection fun connection => { connection with probe := .settled }
  let exchange ← get
  let _ ← protect primitives (LoginProtection.recordFailedAttempt exchange.connection.node
    ⟨username, exchange.connection.remoteIp, .ssh, credentialType⟩)

def noteProbe (selector : AuthSelector) (method : String) : Handler Unit :=
  match selector with
  | .ticket _ => pure ()
  | .user username _ =>
    onConnection fun connection =>
      if connection.probe = .settled then connection
      else { connection with probe := .probe username method }

def settleFailedProbe : Handler Unit := do
  let exchange ← get
  if exchange.connection.userInfo.isSome then pure ()
  else
    match exchange.connection.probe with
    | .probe username method => recordFailedLoginAttempt primitives username method
    | _ => pure ()

def pushMethod (methods : List MethodKind) (method : MethodKind) : List MethodKind :=
  methods.filter (· ≠ method) ++ [method]

def methodFor : CredentialKind → Option MethodKind
  | .password => some .password
  | .totp | .webUserApproval | .sso => some .keyboardInteractive
  | .publicKey => some .publicKey
  | .certificate => none

def getRemainingAuthMethods (connection : Connection) (kinds : Finset CredentialKind) :
    List MethodKind :=
  let methods := ([.password, .publicKey, .totp, .sso, .webUserApproval].filter (· ∈ kinds)).foldl
    (fun methods kind =>
      match (methodFor kind).filter (· ∈ connection.allowedAuthMethods) with
      | some method => pushMethod methods method
      | none => methods)
    []
  if .keyboardInteractive ∈ methods then pushMethod methods .keyboardInteractive else methods

def validatePublicKey (username : String) (key : PublicKey) : Handler Bool := do
  let exchange ← get
  if !exchange.world.protection.reachable then throw .failed
  else
    match exchange.world.protection.findUser primitives.protecting username with
    | none => pure false
    | some user =>
      pure (firstById PublicKeyCredential.id
        (exchange.world.credentials.publicKeys.select fun row => row.userId = user.id)
        fun row => row.opensshPublicKey = primitives.openssh key).isSome

def tryValidatePublicKeyOffer (selector : AuthSelector) (key : PublicKey) : Handler Bool :=
  match selector with
  | .user username _ => validatePublicKey primitives username key
  | .ticket _ => pure false

variable (continuations : Continuations)

def tryAuthEager (selector : AuthSelector) (credential : Option AuthCredential) :
    Handler AuthResult := do
  let exchange ← get
  match ← protect primitives (LoginProtection.checkIpBlocked exchange.connection.node
      exchange.connection.remoteIp) with
  | none => throw .failed
  | some (some _) => pure .rejected
  | some none =>
    match selector with
    | .user username targetName => do
      match ← protect primitives (LoginProtection.checkUserLocked exchange.connection.node
          username) with
      | none => throw .failed
      | some (some _) => pure .rejected
      | some none => continuations.authenticate username targetName credential
    | .ticket secret => continuations.redeem secret

def tryAuthLazy (selector : AuthSelector) (credential : Option AuthCredential) :
    Handler AuthResult := do
  match selector with
  | .user _ _ => tryAuthEager primitives continuations selector credential
  | .ticket secret => do
    let exchange ← get
    match exchange.connection.cachedSuccessfulTicketAuth.filter fun cached =>
        cached.1 = secret with
    | some (_, userInfo) => pure (.accepted userInfo)
    | none => do
      let result ← tryAuthEager primitives continuations selector credential
      match result with
      | .accepted userInfo =>
        onConnection fun connection =>
          { connection with cachedSuccessfulTicketAuth := some (secret, userInfo) }
      | _ => pure ()
      pure result

def needs (kinds : Finset CredentialKind) : Handler Reply := do
  let exchange ← get
  pure (.reject (some (getRemainingAuthMethods exchange.connection kinds)) false)

def authPublickeyOffer (sshUsername : String) (key : PublicKey) : Handler Reply := do
  let selector := AuthSelector.of sshUsername
  noteProbe selector "public_key"
  let exchange ← get
  if .publicKey ∉ exchange.connection.allowedAuthMethods then pure .rejected
  else
    match selector with
    | .ticket _ => pure .rejected
    | .user _ _ => do
      match ← observing (tryValidatePublicKeyOffer primitives selector key) with
      | .ok true => pure .accept
      | _ => do
        match ← observing (tryAuthLazy primitives continuations selector none) with
        | .ok (.need kinds) => needs kinds
        | _ => pure .rejected

def authPublickey (sshUsername : String) (key : PublicKey) : Handler Reply := do
  let selector := AuthSelector.of sshUsername
  noteProbe selector "public_key"
  let exchange ← get
  if .publicKey ∉ exchange.connection.allowedAuthMethods then pure .rejected
  else do
    match ← observing (tryAuthLazy primitives continuations selector (some (.publicKey key))) with
    | .ok (.accepted _) => pure .accept
    | .ok .rejected => do
      let exchange ← get
      pure (.reject (some exchange.connection.allowedAuthMethods) false)
    | .ok (.need kinds) => needs kinds
    | .error _ => pure (.reject none false)

def authPassword (sshUsername password : String) : Handler Reply := do
  let selector := AuthSelector.of sshUsername
  noteProbe selector "password"
  let exchange ← get
  if .password ∉ exchange.connection.allowedAuthMethods then do
    match selector with
    | .user username _ => recordFailedLoginAttempt primitives username "password"
    | .ticket _ => pure ()
    pure .rejected
  else do
    match ← observing (tryAuthLazy primitives continuations selector
      (some (.password password))) with
    | .ok (.accepted _) => pure .accept
    | .ok .rejected => pure .rejected
    | .ok (.need kinds) => needs kinds
    | .error _ => pure (.reject none false)

def endRound (round : Round) : Handler Reply :=
  if round.prompts.isEmpty then pure (.reject none false)
  else do
    onConnection fun connection =>
      { connection with keyboardInteractiveState := some round.pending }
    pure (.continued round.name round.instructions round.prompts)

def promptFor (selector : AuthSelector) (kinds : Finset CredentialKind)
    (pending : PendingKeyboardInteractiveAuth) : Handler Reply := do
  let exchange ← get
  match exchange.connection.authState with
  | none => pure (.reject none false)
  | some _ => do
    let round : Round :=
      if .totp ∈ kinds then
        ⟨"Two-factor authentication", "", [("One-time password: ", true)],
          { pending with otpPromptSent := true }⟩
      else ⟨"Warpgate authentication", "", [], pending⟩
    if .webUserApproval ∈ kinds then do
      match ← continuations.webApprovalRound selector kinds round with
      | .inl reply => pure reply
      | .inr round => endRound round
    else endRound round

def authKeyboardInteractive (sshUsername : String) (responses : List String) : Handler Reply := do
  let selector := AuthSelector.of sshUsername
  noteProbe selector "keyboard_interactive"
  let exchange ← get
  if .keyboardInteractive ∉ exchange.connection.allowedAuthMethods then pure .rejected
  else do
    let state := exchange.connection.keyboardInteractiveState
    onConnection fun connection => { connection with keyboardInteractiveState := none }
    let otp :=
      if state.any PendingKeyboardInteractiveAuth.otpPromptSent then
        responses.head?.map AuthCredential.otp
      else none
    let pending := (state.map PendingKeyboardInteractiveAuth.carryForward).getD .fresh
    match ← observing (tryAuthLazy primitives continuations selector otp) with
    | .ok (.accepted _) => pure .accept
    | .ok .rejected => pure .rejected
    | .ok (.need kinds) => promptFor continuations selector kinds pending
    | .error _ => pure (.reject none false)

def answer : AuthRequest → Handler Reply
  | .publickeyOffer sshUsername key => authPublickeyOffer primitives continuations sshUsername key
  | .publickey sshUsername key => authPublickey primitives continuations sshUsername key
  | .password sshUsername password => authPassword primitives continuations sshUsername password
  | .keyboardInteractive sshUsername responses =>
    authKeyboardInteractive primitives continuations sshUsername responses

end Handlers

abbrev ConnectionId := Nat

structure State where
  world : World
  connections : ConnectionId → Connection

inductive Event
  | request (connection : ConnectionId) (request : AuthRequest)
  | disconnect (connection : ConnectionId)
  | activity (task : LoginProtection.Task)

def State.serve {Result : Type} (state : State) (connection : ConnectionId)
    (handler : Handler Result) : Except Fault Result × State :=
  match handler.run ⟨state.world, state.connections connection⟩ with
  | .ok result exchange =>
    (.ok result,
      ⟨exchange.world, Function.update state.connections connection exchange.connection⟩)
  | .error fault exchange =>
    (.error fault,
      ⟨exchange.world, Function.update state.connections connection exchange.connection⟩)

def step (continuations : Continuations) (state : State) : Event → Option Reply × State
  | .request connection request =>
    let served := state.serve connection (answer primitives continuations request)
    match served.1 with
    | .ok reply => (some reply, served.2)
    | .error _ => (some .unsupportedMethod, served.2)
  | .disconnect connection => (none, (state.serve connection (settleFailedProbe primitives)).2)
  | .activity task =>
    (none, { state with
      world.protection := (state.world.protection.call primitives.protecting task.program).2 })

open AuthSelector
open Handlers (Along Alike answers answers_eq)

/-! ### Credentials a client cannot tell apart -/

structure Credentials.DifferOnlyFor (user : Uuid) (first second : Credentials) : Prop where
  publicKeys : first.publicKeys.select (fun row => row.userId ≠ user) =
    second.publicKeys.select fun row => row.userId ≠ user
  passwords : first.passwords.select (fun row => row.userId ≠ user) =
    second.passwords.select fun row => row.userId ≠ user
  otps : first.otps.select (fun row => row.userId ≠ user) =
    second.otps.select fun row => row.userId ≠ user

def Credentials.holdsKey (credentials : Credentials) (user : Uuid) (key : PublicKey) : Bool :=
  credentials.publicKeys.rows.any fun row =>
    row.userId = user && row.opensshPublicKey = primitives.openssh key

variable {P : Primitives} {first second : Credentials} {state s other : State} {user : Uuid}
  {k : PublicKey}

theorem isSome_firstById {credentials : Credentials} :
    (firstById PublicKeyCredential.id (credentials.publicKeys.select fun r => r.userId = user)
        fun r => r.opensshPublicKey = P.openssh k).isSome = credentials.holdsKey P user k := by
  rw [Bool.eq_iff_iff, firstById, List.find?_isSome, Credentials.holdsKey, List.any_eq_true]
  simp [Sql.Table.mem_select, and_assoc]

theorem Credentials.DifferOnlyFor.holdsKey {other : Uuid}
    (differ : first.DifferOnlyFor user second) (isOther : other ≠ user) (k : PublicKey) :
    first.holdsKey P other k = second.holdsKey P other k := by
  have read : ∀ credentials : Credentials, credentials.holdsKey P other k =
      (credentials.publicKeys.select fun r => r.userId ≠ user).any fun r =>
        r.userId = other && r.opensshPublicKey = P.openssh k := by
    intro credentials
    rw [Bool.eq_iff_iff, Credentials.holdsKey, List.any_eq_true, List.any_eq_true]
    simp only [Sql.Table.mem_select, Bool.and_eq_true, decide_eq_true_eq]
    refine exists_congr fun r => ⟨?_, fun found => ⟨found.1.1, found.2⟩⟩
    rintro ⟨stored, rfl, isKey⟩
    exact ⟨⟨stored, isOther⟩, rfl, isKey⟩
  rw [read, read, differ.publicKeys]

structure Twins (first second : Credentials) (exchange other : Exchange) : Prop where
  protection : exchange.world.protection = other.world.protection
  connection : exchange.connection = other.connection
  credentials : exchange.world.credentials = first
  otherCredentials : other.world.credentials = second

def Exchange.refuses (exchange : Exchange) (username : String) : Bool :=
  exchange.world.protection.blocks primitives.protecting exchange.connection.node
      exchange.connection.remoteIp ||
    exchange.world.protection.locks primitives.protecting exchange.connection.node username

variable {conts : Continuations} {name tname : String}

section Handlers

def Refused (primitives : Primitives) (first second : Credentials) (username : String)
    (exchange other : Exchange) : Prop :=
  Twins first second exchange other ∧ exchange.refuses primitives username = true

abbrev EndsAlike (first second : Credentials) (start : Exchange → Exchange → Prop) {Result : Type}
    (handler : Handler Result) : Prop :=
  Alike start handler handler (fun _ => Twins first second) (Twins first second)

theorem alike_protect {Result : Type} (prog : LoginProtection.Action Result)
    (prot : LoginProtection.World) :
    Alike (fun ex other => Twins first second ex other ∧ ex.world.protection = prot)
      (protect P prog) (protect P prog)
      (fun res ex other => Twins first second ex other ∧
        prot.call P.protecting prog = (res, ex.world.protection)) (Twins first second) := by
  rintro ex other ⟨twins, rfl⟩
  show Handlers.SameEnd _ _ (.ok (ex.world.protection.call P.protecting prog).1 _)
    (.ok (other.world.protection.call P.protecting prog).1 _)
  rw [← twins.protection]
  exact .ok _ ⟨⟨rfl, twins.connection, twins.credentials, twins.otherCredentials⟩, rfl⟩

theorem alike_onConnection (change : Connection → Connection) :
    EndsAlike first second (Twins first second) (onConnection change) := by
  refine Alike.modify fun ex other twins => ?_
  exact ⟨twins.protection, congrArg change twins.connection, twins.credentials,
    twins.otherCredentials⟩

theorem alike_onConnection_refused {change : Connection → Connection}
    (keeps : ∀ conn, (change conn).node = conn.node ∧ (change conn).remoteIp = conn.remoteIp) :
    Alike (Refused P first second name) (onConnection change) (onConnection change)
      (fun _ => Refused P first second name) (Twins first second) := by
  refine Alike.modify fun ex other refused => ?_
  obtain ⟨twins, refuses⟩ := refused
  refine ⟨⟨twins.protection, congrArg change twins.connection, twins.credentials,
    twins.otherCredentials⟩, ?_⟩
  unfold Exchange.refuses
  rw [(keeps ex.connection).1, (keeps ex.connection).2]
  exact refuses

theorem alike_entry (tname method : String) {next : Exchange → Handler Reply}
    (goesOn : ∀ seen seenOther, seen.connection = seenOther.connection →
      Alike (Refused P first second name) (next seen) (next seenOther)
        (fun _ => Twins first second) (Twins first second)) :
    Alike (Refused P first second name) (do noteProbe (.user name tname) method; next (← get))
      (do noteProbe (.user name tname) method; next (← get))
      (fun _ => Twins first second) (Twins first second) := by
  unfold noteProbe
  refine Alike.bind (alike_onConnection_refused fun conn => ?_) fun _ => ?_
  · split
    · exact ⟨rfl, rfl⟩
    · exact ⟨rfl, rfl⟩
  · exact Alike.look fun seen seenOther refused => goesOn seen seenOther refused.1.connection

theorem alike_tryAuthLazy (tname : String) (cred : Option AuthCredential) :
    Alike (Refused P first second name) (tryAuthLazy P conts (.user name tname) cred)
      (tryAuthLazy P conts (.user name tname) cred)
      (fun res ex other => res = .rejected ∧ Twins first second ex other) (Twins first second) := by
  refine Alike.read fun seen seenOther ⟨twins, refuses⟩ => ?_
  rw [Exchange.refuses, Bool.or_eq_true] at refuses
  rw [← twins.connection]
  refine Alike.bind
    ((alike_protect _ seen.world.protection).imp ?_ (fun _ _ _ ends => ends)
      fun _ _ ends => ends) ?_
  · rintro ex other ⟨rfl, rfl⟩
    exact ⟨twins, rfl⟩
  · rintro (- | - | block)
    · exact Alike.throw fun _ _ ended => ended.1
    · have unchanged : ∀ ex : Exchange, seen.world.protection.call P.protecting
              (LoginProtection.checkIpBlocked seen.connection.node seen.connection.remoteIp) =
            (some none, ex.world.protection) → ex.world.protection = seen.world.protection ∧
            seen.world.protection.locks P.protecting seen.connection.node name = true := by
        intro ex ended
        rcases LoginProtection.checkIpBlocked_cases P.protecting seen.world.protection
            seen.connection.node seen.connection.remoteIp with
          failed | ⟨info, reported⟩ | ⟨same, unblocked⟩
        · rw [ended] at failed
          cases failed
        · rw [ended] at reported
          cases reported
        · grind
      by_cases locked : seen.world.protection.locks P.protecting seen.connection.node name = true
      · refine Alike.bind ((alike_protect _ seen.world.protection).imp
          (fun ex _ ended => ⟨ended.1, (unchanged ex ended.2).1⟩)
          (fun _ _ _ ends => ends) fun _ _ ends => ends) ?_
        have reports := LoginProtection.checkUserLocked_of_locks locked
        rintro (- | - | lock)
        · exact Alike.throw fun _ _ ended => ended.1
        · rintro ex other ⟨-, ended⟩
          rw [ended] at reports
          rcases reports with failed | ⟨info, reported⟩
          · cases failed
          · cases reported
        · exact Alike.pure fun _ _ ended => ⟨rfl, ended.1⟩
      · intro ex other ended
        exact absurd (unchanged ex ended.2).2 locked
    · exact Alike.pure fun _ _ ended => ⟨rfl, ended.1⟩

variable {sshUsername : String}

theorem alike_validatePublicKey (differ : first.DifferOnlyFor user second)
    (agree : first.holdsKey P user k = second.holdsKey P user k) :
    Alike (Refused P first second name) (validatePublicKey P name k) (validatePublicKey P name k)
      (fun _ => Refused P first second name) (Refused P first second name) := by
  refine Alike.read fun seen seenOther refused => ?_
  have again : ∀ ex other, ex = seen ∧ other = seenOther →
      Refused P first second name ex other := by
    rintro _ _ ⟨rfl, rfl⟩
    exact refused
  obtain ⟨twins, -⟩ := refused
  rw [← twins.protection]
  split
  · exact Alike.throw again
  · cases found : seen.world.protection.findUser P.protecting name with
    | none => exact Alike.pure again
    | some owner =>
      have same : first.holdsKey P owner.id k = second.holdsKey P owner.id k := by
        by_cases isUser : owner.id = user
        · rw [isUser, agree]
        · exact differ.holdsKey isUser k
      dsimp only
      rw [isSome_firstById, isSome_firstById, twins.credentials, twins.otherCredentials, same]
      exact Alike.pure again

theorem alike_attempt (tname : String) (cred : Option AuthCredential)
    {reply : Except Fault AuthResult → Handler Reply}
    (refusal : EndsAlike first second (Twins first second) (reply (.ok .rejected)))
    (failure : ∀ fault, EndsAlike first second (Twins first second) (reply (.error fault))) :
    EndsAlike first second (Refused P first second name)
      (observing (tryAuthLazy P conts (.user name tname) cred) >>= reply) := by
  have attempted : Alike (Refused P first second name)
      (observing (tryAuthLazy P conts (.user name tname) cred))
      (observing (tryAuthLazy P conts (.user name tname) cred))
      (fun res ex other =>
        (∀ given, res = .ok given → given = .rejected) ∧ Twins first second ex other)
      (Twins first second) := by
    refine Alike.observing ((alike_tryAuthLazy tname cred).imp (fun _ _ start => start) ?_ ?_)
    · grind
    · grind
  refine Alike.bind attempted ?_
  rintro (fault | given)
  · exact (failure fault).imp (fun _ _ start => start.2)
      (fun _ _ _ ends => ends) fun _ _ ends => ends
  · intro ex other ⟨isRejected, twins⟩
    obtain rfl := isRejected given rfl
    exact refusal ex other twins

theorem alike_authPublickeyOffer (differ : first.DifferOnlyFor user second)
    (names : of sshUsername = .user name tname)
    (agree : first.holdsKey P user k = second.holdsKey P user k) :
    EndsAlike first second (Refused P first second name)
      (authPublickeyOffer P conts sshUsername k) := by
  unfold authPublickeyOffer
  dsimp only
  rw [names]
  refine alike_entry tname _ fun seen seenOther same => ?_
  rw [same]
  split
  · exact Alike.pure fun _ _ start => start.1
  · have validated : Alike (Refused P first second name) (observing (validatePublicKey P name k))
        (observing (validatePublicKey P name k))
        (fun _ => Refused P first second name) (Twins first second) :=
      Alike.observing ((alike_validatePublicKey differ agree).imp (fun _ _ start => start)
        (fun _ _ _ ends => ends) fun _ _ ends _ => ends)
    refine Alike.bind validated fun valid => ?_
    split
    · exact Alike.pure fun _ _ start => start.1
    · refine alike_attempt tname none ?_ fun fault => ?_
      · exact Alike.pure fun _ _ twins => twins
      · exact Alike.pure fun _ _ twins => twins

theorem alike_authPublickey (names : of sshUsername = .user name tname) (k : PublicKey) :
    EndsAlike first second (Refused P first second name) (authPublickey P conts sshUsername k) := by
  unfold authPublickey
  dsimp only
  rw [names]
  refine alike_entry tname _ fun seen seenOther same => ?_
  rw [same]
  split
  · exact Alike.pure fun _ _ start => start.1
  · refine alike_attempt tname _ ?_ fun fault => ?_
    · refine Alike.look fun seen seenOther twins => ?_
      rw [twins.connection]
      exact Alike.pure fun _ _ twins => twins
    · exact Alike.pure fun _ _ twins => twins

theorem alike_recordFailedLoginAttempt (attempted credentialType : String) :
    EndsAlike first second (Twins first second)
      (recordFailedLoginAttempt P attempted credentialType) := by
  unfold recordFailedLoginAttempt
  refine Alike.bind (alike_onConnection _) fun _ => ?_
  refine Alike.read fun seen seenOther twins => ?_
  rw [twins.connection]
  refine Alike.bind ((alike_protect _ seen.world.protection).imp ?_ (fun _ _ _ ends => ends)
    fun _ _ ends => ends) fun _ => Alike.pure fun _ _ ends => ends.1
  rintro _ _ ⟨rfl, rfl⟩
  exact ⟨twins, rfl⟩

theorem alike_authPassword (names : of sshUsername = .user name tname) (pw : String) :
    EndsAlike first second (Refused P first second name) (authPassword P conts sshUsername pw) := by
  unfold authPassword
  dsimp only
  rw [names]
  refine alike_entry tname _ fun seen seenOther same => ?_
  rw [same]
  split
  · refine Alike.bind ((alike_recordFailedLoginAttempt name _).imp (fun _ _ start => start.1)
      (fun _ _ _ ends => ends) fun _ _ ends => ends) fun _ => ?_
    exact Alike.pure fun _ _ twins => twins
  · refine alike_attempt tname _ ?_ fun fault => ?_
    · exact Alike.pure fun _ _ twins => twins
    · exact Alike.pure fun _ _ twins => twins

theorem alike_authKeyboardInteractive
    (names : of sshUsername = .user name tname) (responses : List String) :
    EndsAlike first second (Refused P first second name)
      (authKeyboardInteractive P conts sshUsername responses) := by
  unfold authKeyboardInteractive
  dsimp only
  rw [names]
  refine alike_entry tname _ fun seen seenOther same => ?_
  rw [same]
  split
  · exact Alike.pure fun _ _ start => start.1
  · refine Alike.bind (alike_onConnection_refused fun conn => ⟨rfl, rfl⟩) fun _ => ?_
    refine alike_attempt tname _ ?_ fun fault => ?_
    · exact Alike.pure fun _ _ twins => twins
    · exact Alike.pure fun _ _ twins => twins

def AuthRequest.offers : AuthRequest → Option PublicKey
  | .publickeyOffer _ key => some key
  | _ => none

theorem alike_answer (differ : first.DifferOnlyFor user second) {req : AuthRequest}
    (names : of req.sshUsername = .user name tname)
    (agree : ∀ k, req.offers = some k → first.holdsKey P user k = second.holdsKey P user k) :
    EndsAlike first second (Refused P first second name) (answer P conts req) := by
  cases req with
  | publickeyOffer _ k => exact alike_authPublickeyOffer differ names (agree k rfl)
  | publickey _ k => exact alike_authPublickey names k
  | password _ pw => exact alike_authPassword names pw
  | keyboardInteractive _ responses => exact alike_authKeyboardInteractive names responses

theorem alike_settleFailedProbe :
    EndsAlike first second (Twins first second) (settleFailedProbe P) := by
  refine Alike.look fun seen seenOther twins => ?_
  rw [twins.connection]
  split
  · exact Alike.pure fun _ _ twins => twins
  · split
    · exact alike_recordFailedLoginAttempt _ _
    · exact Alike.pure fun _ _ twins => twins

end Handlers

/-! ### Runs of the two -/

structure State.Twins (first second : Credentials) (state other : State) : Prop where
  protection : state.world.protection = other.world.protection
  connections : state.connections = other.connections
  credentials : state.world.credentials = first
  otherCredentials : other.world.credentials = second

theorem State.Twins.exchange (twins : State.Twins first second s other) (conn : ConnectionId) :
    Authentication.Twins first second ⟨s.world, s.connections conn⟩
      ⟨other.world, other.connections conn⟩ :=
  ⟨twins.protection, congrFun twins.connections conn, twins.credentials, twins.otherCredentials⟩

theorem State.Twins.serve (twins : State.Twins first second s other) {conn : ConnectionId}
    {Result : Type} {hdl : Handler Result} {pre : Exchange → Exchange → Prop}
    (alike : Alike pre hdl hdl (fun _ => Authentication.Twins first second)
      (Authentication.Twins first second))
    (start : pre ⟨s.world, s.connections conn⟩ ⟨other.world, other.connections conn⟩) :
    (s.serve conn hdl).1 = (other.serve conn hdl).1 ∧ State.Twins first second (s.serve conn hdl).2
        (other.serve conn hdl).2 := by
  have ends := alike _ _ start
  unfold State.serve
  generalize hdl.run ⟨s.world, _⟩ = ended, hdl.run ⟨other.world, _⟩ = endedOther at ends
  have again : ∀ ex otherExchange : Exchange, Authentication.Twins first second ex otherExchange →
      State.Twins first second ⟨ex.world, Function.update s.connections conn ex.connection⟩
        ⟨otherExchange.world, Function.update other.connections conn otherExchange.connection⟩ := by
    intro ex otherExchange later
    refine ⟨later.protection, ?_, later.credentials, later.otherCredentials⟩
    show Function.update _ _ _ = Function.update _ _ _
    rw [twins.connections, later.connection]
  cases ends with
  | ok res later | error fault later => exact ⟨rfl, again _ _ later⟩

def AuthRequest.isFor (request : AuthRequest) (username : String) : Bool :=
  match AuthSelector.of request.sshUsername with
  | .user named _ => primitives.toLowercase named = primitives.toLowercase username
  | .ticket _ => false

def RefusedRequests (username : String) (state : State) : Event → Prop
  | .request connection request =>
    request.isFor primitives username = true ∧
      (Exchange.mk state.world (state.connections connection)).refuses primitives username = true
  | .disconnect _ | .activity _ => True

instance (primitives : Primitives) (username : String) (state : State) :
    (event : Event) → Decidable (RefusedRequests primitives username state event)
  | .request _ _ => inferInstanceAs (Decidable (_ ∧ _))
  | .disconnect _ | .activity _ => inferInstanceAs (Decidable True)

def Event.offers : Event → Option PublicKey
  | .request _ asked => asked.offers
  | _ => none

section Runs

open LoginProtection

theorem step_alike (differ : first.DifferOnlyFor user second)
    {s other : State} {ev : Event} (twins : State.Twins first second s other)
    (refused : RefusedRequests P name s ev)
    (agree : ∀ k, ev.offers = some k → first.holdsKey P user k = second.holdsKey P user k) :
    (step P conts s ev).1 = (step P conts other ev).1 ∧
      State.Twins first second (step P conts s ev).2 (step P conts other ev).2 := by
  cases ev with
  | request conn req =>
    obtain ⟨isFor, refuses⟩ := refused
    unfold AuthRequest.isFor at isFor
    split at isFor
    · next named tname names =>
      have refusesNamed : (Exchange.mk s.world (s.connections conn)).refuses P named = true := by
        unfold Exchange.refuses
        rw [World.locks_congr (of_decide_eq_true isFor)]
        exact refuses
      have answered : Alike (Refused P first second named) (answer P conts req) (answer P conts req)
          (fun _ => Twins first second) (Twins first second) := alike_answer differ names agree
      obtain ⟨same, later⟩ := twins.serve answered ⟨twins.exchange conn, refusesNamed⟩
      unfold step
      dsimp only
      rw [same]
      split
      · exact ⟨rfl, later⟩
      · exact ⟨rfl, later⟩
    · cases isFor
  | disconnect conn => exact ⟨rfl, (twins.serve alike_settleFailedProbe (twins.exchange conn)).2⟩
  | activity t =>
    refine ⟨rfl, ?_, twins.connections, twins.credentials, twins.otherCredentials⟩
    show (World.call _ _ _).2 = (World.call _ _ _).2
    rw [twins.protection]

/-- While login protection refuses the address or the user of every request, the replies are the
same whatever credentials the user has, as long as every key that is offered is one the user has in
both databases, or in neither. -/
theorem refused_client_learns_nothing (primitives : Primitives) (continuations : Continuations)
    (u : AuthStateUserInfo) (protection : LoginProtection.World)
    (connections : ConnectionId → Connection) (first second : Credentials)
    (differ : first.DifferOnlyFor u.id second) (events : List Event)
    (refused : Along (fun state event => (step primitives continuations state event).2)
      (RefusedRequests primitives u.username) ⟨⟨protection, first⟩, connections⟩ events)
    (agree : ∀ event ∈ events, ∀ key, event.offers = some key →
      first.holdsKey primitives u.id key = second.holdsKey primitives u.id key) :
    answers (step primitives continuations) ⟨⟨protection, first⟩, connections⟩ events =
      answers (step primitives continuations) ⟨⟨protection, second⟩, connections⟩ events := by
  have start : State.Twins first second ⟨⟨protection, first⟩, connections⟩
      ⟨⟨protection, second⟩, connections⟩ := ⟨rfl, rfl, rfl, rfl⟩
  refine answers_eq ?_ (refused.and_forall agree) start
  rintro state other event twins ⟨refusedNow, agreeNow⟩
  exact step_alike differ twins refusedNow agreeNow

end Runs

def plainPrimitives : Primitives where
  protecting := LoginProtection.plainPrimitives
  base64 := fun bytes => String.ofList (bytes.map fun byte => Char.ofNat byte.toNat)

def refusing : Continuations where
  authenticate := fun _ _ _ => pure .rejected
  redeem := fun _ => pure .rejected
  webApprovalRound := fun _ _ round => pure (.inr round)

def aliceLocked : LoginProtection.World :=
  (LoginProtection.quietWorld.call LoginProtection.plainPrimitives
    (LoginProtection.recordFailedAttempt 0 LoginProtection.aliceFails)).2

def newConnection : Connection where
  node := 0
  remoteIp := .v4 7
  allowedAuthMethods := [.publicKey, .password, .keyboardInteractive]
  probe := .noAttempt
  keyboardInteractiveState := none
  cachedSuccessfulTicketAuth := none
  authState := none
  userInfo := none

def aliceKey : PublicKey := ⟨"ssh-ed25519", [65]⟩

def noCredentials : Credentials where
  publicKeys := .empty
  passwords := .empty
  otps := .empty

def aliceCredentials : Credentials where
  publicKeys := ⟨[⟨1, 1, "ssh-ed25519 A"⟩], by decide⟩
  passwords := ⟨[⟨1, 1, "hash"⟩], by decide⟩
  otps := .empty

def guesses : List Event :=
  [.request 0 (.publickeyOffer "alice:web" ⟨"ssh-ed25519", [66]⟩),
    .request 0 (.publickey "alice:web" aliceKey),
    .request 0 (.password "alice" "secret"),
    .request 0 (.keyboardInteractive "alice#web" [])]

theorem aliceCredentials_differ : aliceCredentials.DifferOnlyFor 1 noCredentials :=
  ⟨by decide, by decide, by decide⟩

theorem refused_client_learns_nothing_guesses :
    answers (step plainPrimitives refusing) ⟨⟨aliceLocked, aliceCredentials⟩,
      fun _ => newConnection⟩
        guesses =
      answers (step plainPrimitives refusing) ⟨⟨aliceLocked, noCredentials⟩, fun _ => newConnection⟩
        guesses :=
  refused_client_learns_nothing plainPrimitives refusing ⟨1, "alice"⟩ aliceLocked
    (fun _ => newConnection) aliceCredentials noCredentials aliceCredentials_differ guesses
    (by decide +kernel) (by decide +kernel)

theorem offer_tells_stored_key :
    aliceCredentials.DifferOnlyFor 1 noCredentials ∧
      Along (fun state event => (step plainPrimitives refusing state event).2)
        (RefusedRequests plainPrimitives "alice")
        ⟨⟨aliceLocked, aliceCredentials⟩, fun _ => newConnection⟩
        [.request 0 (.publickeyOffer "alice:web" aliceKey)] ∧
      answers (step plainPrimitives refusing)
          ⟨⟨aliceLocked, aliceCredentials⟩, fun _ => newConnection⟩
          [.request 0 (.publickeyOffer "alice:web" aliceKey)] = [some .accept] ∧
      answers (step plainPrimitives refusing)
          ⟨⟨aliceLocked, noCredentials⟩, fun _ => newConnection⟩
          [.request 0 (.publickeyOffer "alice:web" aliceKey)] = [some .rejected] :=
  ⟨aliceCredentials_differ, by decide +kernel, by decide +kernel, by decide +kernel⟩

end Warpgate.Ssh.Authentication
