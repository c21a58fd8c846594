/-
This file is about the request the proxy sends to a target.
-/

import Warpgate.Http.Headers
import Warpgate.Http.Hosts

namespace Warpgate.Http

/-! ### Requests to a target -/

structure Uri where
  scheme : Option Text
  authority : Option Text
  pathAndQuery : Option PathAndQuery
  deriving DecidableEq

inductive TlsMode
  | disabled
  | preferred
  | required
  deriving DecidableEq, Repr

structure TargetHTTPOptions where
  url : Text
  tlsMode : TlsMode
  headers : List (Text × Text)

structure ProxyPrimitives where
  parseUri : Text → Option Uri
  parseAuthority : Text → Option Text
  parsePathAndQuery : Text → Option PathAndQuery
  base64 : List UInt8 → Text

structure ClientRequest where
  method : Method
  pathAndQuery : Option PathAndQuery
  headers : HeaderMap

structure ClientContext where
  auth : Option SessionAuthorization
  trustedHost : Option Text
  trustedProto : Text
  trustedClientIp : Option Text

structure UpstreamRequest where
  method : Method
  uri : Uri
  headers : HeaderMap
  sendsBody : Bool

def isInternalSegment (segment : Text) : Bool :=
  formKey segment = some warpgateTargetParameter || formKey segment = some warpgateTicket

variable (primitives : ProxyPrimitives)

def stripWarpgateInternalQueryParams (pq : PathAndQuery) : Option PathAndQuery :=
  match pq.query with
  | none => some pq
  | some query =>
    let kept := join "&" ((query.splitOn '&').filter fun segment => !isInternalSegment segment)
    primitives.parsePathAndQuery (if kept = [] then pq.path else pq.path ++ '?' :: kept)

def upstreamScheme (mode : TlsMode) (target : Uri) : Option Text :=
  match mode with
  | .disabled => some "http".toList
  | .preferred => target.scheme
  | .required => some "https".toList

variable (request : ClientRequest)

def constructUri (options : TargetHTTPOptions) (websocket : Bool) : Option Uri := do
  let target ← primitives.parseUri options.url
  let authority ← primitives.parseAuthority (← target.authority)
  let pathAndQuery ← request.pathAndQuery.bind (stripWarpgateInternalQueryParams primitives)
  let scheme ← upstreamScheme options.tlsMode target
  pure
    { scheme := some
        (if websocket then (if scheme = "http".toList then "ws".toList else "wss".toList)
        else scheme)
      authority := some authority
      pathAndQuery := some pathAndQuery }

def extractBasicAuth (uri : Uri) : Option (Option HeaderValue × Uri) := do
  let parts := (← uri.authority).splitOn '@'
  let host ← primitives.parseAuthority (← parts.getLast?)
  let stripped := { uri with authority := some host }
  if parts.length = 1 then pure (none, stripped)
  else
    let value ← HeaderValue.tryFrom
      ("Basic ".toList ++ primitives.base64 (utf8 (parts.head?.getD [])))
    pure (some value, stripped)

def parseCookie (pair : Text) : Option (Text × Text) :=
  (splitOnce '=' pair).bind fun (name, value) =>
    if trim name = [] then none else some (trim name, trim value)

def cookieForTarget (pair : Text) : Option (Option Text) :=
  (parseCookie pair).map fun (name, value) =>
    if isWarpgateSessionCookieName name then none else some (name ++ '=' :: value)

def splitCookies (text : Text) : List Text :=
  (text.splitOn ';').filter fun pair => !pair.all isSpace

def joined (parts : List Text) : Option Text :=
  if parts = [] then none else some (join "; " parts)

def cookieHeaderForTarget (headers : HeaderMap) : Option (Option Text) := do
  let texts ← (headers.getAll .cookie).mapM HeaderValue.toStr
  let cookies ← (texts.flatMap splitCookies).mapM cookieForTarget
  pure (joined (cookies.filterMap id))

def isWarpgateAuthorization (value : Text) : Bool :=
  ((trimStart value).takeWhile fun letter => !isSpace letter).map Char.toLower =
    "warpgate".toList

def credentialsHeaderForTarget (headers : HeaderMap) (name : HeaderName) : Option Text :=
  joined ((headers.getAll name).filterMap fun value =>
    value.toStr.filter fun text => !isWarpgateAuthorization text)

def refererHeaderForTarget (headers : HeaderMap) : Option Text :=
  joined ((headers.getAll .referer).filterMap fun value =>
    value.toStr.map withoutTicketQueryParam)

def forwardedValue (headers : HeaderMap) (name : HeaderName) : Option (Option Text) :=
  if !mayForwardHeader name then some none
  else if name = .authorization || name = .proxyAuthorization then
    some (credentialsHeaderForTarget headers name)
  else if name = .referer then some (refererHeaderForTarget headers)
  else if name = .cookie then cookieHeaderForTarget headers
  else some (some (join "; " ((headers.getAll name).filterMap HeaderValue.toStr)))

def header (name : HeaderName) (value : Text) (target : HeaderMap) : Option HeaderMap :=
  (HeaderValue.tryFrom value).map (target.append name)

def optionalHeader (name : HeaderName) (value : Option Text) (target : HeaderMap) :
    Option HeaderMap :=
  match value with
  | some value => header name value target
  | none => some target

def copyHeader (headers : HeaderMap) (target : HeaderMap) (name : HeaderName) :
    Option HeaderMap := do
  optionalHeader name (← forwardedValue headers name) target

def copyServerRequest (headers target : HeaderMap) : Option HeaderMap :=
  headers.keys.foldlM (copyHeader headers) target

def injectForwardingHeaders (context : ClientContext) (target : HeaderMap) : Option HeaderMap := do
  let target ← optionalHeader .xForwardedHost context.trustedHost target
  let target ← header .xForwardedProto context.trustedProto target
  optionalHeader .xForwardedFor context.trustedClientIp target

def includes (part text : Text) : Bool := text.tails.any fun tail => part.isPrefixOf tail

def targetAcceptEncoding (headers : HeaderMap) : HeaderValue :=
  let wantsHtml := (headers.getAll .accept).any fun value =>
    value.toStr.any (includes "text/html".toList)
  if wantsHtml then .identity else (headers.getAll .acceptEncoding).head?.getD .identity

def authenticationType : SessionAuthorization → Text
  | .ticket _ _ _ => "ticket".toList
  | .user _ => "user".toList

def namedAuth (context : ClientContext) : Option SessionAuthorization :=
  context.auth.filter fun auth => !isPublicSessionAuthorization auth

def injectIdentity (context : ClientContext) (target : HeaderMap) : Option HeaderMap := do
  let target ← optionalHeader .xWarpgateUsername
    ((namedAuth context).map fun auth => auth.username.toList) target
  optionalHeader .xWarpgateAuthenticationType ((namedAuth context).map authenticationType) target

def injectOwnHeaders (headers : HeaderMap) (context : ClientContext) (target : HeaderMap) :
    Option HeaderMap := do
  let target ← injectIdentity context target
  pure (target.append .acceptEncoding (targetAcceptEncoding headers))

def rewriteHeader (target : HeaderMap) (configured : Text × Text) : Option HeaderMap := do
  let name ← HeaderName.tryFrom configured.1
  let value ← HeaderValue.tryFrom configured.2
  pure (target.insert name value)

def rewriteRequest (options : TargetHTTPOptions) (target : HeaderMap) : Option HeaderMap :=
  options.headers.foldlM rewriteHeader target

def applyUrlCredentials (credentials : Option HeaderValue) (target : HeaderMap) : HeaderMap :=
  match credentials with
  | some value => target.insert .authorization value
  | none => target

def buildHeaders (context : ClientContext) (options : TargetHTTPOptions)
    (credentials : Option HeaderValue) (start : HeaderMap) : Option HeaderMap := do
  let target ← copyServerRequest request.headers start
  let target ← injectForwardingHeaders context target
  let target ← injectOwnHeaders request.headers context target
  let target ← rewriteRequest options target
  pure (applyUrlCredentials credentials target)

def proxyNormalRequest
    (context : ClientContext) (options : TargetHTTPOptions) : Option UpstreamRequest := do
  let (credentials, uri) ← extractBasicAuth primitives
    (← constructUri primitives request options false)
  let headers ← buildHeaders request context options credentials .empty
  pure
    { method := request.method
      uri := uri
      headers := headers
      sendsBody := request.headers.contains .contentLength ||
        request.headers.contains .transferEncoding }

def websocketHeaders (key : Text) (uri : Uri) : Option HeaderMap := do
  let start ← header .connection "Upgrade".toList .empty
  let start ← header .upgrade "websocket".toList start
  let start ← header .secWebsocketVersion "13".toList start
  let start ← header .secWebsocketKey key start
  header .host (← uri.authority) start

def proxyWsInner (context : ClientContext)
    (options : TargetHTTPOptions) (key : Text) : Option UpstreamRequest := do
  let (credentials, uri) ← extractBasicAuth primitives
    (← constructUri primitives request options true)
  let headers ← buildHeaders request context options credentials (← websocketHeaders key uri)
  pure { method := .get, uri := uri, headers := headers, sendsBody := false }

open List Option

/-! ### Credentials in the target's URL -/

/-- The userinfo percent-encode set of the URL standard. -/
def isEncodedInUserinfo (letter : Char) : Bool :=
  letter.toNat < 0x20 || 0x7e < letter.toNat || letter ∈ " \"#<>?^`\x7b\x7d/:;=@[\\]|".toList

def hexLetter (digit : Nat) : Char := "0123456789ABCDEF".toList.getD digit '0'

def percentEncode (byte : UInt8) : Text :=
  ['%', hexLetter (byte.toNat / 16), hexLetter (byte.toNat % 16)]

def encodeUserinfo (text : Text) : Text :=
  text.flatMap fun letter =>
    if isEncodedInUserinfo letter then (String.utf8EncodeChar letter).flatMap percentEncode
    else [letter]

/-- The URL standard writes no colon before an empty password. -/
def userinfo (user password : Text) : Text :=
  encodeUserinfo user ++ (if password = [] then [] else ':' :: encodeUserinfo password)

def authorityWith (user password host : Text) : Text := userinfo user password ++ '@' :: host

/-- One Authorization header, with the user name and the password as they were before any encoding,
and a URL without them. -/
def UpstreamRequest.Carries (user password host : Text) (upstream : UpstreamRequest) : Prop :=
  (∃ value, upstream.headers.getAll .authorization = [value] ∧ value.bytes =
    utf8 ("Basic ".toList ++ primitives.base64 (utf8 (user ++ ':' :: password)))) ∧
  upstream.uri.authority = some host

variable {options : TargetHTTPOptions} {context : ClientContext}

section

variable {primitives : ProxyPrimitives} {user password host text : Text} {letter : Char}
  {request : ClientRequest} {target uri stripped : Uri} {websocket : Bool}
  {credentials : Option HeaderValue}

theorem utf8_injective : Function.Injective utf8 := by
  intro first second same
  have sameBytes : (String.ofList first).toByteArray = (String.ofList second).toByteArray := by
    rw [String.toByteArray_ofList, String.toByteArray_ofList]
    exact congrArg List.toByteArray same
  exact String.ofList_injective (String.toByteArray_inj.mp sameBytes)

theorem plain_of_mem_percentEncode {byte : UInt8} (mem : letter ∈ percentEncode byte) :
    isEncodedInUserinfo letter = false := by
  have digits : ∀ digit : Fin 16, isEncodedInUserinfo (hexLetter digit) = false := by decide
  have small := byte.toNat_lt
  simp only [percentEncode, mem_cons, not_mem_nil, or_false] at mem
  rcases mem with rfl | rfl | rfl
  · decide
  · exact digits ⟨byte.toNat / 16, by omega⟩
  · exact digits ⟨byte.toNat % 16, by omega⟩

/-- What is written into the URL holds no character of the set, so neither an @ sign nor a colon. -/
theorem plain_of_mem_encodeUserinfo (mem : letter ∈ encodeUserinfo text) :
    isEncodedInUserinfo letter = false := by
  obtain ⟨source, -, written⟩ := mem_flatMap.mp mem
  split at written
  case isTrue => grind [plain_of_mem_percentEncode]
  case isFalse unencoded => grind

theorem encodeUserinfo_eq_self_iff :
    encodeUserinfo text = text ↔ ∀ letter ∈ text, isEncodedInUserinfo letter = false := by
  refine ⟨fun same letter mem => plain_of_mem_encodeUserinfo (same.symm ▸ mem), fun plain => ?_⟩
  induction text with
  | nil => rfl
  | cons letter rest ih => grind [encodeUserinfo]

theorem userinfo_eq_iff : userinfo user password = user ++ ':' :: password ↔
    (∀ letter ∈ user ++ password, isEncodedInUserinfo letter = false) ∧ password ≠ [] := by
  have free (text : Text) : ':' ∉ encodeUserinfo text := fun mem =>
    absurd (plain_of_mem_encodeUserinfo mem) (by decide)
  by_cases empty : password = []
  · rw [userinfo, if_pos empty, append_nil, empty]
    refine ⟨fun same => ?_, fun ⟨_, nonempty⟩ => absurd rfl nonempty⟩
    exact absurd (same ▸ mem_append_right user (.head [])) (free user)
  · rw [userinfo, if_neg empty, append_cons_inj_of_notMem (free user) (free password),
      encodeUserinfo_eq_self_iff, encodeUserinfo_eq_self_iff, forall_mem_append]
    simp [empty]

theorem authority_constructUri
    (keeps : ∀ text kept, primitives.parseAuthority text = some kept → kept = text)
    (parses : primitives.parseUri options.url = some target)
    (constructs : constructUri primitives request options websocket = some uri) :
    uri.authority = target.authority := by
  simp only [constructUri, parses, bind_eq_bind, bind_eq_some_iff, some.injEq] at constructs
  obtain ⟨_, rfl, written, isWritten, kept, isKept, _, _, _, _, same⟩ := constructs
  rw [← some.inj same, isWritten, keeps written kept isKept]

theorem extractBasicAuth_eq
    (keeps : ∀ text kept, primitives.parseAuthority text = some kept → kept = text) {info : Text}
    (authority : uri.authority = some (info ++ '@' :: host)) (noInfo : '@' ∉ info)
    (noHost : '@' ∉ host)
    (extracts : extractBasicAuth primitives uri = some (credentials, stripped)) :
    stripped.authority = some host ∧ ∃ value, credentials = some value ∧
      value.bytes = utf8 ("Basic ".toList ++ primitives.base64 (utf8 info)) := by
  have parts : (info ++ '@' :: host).splitOn '@' = [info, host] := by
    rw [splitOn_append_cons_self_of_not_mem noInfo, splitOn_eq_singleton noHost]
  simp only [extractBasicAuth, authority, parts, bind_eq_bind, bind_some,
    getLast?_cons_cons, getLast?_singleton, bind_eq_some_iff] at extracts
  obtain ⟨kept, isKept, rest⟩ := extracts
  rw [if_neg (by simp)] at rest
  obtain ⟨value, isValue, same⟩ := bind_eq_some_iff.mp rest
  cases same
  refine ⟨congrArg some (keeps host kept isKept), value, rfl, ?_⟩
  unfold HeaderValue.tryFrom at isValue
  split at isValue
  · cases isValue
    rfl
  · cases isValue

/-- Whatever the user name and the password are, the userinfo of the URL is sent as it stands. -/
theorem userinfo_sent
    (keeps : ∀ text kept, primitives.parseAuthority text = some kept → kept = text)
    (parses : primitives.parseUri options.url = some target)
    (authority : target.authority = some (authorityWith user password host))
    (noHost : '@' ∉ host)
    (constructs : constructUri primitives request options websocket = some uri)
    (extracts : extractBasicAuth primitives uri = some (credentials, stripped))
    {start headers : HeaderMap}
    (builds : buildHeaders request context options credentials start = some headers) :
    (∃ value, headers.getAll .authorization = [value] ∧ value.bytes =
      utf8 ("Basic ".toList ++ primitives.base64 (utf8 (userinfo user password)))) ∧
    stripped.authority = some host := by
  have free : '@' ∉ userinfo user password := by
    intro mem
    have inside : '@' ∈ encodeUserinfo user ∨ '@' ∈ encodeUserinfo password := by
      rw [userinfo] at mem
      split at mem <;> simp_all
    exact inside.elim (fun mem => absurd (plain_of_mem_encodeUserinfo mem) (by decide))
      fun mem => absurd (plain_of_mem_encodeUserinfo mem) (by decide)
  have isAuthority := (authority_constructUri keeps parses constructs).trans authority
  obtain ⟨isHost, value, rfl, payload⟩ := extractBasicAuth_eq keeps isAuthority free noHost extracts
  refine ⟨⟨value, ?_, payload⟩, isHost⟩
  simp only [buildHeaders, bind_eq_bind, bind_eq_some_iff] at builds
  obtain ⟨_, _, _, _, _, _, target, _, same⟩ := builds
  rw [← some.inj same, applyUrlCredentials, Headers.HeaderMap.getAll_insert, if_pos rfl]

end

/-- A request sent to a target whose URL has a user name and a password carries them in its one
Authorization header, and addresses the host alone, exactly if no character of the two is encoded in
a URL and the password is not empty. -/
theorem url_credentials_reach_the_target {primitives : ProxyPrimitives}
    (keeps : ∀ text kept, primitives.parseAuthority text = some kept → kept = text)
    (decodable : Function.Injective primitives.base64)
    {user password host : Text} {options : TargetHTTPOptions} {target : Uri}
    (parses : primitives.parseUri options.url = some target)
    (authority : target.authority = some (authorityWith user password host))
    (noHost : '@' ∉ host) (request : ClientRequest) (context : ClientContext) (key : Text)
    (upstream : UpstreamRequest)
    (sends : proxyNormalRequest primitives request context options = some upstream ∨
      proxyWsInner primitives request context options key = some upstream) :
    upstream.Carries primitives user password host ↔
      (∀ letter ∈ user ++ password, isEncodedInUserinfo letter = false) ∧ password ≠ [] := by
  have sent : (∃ value, upstream.headers.getAll .authorization = [value] ∧ value.bytes =
      utf8 ("Basic ".toList ++ primitives.base64 (utf8 (userinfo user password)))) ∧
      upstream.uri.authority = some host := by
    rcases sends with sends | sends
    · simp only [proxyNormalRequest, bind_eq_bind, bind_eq_some_iff] at sends
      obtain ⟨uri, constructs, _, extracts, headers, builds, same⟩ := sends
      cases same
      exact userinfo_sent keeps parses authority noHost constructs extracts builds
    · simp only [proxyWsInner, bind_eq_bind, bind_eq_some_iff] at sends
      obtain ⟨uri, constructs, _, extracts, start, _, headers, builds, same⟩ := sends
      cases same
      exact userinfo_sent keeps parses authority noHost constructs extracts builds
  rw [← userinfo_eq_iff]
  obtain ⟨⟨value, only, payload⟩, isHost⟩ := sent
  constructor
  · rintro ⟨⟨other, isOnly, intact⟩, -⟩
    obtain rfl : value = other := (cons.inj (only.symm.trans isOnly)).1
    exact utf8_injective (decodable
      (append_cancel_left (utf8_injective (payload.symm.trans intact))))
  · intro same
    exact ⟨⟨value, only, same ▸ payload⟩, isHost⟩

def base64Letter (digit : Nat) : Char :=
  "ABCDEFGHIJKLMNOPQRSTUVWXYZabcdefghijklmnopqrstuvwxyz0123456789+/".toList.getD digit 'A'

def base64 : List UInt8 → Text
  | [] => []
  | [a] => [base64Letter (a.toNat / 4), base64Letter (a.toNat % 4 * 16), '=', '=']
  | [a, b] => [base64Letter (a.toNat / 4), base64Letter (a.toNat % 4 * 16 + b.toNat / 16),
      base64Letter (b.toNat % 16 * 4), '=']
  | a :: b :: c :: rest =>
    base64Letter (a.toNat / 4) :: base64Letter (a.toNat % 4 * 16 + b.toNat / 16) ::
      base64Letter (b.toNat % 16 * 4 + c.toNat / 64) :: base64Letter (c.toNat % 64) ::
      base64 rest

theorem base64Letter_eq {first second : Nat} (same : base64Letter first = base64Letter second)
    (small : first < 64) (other : second < 64) : first = second := by
  have all : ∀ a b : Fin 64, base64Letter a = base64Letter b → a = b := by decide +kernel
  exact Fin.mk.inj (all ⟨first, small⟩ ⟨second, other⟩ same)

theorem base64Letter_ne_padding {digit : Nat} (small : digit < 64) : base64Letter digit ≠ '=' := by
  have all : ∀ digit : Fin 64, base64Letter digit ≠ '=' := by decide +kernel
  exact all ⟨digit, small⟩

theorem base64_injective : Function.Injective base64 := by
  intro first second same
  have bound := UInt8.toNat_lt
  fun_induction base64 first generalizing second with
  | case4 a b c rest ih =>
    rcases second with - | ⟨x, - | ⟨y, - | ⟨z, others⟩⟩⟩ <;>
      simp only [base64, cons.injEq, reduceCtorEq] at same
    · grind [base64Letter_ne_padding]
    · grind [base64Letter_ne_padding]
    obtain ⟨one, two, three, four, rest⟩ := same
    have := base64Letter_eq one
    have := base64Letter_eq two
    have := base64Letter_eq three
    have := base64Letter_eq four
    have := bound a; have := bound b; have := bound c
    have := bound x; have := bound y; have := bound z
    rw [ih rest, UInt8.toNat_inj.mp (show a.toNat = x.toNat by omega),
      UInt8.toNat_inj.mp (show b.toNat = y.toNat by omega),
      UInt8.toNat_inj.mp (show c.toNat = z.toNat by omega)]
  | _ =>
    fun_cases base64 second <;>
      grind [base64Letter_eq, base64Letter_ne_padding, UInt8.toNat_inj, base64]

def plainPrimitives : ProxyPrimitives where
  parseUri url := some ⟨some "http".toList, some url, some ⟨['/'], none⟩⟩
  parseAuthority := some
  parsePathAndQuery path := some ⟨path, none⟩
  base64 := base64

def plainRequest : ClientRequest := ⟨.get, some ⟨['/'], none⟩, .empty⟩

def plainContext : ClientContext := ⟨none, none, "http".toList, none⟩

def sentWith (user password : String) : Option UpstreamRequest :=
  proxyNormalRequest plainPrimitives plainRequest plainContext
    ⟨authorityWith user.toList password.toList "db:80".toList, .disabled, []⟩

theorem plain_credentials_reach_the_target : ∃ upstream, sentWith "u" "pw" = some upstream ∧
    upstream.Carries plainPrimitives "u".toList "pw".toList "db:80".toList := by
  obtain ⟨upstream, sends⟩ := isSome_iff_exists.mp
    (show (sentWith "u" "pw").isSome = true by decide +kernel)
  exact ⟨upstream, sends, (url_credentials_reach_the_target
    (fun _ _ same => (Option.some.inj same).symm) base64_injective rfl rfl (by decide) plainRequest
    plainContext [] upstream (.inl sends)).mpr
    ⟨forall_iff_forall_mem.mp (by decide), by decide⟩⟩

theorem encoded_password_is_not_decoded :
    (sentWith "u" "p@w").map (fun upstream =>
      (upstream.headers.getAll .authorization).map HeaderValue.bytes) =
        some [utf8 ("Basic ".toList ++ base64 (utf8 "u:p%40w".toList))] ∧
      base64 (utf8 "u:p%40w".toList) ≠ base64 (utf8 "u:p@w".toList) := by
  decide +kernel

open Headers HeaderValue HeaderMap

/-! ### Requests that differ in credentials -/

inductive PercentEncodes : List UInt8 → List UInt8 → Prop
  | nil : PercentEncodes [] []
  | literal (byte : UInt8) (raw plain : List UInt8) (unescaped : byte ≠ 0x25)
      (rest : PercentEncodes raw plain) : PercentEncodes (byte :: raw) (byte :: plain)
  | escape (high low : UInt8) (highDigit lowDigit : UInt8) (raw plain : List UInt8)
      (isHigh : hexDigit high = some highDigit) (isLow : hexDigit low = some lowDigit)
      (rest : PercentEncodes raw plain) :
      PercentEncodes (0x25 :: high :: low :: raw) ((16 * highDigit + lowDigit) :: plain)

theorem PercentEncodes.percentDecode {raw plain : List UInt8} (encodes : PercentEncodes raw plain) :
    percentDecode raw = plain := by
  induction encodes with
  | nil => rfl
  | literal byte raw plain unescaped rest ih => rw [percentDecode_cons unescaped, ih]
  | escape high low highDigit lowDigit raw plain isHigh isLow rest ih =>
    rw [Http.percentDecode, isHigh, isLow, ih]

variable {plain : List UInt8} {pair : Text} {first second : HeaderMap} {texts : List Text}

theorem PercentEncodes.refl (unescaped : 0x25 ∉ plain) : PercentEncodes plain plain := by
  induction plain with
  | nil => exact .nil
  | cons byte plain ih =>
    rw [mem_cons, not_or] at unescaped
    exact .literal byte plain plain (Ne.symm unescaped.1) (ih unescaped.2)

def IsSessionCookie (pair : Text) : Prop :=
  ∃ name value, pair = name ++ '=' :: value ∧ '=' ∉ name ∧
    (PercentEncodes (utf8 (trim name)) sessionCookieName ∨
      PercentEncodes (utf8 (trim name)) loopbackSessionCookieName)

def IsTicketPair (pair : Text) : Prop :=
  ∃ key rest, pair = key ++ rest ∧ '=' ∉ key ∧ (rest = [] ∨ rest.head? = some '=') ∧
    PercentEncodes (utf8 (key.map fun letter => if letter = '+' then ' ' else letter))
      warpgateTicket

def HasWarpgateScheme (value : HeaderValue) : Prop :=
  ∃ lead scheme rest, value.letters = lead ++ (scheme ++ rest) ∧ lead.all isSpace = true ∧
    scheme.map Char.toLower = "warpgate".toList ∧
    (rest = [] ∨ ∃ letter, rest.head? = some letter ∧ isSpace letter = true)

def QueryAlike (first second : Text) : Prop :=
  List.Forall₂ (SameOrSecret IsTicketPair) (first.splitOn '&') (second.splitOn '&')

def UrlAlike (first second : Text) : Prop :=
  ∃ base firstQuery secondQuery fragment,
    first = base ++ '?' :: (firstQuery ++ fragment) ∧
    second = base ++ '?' :: (secondQuery ++ fragment) ∧
    '?' ∉ base ∧ '#' ∉ base ∧ '#' ∉ firstQuery ∧ '#' ∉ secondQuery ∧
    (fragment = [] ∨ fragment.head? = some '#') ∧ QueryAlike firstQuery secondQuery

def RefererAlike (first second : HeaderValue) : Prop :=
  first = second ∨ UrlAlike first.letters second.letters

def CookiesAlike (first second : HeaderValue) : Prop :=
  List.Forall₂ (SameOrSecret IsSessionCookie) (first.letters.splitOn ';')
    (second.letters.splitOn ';')

structure ClientRequest.Alike (first second : ClientRequest) : Prop where
  method : first.method = second.method
  address : first.pathAndQuery = second.pathAndQuery ∨
    ∃ path firstQuery secondQuery, first.pathAndQuery = some ⟨path, some firstQuery⟩ ∧
      second.pathAndQuery = some ⟨path, some secondQuery⟩ ∧ QueryAlike firstQuery secondQuery
  names : first.headers.keys = second.headers.keys
  credentials : ∀ name, name = .authorization ∨ name = .proxyAuthorization →
    List.Forall₂ (SameOrSecret HasWarpgateScheme) (first.headers.getAll name)
      (second.headers.getAll name)
  referers : List.Forall₂ RefererAlike (first.headers.getAll .referer)
    (second.headers.getAll .referer)
  cookies : List.Forall₂ CookiesAlike (first.headers.getAll .cookie)
    (second.headers.getAll .cookie)
  others : ∀ name, name ∉ [HeaderName.authorization, .proxyAuthorization, .referer, .cookie] →
    isWarpgateHeader name = false → isForwardingHeader name = false →
    first.headers.getAll name = second.headers.getAll name

theorem PercentEncodes.nil_iff (encodes : PercentEncodes [] plain) : plain = [] := by
  cases encodes
  rfl

theorem takeWhile_key {k rest : Text} (free : '=' ∉ k)
    (ends : rest = [] ∨ rest.head? = some '=') : (k ++ rest).takeWhile (· ≠ '=') = k := by
  have stops : ∀ letter ∈ k, decide (letter ≠ '=') = true :=
    fun letter mem => decide_eq_true fun same => free (same ▸ mem)
  rw [takeWhile_append_of_pos stops]
  rcases ends with rfl | starts
  · simp
  · obtain ⟨tail, rfl⟩ := head?_eq_some_iff.mp starts
    simp

theorem IsTicketPair.recognized (isPair : IsTicketPair pair) : isTicketQueryPair pair = true := by
  obtain ⟨k, rest, rfl, free, ends, encodes⟩ := isPair
  have named : k ≠ [] := by
    rintro rfl
    exact absurd encodes.nil_iff (by decide)
  refine decide_eq_true ?_
  rw [formKey, if_neg (by simp [named]), takeWhile_key free ends]
  exact congrArg some encodes.percentDecode

theorem IsTicketPair.internal (isPair : IsTicketPair pair) : isInternalSegment pair = true := by
  rw [isInternalSegment, Bool.or_eq_true]
  exact .inr isPair.recognized

theorem IsSessionCookie.dropped (isCookie : IsSessionCookie pair) :
    pair.all isSpace = false ∧ cookieForTarget pair = some none := by
  obtain ⟨name, v, rfl, free, encodes⟩ := isCookie
  have named : trim name ≠ [] := by
    intro blank
    rw [blank] at encodes
    rcases encodes with sess | loopback
    · exact absurd sess.nil_iff (by decide)
    · exact absurd loopback.nil_iff (by decide)
  have isSession : isWarpgateSessionCookieName (trim name) = true := by
    rw [isWarpgateSessionCookieName, decodedCookieName, trim_trim]
    rcases encodes with sess | loopback
    · simp [sess.percentDecode]
    · simp [loopback.percentDecode]
  constructor
  · rw [all_append, all_cons, show isSpace '=' = false from by decide]
    simp
  · simp [cookieForTarget, parseCookie, splitOnce_append free, named, isSession]

theorem HasWarpgateScheme.recognized {v : HeaderValue} (has : HasWarpgateScheme v) :
    isWarpgateAuthorization v.letters = true := by
  obtain ⟨lead, scheme, rest, written, leads, isScheme, ends⟩ := has
  have solid : ∀ letter ∈ scheme, isSpace letter = false := by
    intro letter mem
    have lower : letter.toLower ∈ "warpgate".toList := by
      rw [← isScheme]
      exact mem_map_of_mem mem
    have stays : ∀ space ∈ [' ', '\t', '\n', '\r', '\x0c'], space.toLower ∉ "warpgate".toList :=
      forall_iff_forall_mem.mp (by decide)
    exact decide_eq_false fun space => stays letter space lower
  have begins : trimStart (scheme ++ rest) = scheme ++ rest := by
    cases scheme with
    | nil => cases isScheme
    | cons letter scheme =>
      rw [trimStart, cons_append, dropWhile_cons_of_neg]
      rw [solid letter (.head _)]
      exact Bool.false_ne_true
  have words : ∀ letter ∈ scheme, (!isSpace letter) = true := by
    intro letter mem
    rw [solid letter mem]
    rfl
  refine decide_eq_true ?_
  rw [written, trimStart, dropWhile_append_of_pos (all_eq_true.mp leads), ← trimStart,
    begins, takeWhile_append_of_pos words, map_append, isScheme]
  rcases ends with rfl | ⟨letter, starts, space⟩
  · simp
  · obtain ⟨tail, rfl⟩ := head?_eq_some_iff.mp starts
    simp [space]

variable {name : HeaderName}

theorem credentialsHeaderForTarget_congr
    (alike : Forall₂ (SameOrSecret HasWarpgateScheme) (first.getAll name) (second.getAll name)) :
    credentialsHeaderForTarget first name = credentialsHeaderForTarget second name := by
  have dropped : ∀ v, HasWarpgateScheme v →
      (v.toStr.filter fun text => !isWarpgateAuthorization text) = none := by
    intro v has
    unfold toStr
    split
    · rw [filter_some, has.recognized]
      rfl
    · rfl
  rw [credentialsHeaderForTarget, credentialsHeaderForTarget, filterMap_eq_of_secret alike dropped]

def keptPairs (query : Text) : List Text :=
  (query.splitOn '&').filterMap fun pair => if isTicketQueryPair pair then none else some pair

theorem keptPairs_of_none {query : Text}
    (none' : (query.splitOn '&').any isTicketQueryPair = false) :
    keptPairs query = query.splitOn '&' := by
  rw [List.any_eq_false] at none'
  refine (filterMap_congr fun pair mem => if_neg (none' pair mem)).trans ?_
  exact filterMap_some

theorem withoutTicketQueryParam_eq {base query fragment : Text} (noQuery : '?' ∉ base)
    (noFragment : '#' ∉ base) (inQuery : '#' ∉ query)
    (ends : fragment = [] ∨ fragment.head? = some '#') :
    withoutTicketQueryParam (base ++ '?' :: (query ++ fragment)) =
      if (query.splitOn '&').any isTicketQueryPair then
        base ++ (if join "&" (keptPairs query) = [] then []
          else '?' :: join "&" (keptPairs query)) ++
          fragment else base ++ '?' :: (query ++ fragment) := by
  have pre : '#' ∉ base ++ '?' :: query := by simp [noFragment, inQuery]
  rw [withoutTicketQueryParam, replaceTicketQueryPairs]
  rcases ends with rfl | starts
  · rw [append_nil, splitOnce, if_neg pre]
    simp only [splitOnce_append noQuery, Bool.not_eq_true', keptPairs, map_none,
      getD_none]
    cases (query.splitOn '&').any isTicketQueryPair <;> rfl
  · obtain ⟨tail, rfl⟩ := head?_eq_some_iff.mp starts
    rw [show base ++ '?' :: (query ++ '#' :: tail) = (base ++ '?' :: query) ++ '#' :: tail by simp,
      splitOnce_append pre]
    simp only [splitOnce_append noQuery, Bool.not_eq_true', keptPairs, map_some,
      getD_some]
    cases (query.splitOn '&').any isTicketQueryPair <;> rfl

theorem QueryAlike.keptPairs {first second : Text} (alike : QueryAlike first second) :
    keptPairs first = keptPairs second :=
  filterMap_eq_of_secret alike fun _ isPair => if_pos isPair.recognized

theorem QueryAlike.any {first second : Text} (alike : QueryAlike first second) :
    (first.splitOn '&').any isTicketQueryPair = (second.splitOn '&').any isTicketQueryPair := by
  have marks : _ = (second.splitOn '&').map isTicketQueryPair :=
    map_eq_of_forall₂ (alike.imp fun _ _ same => same.congr fun _ isPair => isPair.recognized)
  have same := congrArg (fun flags => List.any flags id) marks
  rwa [List.any_map, List.any_map] at same

theorem UrlAlike.withoutTicketQueryParam {first second : Text} (alike : UrlAlike first second) :
    withoutTicketQueryParam first = withoutTicketQueryParam second := by
  obtain ⟨base, firstQuery, secondQuery, fragment, rfl, rfl, noQuery, noFragment, inFirst, inSecond,
    ends, queries⟩ := alike
  rw [withoutTicketQueryParam_eq noQuery noFragment inFirst ends,
    withoutTicketQueryParam_eq noQuery noFragment inSecond ends, queries.keptPairs]
  have sameAny := queries.any
  cases noTicket : (secondQuery.splitOn '&').any isTicketQueryPair with
  | true => rw [sameAny, noTicket, if_pos rfl, if_pos rfl]
  | false =>
    rw [noTicket] at sameAny
    have samePairs := queries.keptPairs
    rw [keptPairs_of_none sameAny, keptPairs_of_none noTicket] at samePairs
    have sameQuery := congrArg (intercalate ['&']) samePairs
    rw [intercalate_splitOn, intercalate_splitOn] at sameQuery
    rw [sameQuery, noTicket]

theorem refererHeaderForTarget_congr
    (alike : Forall₂ RefererAlike (first.getAll .referer) (second.getAll .referer))
    (readable : (first.getAll .referer).map isText = (second.getAll .referer).map isText) :
    refererHeaderForTarget first = refererHeaderForTarget second := by
  refine congrArg joined (filterMap_eq_of_forall₂ ?_)
  refine (forall₂_and_of_map_eq alike readable).imp ?_
  rintro one other ⟨rfl | urls, sameText⟩
  · rfl
  · rw [toStr, toStr, sameText]
    split
    · exact congrArg some urls.withoutTicketQueryParam
    · rfl

def cookiesForTarget (text : Text) : List (Option (Option Text)) :=
  (splitCookies text).map cookieForTarget

theorem cookiesForTarget_congr {first second : HeaderValue} (alike : CookiesAlike first second) :
    cookiesForTarget first.letters = cookiesForTarget second.letters := by
  have asFilterMap : ∀ text, cookiesForTarget text = (text.splitOn ';').filterMap fun pair =>
      if pair.all isSpace then none else some (cookieForTarget pair) := by
    intro text
    rw [cookiesForTarget, splitCookies, ← filterMap_eq_filter, ← filterMap_eq_map,
      filterMap_filterMap]
    congr 1
    funext pair
    rw [Option.guard]
    cases pair.all isSpace <;> rfl
  have dropped : ∀ pair, IsSessionCookie pair →
      (if pair.all isSpace then none else some (cookieForTarget pair)) = some (some none) := by
    intro pair isCookie
    rw [isCookie.dropped.1, isCookie.dropped.2]
    rfl
  rw [asFilterMap, asFilterMap, filterMap_eq_of_secret alike dropped]

theorem mapM_toStr {values : List HeaderValue} (readable : values.mapM toStr = some texts) :
    texts = values.map letters := by
  induction values generalizing texts with
  | nil =>
    rw [mapM_nil] at readable
    exact (some.inj readable).symm
  | cons v values ih =>
    rw [mapM_cons] at readable
    obtain ⟨text, isText, rest⟩ := bind_eq_some_iff.mp readable
    obtain ⟨texts', areTexts, isAll⟩ := bind_eq_some_iff.mp rest
    rw [← some.inj isAll, map_cons, ih areTexts]
    unfold toStr at isText
    split at isText
    · rw [some.inj isText]
    · cases isText

variable {headers : HeaderMap}

theorem cookieHeaderForTarget_eq (readable : (headers.getAll .cookie).mapM toStr = some texts) :
    cookieHeaderForTarget headers =
      (((headers.getAll .cookie).flatMap fun v => cookiesForTarget v.letters).mapM id).map
        fun cookies => joined (cookies.filterMap id) := by
  have byCookie : (texts.flatMap splitCookies).mapM cookieForTarget =
      ((headers.getAll .cookie).flatMap fun v => cookiesForTarget v.letters).mapM id := by
    rw [mapM_toStr readable, flatMap_map, ← Function.id_comp cookieForTarget,
      ← mapM_map, map_flatMap]
    rfl
  rw [cookieHeaderForTarget, readable, ← byCookie, map_eq_bind]
  rfl

theorem cookieHeaderForTarget_congr
    (alike : Forall₂ CookiesAlike (first.getAll .cookie) (second.getAll .cookie))
    (parses : (cookieHeaderForTarget first).isSome = (cookieHeaderForTarget second).isSome) :
    cookieHeaderForTarget first = cookieHeaderForTarget second := by
  have fails : ∀ headers : HeaderMap, (headers.getAll .cookie).mapM toStr = none →
      cookieHeaderForTarget headers = none := by
    intro headers unreadable
    rw [cookieHeaderForTarget, unreadable]
    rfl
  cases readsFirst : (first.getAll .cookie).mapM toStr with
  | none =>
    rw [fails first readsFirst, isSome_none] at parses
    rw [fails first readsFirst]
    exact (isNone_iff_eq_none.mp (isSome_eq_false_iff.mp parses.symm)).symm
  | some firstTexts =>
    cases readsSecond : (second.getAll .cookie).mapM toStr with
    | none =>
      rw [fails second readsSecond, isSome_none] at parses
      rw [fails second readsSecond]
      exact isNone_iff_eq_none.mp (isSome_eq_false_iff.mp parses)
    | some secondTexts =>
      have same : ((first.getAll .cookie).flatMap fun v => cookiesForTarget v.letters) =
          (second.getAll .cookie).flatMap fun v => cookiesForTarget v.letters := by
        have each := map_eq_of_forall₂ (alike.imp fun _ _ => cookiesForTarget_congr)
        rw [flatMap_def, flatMap_def]
        exact congrArg flatten each
      rw [cookieHeaderForTarget_eq readsFirst, cookieHeaderForTarget_eq readsSecond, same]

variable {first second : ClientRequest}

theorem forwardedValue_congr (alike : first.Alike second)
    (parses : (cookieHeaderForTarget first.headers).isSome =
      (cookieHeaderForTarget second.headers).isSome)
    (readable : (first.headers.getAll .referer).map isText =
      (second.headers.getAll .referer).map isText) :
    forwardedValue first.headers = forwardedValue second.headers := by
  funext name
  unfold forwardedValue
  split
  · rfl
  · next forwards =>
    split
    · next isCredentials =>
      have named : name = .authorization ∨ name = .proxyAuthorization := by
        simpa using isCredentials
      rw [credentialsHeaderForTarget_congr (alike.credentials name named)]
    · next notCredentials =>
      split
      · rw [refererHeaderForTarget_congr alike.referers readable]
      · next notReferer =>
        split
        · exact cookieHeaderForTarget_congr alike.cookies parses
        · next notCookie =>
          have ordinary : name ∉
              [HeaderName.authorization, .proxyAuthorization, .referer, .cookie] := by
            simp only [Bool.or_eq_true, decide_eq_true_eq, not_or] at notCredentials
            simp [notCredentials, notReferer, notCookie]
          have foreign : isForwardingHeader name = false ∧ isWarpgateHeader name = false := by
            simp only [mayForwardHeader, Bool.not_eq_true', Bool.and_eq_false_iff] at forwards
            simp_all
          rw [alike.others name ordinary foreign.2 foreign.1]

theorem stripWarpgateInternalQueryParams_congr (P : ProxyPrimitives) {path : Text}
    {firstQuery secondQuery : Text} (alike : QueryAlike firstQuery secondQuery) :
    stripWarpgateInternalQueryParams P ⟨path, some firstQuery⟩ =
      stripWarpgateInternalQueryParams P ⟨path, some secondQuery⟩ := by
  have dropped : ∀ pair, IsTicketPair pair → (!isInternalSegment pair) = false := by
    intro pair isPair
    rw [isPair.internal]
    rfl
  dsimp only [stripWarpgateInternalQueryParams]
  rw [filter_eq_of_secret alike dropped]

/-! ### They lead to one upstream request -/

section

variable (alike : first.Alike second)

include alike

theorem constructUri_congr (P : ProxyPrimitives) (options : TargetHTTPOptions) (websocket : Bool) :
    constructUri P first options websocket = constructUri P second options websocket := by
  have stripped : (first.pathAndQuery.bind (stripWarpgateInternalQueryParams P)) =
      second.pathAndQuery.bind (stripWarpgateInternalQueryParams P) := by
    rcases alike.address with same | ⟨path, firstQuery, secondQuery, isFirst, isSecond, queries⟩
    · rw [same]
    · rw [isFirst, isSecond]
      exact stripWarpgateInternalQueryParams_congr P queries
  rw [constructUri, constructUri, stripped]

theorem targetAcceptEncoding_congr :
    targetAcceptEncoding first.headers = targetAcceptEncoding second.headers := by
  have same : ∀ name, name = .accept ∨ name = .acceptEncoding →
      first.headers.getAll name = second.headers.getAll name := by
    rintro name (rfl | rfl)
    · exact alike.others _ (by decide) (by decide) (by decide)
    · exact alike.others _ (by decide) (by decide) (by decide)
  rw [targetAcceptEncoding, targetAcceptEncoding, same .accept (.inl rfl),
    same .acceptEncoding (.inr rfl)]

theorem contains_congr (name : HeaderName) :
    first.headers.contains name = second.headers.contains name := by
  rw [HeaderMap.contains, HeaderMap.contains, alike.names]

variable
  (parses : (cookieHeaderForTarget first.headers).isSome =
    (cookieHeaderForTarget second.headers).isSome)
  (readable : (first.headers.getAll .referer).map HeaderValue.isText =
    (second.headers.getAll .referer).map HeaderValue.isText)

include parses readable

theorem buildHeaders_congr (context : ClientContext) (options : TargetHTTPOptions)
    (credentials : Option HeaderValue) (start : HeaderMap) :
    buildHeaders first context options credentials start =
      buildHeaders second context options credentials start := by
  have copies : copyHeader first.headers = copyHeader second.headers := by
    funext target name
    rw [copyHeader, copyHeader, forwardedValue_congr alike parses readable]
  have own : ∀ target, injectOwnHeaders first.headers context target =
      injectOwnHeaders second.headers context target := by
    intro target
    rw [injectOwnHeaders, injectOwnHeaders, targetAcceptEncoding_congr alike]
  rw [buildHeaders, buildHeaders, copyServerRequest, copyServerRequest, copies, alike.names]
  simp only [own]

theorem proxyNormalRequest_congr (P : ProxyPrimitives) (context : ClientContext)
    (options : TargetHTTPOptions) :
    proxyNormalRequest P first context options = proxyNormalRequest P second context options := by
  rw [proxyNormalRequest, proxyNormalRequest, constructUri_congr alike, alike.method,
    contains_congr alike, contains_congr alike]
  simp only [buildHeaders_congr alike parses readable]

theorem proxyWsInner_congr (P : ProxyPrimitives) (context : ClientContext)
    (options : TargetHTTPOptions) (k : Text) :
    proxyWsInner P first context options k = proxyWsInner P second context options k := by
  grind [proxyWsInner, constructUri_congr, buildHeaders_congr]

end

/-! ### Where its headers come from -/

section

variable {target res : HeaderMap} {v : Option Text} {credentials : Option HeaderValue}

theorem getAll_optionalHeader (adds : optionalHeader name v target = some res)
    (asked : HeaderName) :
    res.getAll asked = if asked = name then
      target.getAll name ++ (v.bind tryFrom).toList else target.getAll asked := by
  cases v with
  | none =>
    obtain rfl := some.inj adds
    split
    · next same => rw [same, bind_none, toList_none, append_nil]
    · rfl
  | some text =>
    obtain ⟨written, isWritten, rfl⟩ := map_eq_some_iff.mp adds
    rw [bind_some, isWritten]
    exact target.getAll_append name written asked

theorem optionalHeader_valid (adds : optionalHeader name v target = some res) :
    (v.bind tryFrom).toList.map some = v.toList.map tryFrom := by
  cases v with
  | none => rfl
  | some text =>
    obtain ⟨written, isWritten, -⟩ := map_eq_some_iff.mp adds
    rw [bind_some, toList_some, map_singleton, isWritten]
    rfl

theorem getAll_of_ne (adds : optionalHeader name v target = some res) {asked : HeaderName}
    (other : asked ≠ name) : res.getAll asked = target.getAll asked := by
  rw [getAll_optionalHeader adds, if_neg other]

theorem getAll_copyServerRequest (kept : mayForwardHeader name = false)
    (copies : copyServerRequest headers target = some res) :
    res.getAll name = target.getAll name := by
  unfold copyServerRequest at copies
  generalize headers.keys = names at copies
  induction names generalizing target with
  | nil => rw [some.inj copies]
  | cons copied names ih =>
    rw [foldlM_cons] at copies
    obtain ⟨next, step, rest⟩ := bind_eq_some_iff.mp copies
    rw [ih rest]
    obtain ⟨forwarded, isForwarded, adds⟩ := bind_eq_some_iff.mp step
    by_cases same : name = copied
    · subst same
      rw [forwardedValue, kept] at isForwarded
      obtain rfl := some.inj isForwarded
      rw [some.inj adds]
    · exact getAll_of_ne adds same

theorem getAll_injectForwardingHeaders (other : isForwardingHeader name = false)
    (adds : injectForwardingHeaders context target = some res) :
    res.getAll name = target.getAll name := by
  have unlike : name ≠ .xForwardedHost ∧ name ≠ .xForwardedProto ∧ name ≠ .xForwardedFor := by
    have unlisted := of_decide_eq_false other
    simp only [mem_cons, not_or] at unlisted
    exact ⟨unlisted.2.2.1, unlisted.2.2.2.1, unlisted.2.1⟩
  obtain ⟨withHost, addsHost, rest⟩ := bind_eq_some_iff.mp adds
  obtain ⟨withProto, addsProto, addsIp⟩ := bind_eq_some_iff.mp rest
  have addsProto' : optionalHeader .xForwardedProto (some context.trustedProto) withHost =
      some withProto := addsProto
  rw [getAll_of_ne addsIp unlike.2.2, getAll_of_ne addsProto' unlike.2.1,
    getAll_of_ne addsHost unlike.1]

def identityText (name : HeaderName) (auth : SessionAuthorization) : Text :=
  if name = .xWarpgateUsername then auth.username.toList else authenticationType auth

def FromSession (context : ClientContext) (name : HeaderName) (values : List HeaderValue) : Prop :=
  values.map some = (namedAuth context).toList.map fun auth =>
    HeaderValue.tryFrom (identityText name auth)

theorem injectOwnHeaders_fromSession
    (isIdentity : name = .xWarpgateUsername ∨ name = .xWarpgateAuthenticationType)
    (absent : target.getAll name = []) (adds : injectOwnHeaders headers context target = some res) :
    FromSession context name (res.getAll name) := by
  obtain ⟨identified, identifies, rest⟩ := Option.bind_eq_some_iff.mp adds
  have encodingKept : res.getAll name = identified.getAll name := by
    rw [← Option.some.inj rest, getAll_append, if_neg]
    rcases isIdentity with rfl | rfl
    · decide
    · decide
  obtain ⟨withName, addsName, addsType⟩ := Option.bind_eq_some_iff.mp identifies
  have values : ∀ {text : SessionAuthorization → Text} {pre post : HeaderMap},
      optionalHeader name ((namedAuth context).map text) pre = some post →
      (((namedAuth context).map text).bind tryFrom).toList.map some =
        (namedAuth context).toList.map fun auth => tryFrom (text auth) := by
    intro text pre post added
    rw [optionalHeader_valid added, Option.toList_map, List.map_map]
    rfl
  rw [FromSession, encodingKept]
  rcases isIdentity with rfl | rfl
  · rw [getAll_of_ne addsType (by decide), getAll_optionalHeader addsName, if_pos rfl, absent,
      nil_append, values addsName]
    rfl
  · rw [getAll_optionalHeader addsType, if_pos rfl, getAll_of_ne addsName (by decide), absent,
      nil_append, values addsType]
    rfl

def TargetHTTPOptions.Configures (options : TargetHTTPOptions) (name : HeaderName) : Prop :=
  ∃ configured ∈ options.headers, HeaderName.tryFrom configured.1 = some name

def TargetHTTPOptions.ConfiguredAs (options : TargetHTTPOptions) (name : HeaderName)
    (value : HeaderValue) : Prop :=
  ∃ configured ∈ options.headers, HeaderName.tryFrom configured.1 = some name ∧
    HeaderValue.tryFrom configured.2 = some value

theorem rewriteHeader_spec {configured : Text × Text}
    (rewrites : rewriteHeader target configured = some res) :
    ∃ written v, HeaderName.tryFrom configured.1 = some written ∧
      tryFrom configured.2 = some v ∧ res = target.insert written v := by
  obtain ⟨written, isWritten, rest⟩ := bind_eq_some_iff.mp rewrites
  obtain ⟨v, isValue, rest⟩ := bind_eq_some_iff.mp rest
  exact ⟨written, v, isWritten, isValue, (some.inj rest).symm⟩

theorem rewrite_cases {configured : List (Text × Text)}
    (rewrites : configured.foldlM rewriteHeader target = some res) (name : HeaderName) :
    (∃ e ∈ configured, ∃ v, HeaderName.tryFrom e.1 = some name ∧
        tryFrom e.2 = some v ∧ res.getAll name = [v]) ∨
      (∀ e ∈ configured, HeaderName.tryFrom e.1 ≠ some name) ∧
        res.getAll name = target.getAll name := by
  induction configured generalizing target with
  | nil => exact .inr ⟨nofun, by rw [some.inj rewrites]⟩
  | cons e configured ih =>
    rw [foldlM_cons] at rewrites
    obtain ⟨next, step, rest⟩ := bind_eq_some_iff.mp rewrites
    obtain ⟨written, v, isWritten, isValue, rfl⟩ := rewriteHeader_spec step
    rcases ih rest with ⟨later, mem, found⟩ | ⟨unlisted, same⟩
    · exact .inl ⟨later, .tail _ mem, found⟩
    · grind [getAll_insert]

structure OwnHeaders (context : ClientContext) (options : TargetHTTPOptions)
    (credentials : Option HeaderValue) (headers : HeaderMap) : Prop where
  identity : ∀ name, name = .xWarpgateUsername ∨ name = .xWarpgateAuthenticationType →
    ¬ options.Configures name → FromSession context name (headers.getAll name)
  configured : ∀ name, options.Configures name → name ≠ .authorization ∨ credentials = none →
    ∃ value, options.ConfiguredAs name value ∧ headers.getAll name = [value]
  url : ∀ value, credentials = some value → headers.getAll .authorization = [value]

theorem getAll_applyUrlCredentials (other : name ≠ .authorization ∨ credentials = none) :
    (applyUrlCredentials credentials target).getAll name = target.getAll name := by
  cases credentials <;> grind [applyUrlCredentials, getAll_insert]

theorem buildHeaders_ownHeaders {req : ClientRequest}
    (absent : ∀ name, isWarpgateHeader name = true → target.getAll name = [])
    (builds : buildHeaders req context options credentials target = some res) :
    OwnHeaders context options credentials res := by
  obtain ⟨copied, copies, rest⟩ := bind_eq_some_iff.mp builds
  obtain ⟨forwarded, forwards, rest⟩ := bind_eq_some_iff.mp rest
  obtain ⟨identified, identifies, rest⟩ := bind_eq_some_iff.mp rest
  obtain ⟨rewritten, rewrites, rest⟩ := bind_eq_some_iff.mp rest
  obtain rfl := some.inj rest
  refine ⟨?_, ?_, ?_⟩
  · intro name isIdentity unconfigured
    have unlike : name ≠ .authorization ∧ isWarpgateHeader name = true ∧
        isForwardingHeader name = false ∧ mayForwardHeader name = false := by
      rcases isIdentity with rfl | rfl
      · decide
      · decide
    rw [getAll_applyUrlCredentials (.inl unlike.1)]
    rcases rewrite_cases rewrites name with ⟨e, mem, v, isName, -⟩ | ⟨-, same⟩
    · exact absurd ⟨e, mem, isName⟩ unconfigured
    · rw [same]
      refine injectOwnHeaders_fromSession isIdentity ?_ identifies
      rw [getAll_injectForwardingHeaders unlike.2.2.1 forwards,
        getAll_copyServerRequest unlike.2.2.2 copies, absent name unlike.2.1]
  · rintro name ⟨e, mem, isName⟩ other
    rw [getAll_applyUrlCredentials other]
    rcases rewrite_cases rewrites name with
      ⟨found, foundMember, v, foundName, isValue, only⟩ | ⟨unlisted, -⟩
    · exact ⟨v, ⟨found, foundMember, foundName, isValue⟩, only⟩
    · exact absurd isName (unlisted e mem)
  · rintro v rfl
    rw [applyUrlCredentials, getAll_insert, if_pos rfl]

theorem getAll_websocketHeaders {k : Text} {uri : Uri}
    (starts : websocketHeaders k uri = some res) (isOwn : isWarpgateHeader name = true) :
    res.getAll name = [] := by
  have unlike : name ∉ [HeaderName.connection, .upgrade, .secWebsocketVersion, .secWebsocketKey,
      .host] := by
    intro listed
    have foreign : ∀ other ∈ [HeaderName.connection, .upgrade, .secWebsocketVersion,
        .secWebsocketKey, .host], isWarpgateHeader other = false := by decide
    rw [foreign name listed] at isOwn
    cases isOwn
  simp only [mem_cons, not_mem_nil, or_false, not_or] at unlike
  obtain ⟨noConnection, noUpgrade, noVersion, noKey, noHost⟩ := unlike
  have asOptional : ∀ {written : HeaderName} {v : Text} {pre post : HeaderMap},
      header written v pre = some post → optionalHeader written (some v) pre = some post :=
    fun added => added
  simp only [websocketHeaders, bind_eq_bind, bind_eq_some_iff] at starts
  obtain ⟨first, addsConnection, second, addsUpgrade, third, addsVersion, fourth, addsKey,
    authority, -, addsHost⟩ := starts
  rw [getAll_of_ne (asOptional addsHost) noHost, getAll_of_ne (asOptional addsKey) noKey,
    getAll_of_ne (asOptional addsVersion) noVersion,
    getAll_of_ne (asOptional addsUpgrade) noUpgrade,
    getAll_of_ne (asOptional addsConnection) noConnection, getAll_empty]

end

def urlCredentials (options : TargetHTTPOptions) (websocket : Bool) : Option HeaderValue :=
  ((constructUri primitives request options websocket).bind (extractBasicAuth primitives)).bind
    Prod.fst

/-- The request to a target is the same for any two requests that differ only in credentials for
Warpgate and in the headers that only Warpgate sets, and it carries the identity of the session and
the configured headers. -/
theorem upstream_request_is_independent_of_credentials
    (context : ClientContext) (options : TargetHTTPOptions) (key : Text) :
    (∀ first second : ClientRequest, first.Alike second →
      (cookieHeaderForTarget first.headers).isSome = (cookieHeaderForTarget second.headers).isSome →
      (first.headers.getAll .referer).map HeaderValue.isText =
        (second.headers.getAll .referer).map HeaderValue.isText →
      proxyNormalRequest primitives first context options =
          proxyNormalRequest primitives second context options ∧
        proxyWsInner primitives first context options key =
          proxyWsInner primitives second context options key) ∧
    ∀ request upstream,
      (proxyNormalRequest primitives request context options = some upstream →
        OwnHeaders context options (urlCredentials primitives request options false)
          upstream.headers) ∧
      (proxyWsInner primitives request context options key = some upstream →
        OwnHeaders context options (urlCredentials primitives request options true)
          upstream.headers) := by
  refine ⟨fun first second alike parses readable => ⟨?_, ?_⟩, fun request upstream => ⟨?_, ?_⟩⟩
  · grind [proxyNormalRequest_congr]
  · grind [proxyWsInner_congr]
  · intro sends
    obtain ⟨uri, isUri, rest⟩ := Option.bind_eq_some_iff.mp sends
    obtain ⟨⟨credentials, stripped⟩, extracts, rest⟩ := Option.bind_eq_some_iff.mp rest
    obtain ⟨headers, builds, rest⟩ := Option.bind_eq_some_iff.mp rest
    rw [← Option.some.inj rest, urlCredentials, isUri, Option.bind_some, extracts]
    exact buildHeaders_ownHeaders (fun _ _ => rfl) builds
  · intro sends
    obtain ⟨uri, isUri, rest⟩ := Option.bind_eq_some_iff.mp sends
    obtain ⟨⟨credentials, stripped⟩, extracts, rest⟩ := Option.bind_eq_some_iff.mp rest
    obtain ⟨start, starts, rest⟩ := Option.bind_eq_some_iff.mp rest
    obtain ⟨headers, builds, rest⟩ := Option.bind_eq_some_iff.mp rest
    rw [← Option.some.inj rest, urlCredentials, isUri, Option.bind_some, extracts]
    exact buildHeaders_ownHeaders (fun _ => getAll_websocketHeaders starts) builds

def plainOptions : TargetHTTPOptions where
  url := "app.example".toList
  tlsMode := .preferred
  headers := []

def aliceContext : ClientContext where
  auth := some (.user ⟨1, "alice"⟩)
  trustedHost := some "app.warpgate.example".toList
  trustedProto := "https".toList
  trustedClientIp := none

def requestWith (name : HeaderName) (value : HeaderValue) : ClientRequest where
  method := .get
  pathAndQuery := some ⟨"/".toList, none⟩
  headers := Headers.HeaderMap.empty.append name value

def refersWith (ticket : UInt8)
    (valid : ((0x20 ≤ ticket && ticket ≠ 0x7f) || ticket = 0x09) = true) :
    ClientRequest :=
  requestWith .referer ⟨utf8 "/p?warpgate-ticket=".toList ++ [ticket], by
    rw [List.all_append, List.all_cons, valid]
    decide⟩

theorem alike_of_referer {first second : HeaderValue} (alike : RefererAlike first second) :
    (requestWith .referer first).Alike (requestWith .referer second) where
  method := rfl
  address := .inl rfl
  names := rfl
  credentials := by
    rintro name (rfl | rfl)
    · exact .nil
    · exact .nil
  referers := .cons alike .nil
  cookies := .nil
  others := by
    intro name ordinary _ _
    have unlike : name ≠ .referer := fun same => ordinary (by simp [same])
    rw [requestWith, requestWith, getAll_append, getAll_append, if_neg unlike, if_neg unlike]

theorem isTicketPair_literal (ticket : Char) :
    IsTicketPair ("warpgate-ticket=".toList ++ [ticket]) := by
  refine ⟨"warpgate-ticket".toList, ['=', ticket], rfl, by decide, .inr rfl, ?_⟩
  exact PercentEncodes.refl (by decide)

theorem refersWith_alike {first second : UInt8} {firstValid secondValid}
    (plainFirst : Char.ofNat first.toNat ≠ '#' ∧ Char.ofNat first.toNat ≠ '&')
    (plainSecond : Char.ofNat second.toNat ≠ '#' ∧ Char.ofNat second.toNat ≠ '&') :
    (refersWith first firstValid).Alike (refersWith second secondValid) := by
  have one : ∀ {letter : Char}, letter ≠ '&' → ("warpgate-ticket=".toList ++ [letter]).splitOn '&' =
        ["warpgate-ticket=".toList ++ [letter]] := by
    intro letter unlike
    refine splitOn_eq_singleton ?_
    rw [mem_append, not_or]
    exact ⟨by decide, by simpa using Ne.symm unlike⟩
  refine alike_of_referer (.inr ⟨"/p".toList, "warpgate-ticket=".toList ++ [Char.ofNat first.toNat],
    "warpgate-ticket=".toList ++ [Char.ofNat second.toNat], [], ?_, ?_,
    by decide, by decide, ?_, ?_,
    .inl rfl, ?_⟩)
  · rfl
  · rfl
  · rw [mem_append, not_or]
    exact ⟨by decide, by simpa using Ne.symm plainFirst.1⟩
  · rw [mem_append, not_or]
    exact ⟨by decide, by simpa using Ne.symm plainSecond.1⟩
  · rw [QueryAlike, one plainFirst.2, one plainSecond.2]
    exact .cons (.inr ⟨isTicketPair_literal _, isTicketPair_literal _⟩) .nil

theorem unreadable_ticket_drops_the_referer :
    (refersWith 0x61 (by decide)).Alike (refersWith 0xe9 (by decide)) ∧
      ((proxyNormalRequest plainPrimitives (refersWith 0x61 (by decide)) aliceContext
        plainOptions).map fun upstream => (upstream.headers.getAll .referer).length) = some 1 ∧
      ((proxyNormalRequest plainPrimitives (refersWith 0xe9 (by decide)) aliceContext
        plainOptions).map fun upstream => (upstream.headers.getAll .referer).length) = some 0 := by
  refine ⟨refersWith_alike (by decide) (by decide), ?_, ?_⟩
  · decide +kernel
  · decide +kernel

theorem upstream_request_is_independent_of_a_ticket :
    proxyNormalRequest plainPrimitives (refersWith 0x61 (by decide)) aliceContext plainOptions =
      proxyNormalRequest plainPrimitives (refersWith 0x62 (by decide)) aliceContext
        plainOptions := by
  refine ((upstream_request_is_independent_of_credentials plainPrimitives aliceContext
    plainOptions []).1 _ _ (refersWith_alike (by decide) (by decide)) ?_ ?_).1
  · decide +kernel
  · decide +kernel

end Warpgate.Http
