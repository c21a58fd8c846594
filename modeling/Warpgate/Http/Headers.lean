/-
This file models the parts of a request that the proxy reads.
-/

import Mathlib.Data.List.DropRight
import Warpgate.Headers.Map

namespace Warpgate.Http

open List

abbrev Text := List Char

/-! ### Text -/

def splitOnce (separator : Char) (text : Text) : Option (Text × Text) :=
  if separator ∈ text then
    some (text.takeWhile (· ≠ separator), (text.dropWhile (· ≠ separator)).drop 1)
  else none

variable {separator : Char}

theorem splitOnce_append {pre : Text} (free : separator ∉ pre)
    (post : Text) : splitOnce separator (pre ++ separator :: post) = some (pre, post) := by
  have stops : ∀ letter ∈ pre, decide (letter ≠ separator) = true :=
    fun letter mem => decide_eq_true fun same => free (same ▸ mem)
  rw [splitOnce, if_pos (by simp), takeWhile_append_of_pos stops,
    dropWhile_append_of_pos stops]
  simp

theorem splitOnce_eq_some {text pre post : Text}
    (splits : splitOnce separator text = some (pre, post)) :
    text = pre ++ separator :: post ∧ separator ∉ pre := by
  have mem : separator ∈ text := by grind [splitOnce]
  obtain ⟨front, back, rfl, free⟩ := eq_append_cons_of_mem mem
  rw [splitOnce_append free] at splits
  cases splits
  exact ⟨rfl, free⟩

def isSpace (letter : Char) : Bool := letter ∈ [' ', '\t', '\n', '\r', '\x0c']

variable (text : Text)

def trimStart : Text := text.dropWhile isSpace

def trimEnd : Text := text.rdropWhile isSpace

def trim : Text := trimEnd (trimStart text)

theorem trim_trim : trim (trim text) = trim text := by
  have started : trimStart (trim text) = trim text := by
    obtain ⟨rest, whole⟩ := List.rdropWhile_prefix isSpace (trimStart text)
    rw [trimStart, List.dropWhile_eq_self_iff]
    intro long
    have first : (trim text ++ rest)[0]? = some (trim text)[0] := by grind
    have trimmed := List.dropWhile_eq_self_iff.mp (List.dropWhile_idempotent isSpace text)
    have whole' : trim text ++ rest = trimStart text := whole
    rw [whole'] at first
    obtain ⟨short, same⟩ := List.getElem?_eq_some_iff.mp first
    rw [← same]
    exact trimmed short
  rw [trim, started]
  exact List.rdropWhile_idempotent isSpace (trimStart text)

def join (separator : String) (parts : List Text) : Text :=
  separator.toList.intercalate parts

theorem notMem_of_mem_splitOn :
    ∀ {text segment : Text}, segment ∈ text.splitOn separator → separator ∉ segment
  | [], segment, mem => by simp_all
  | letter :: rest, segment, mem => by
    rw [splitOn_cons_eq_if_modifyHead] at mem
    split at mem
    · rcases mem_cons.mp mem with rfl | inRest
      · exact not_mem_nil
      · exact notMem_of_mem_splitOn inRest
    · next other =>
      obtain ⟨head, tail, parts⟩ := exists_cons_of_ne_nil (splitOn_ne_nil separator rest)
      have free : ∀ part ∈ head :: tail, separator ∉ part := fun part inRest =>
        notMem_of_mem_splitOn (parts ▸ inRest)
      rw [parts, modifyHead_cons] at mem
      rcases mem_cons.mp mem with rfl | inTail
      · grind
      · exact free segment (.tail _ inTail)

theorem mem_of_mem_intercalate {letter : Char} (other : letter ≠ separator) :
    ∀ {segments : List Text}, letter ∈ [separator].intercalate segments →
      ∃ segment ∈ segments, letter ∈ segment
  | [], mem => by simp at mem
  | [segment], mem => ⟨segment, .head _, by simpa using mem⟩
  | segment :: next :: rest, mem => by
    rw [intercalate_cons_of_ne_nil (cons_ne_nil _ _)] at mem
    simp only [mem_append, mem_singleton, other, or_false] at mem
    rcases mem with inside | inRest
    · exact ⟨segment, .head _, inside⟩
    · obtain ⟨found, isPart, inside⟩ := mem_of_mem_intercalate other inRest
      exact ⟨found, .tail _ isPart, inside⟩

def utf8 : List UInt8 := text.flatMap String.utf8EncodeChar

def hexDigit (byte : UInt8) : Option UInt8 :=
  if 0x30 ≤ byte && byte ≤ 0x39 then some (byte - 0x30)
  else if 0x41 ≤ byte && byte ≤ 0x46 then some (byte - 0x37)
  else if 0x61 ≤ byte && byte ≤ 0x66 then some (byte - 0x57)
  else none

def percentDecode : List UInt8 → List UInt8
  | 0x25 :: high :: low :: rest =>
    match hexDigit high, hexDigit low with
    | some high, some low => (16 * high + low) :: percentDecode rest
    | _, _ => 0x25 :: percentDecode (high :: low :: rest)
  | byte :: rest => byte :: percentDecode rest
  | [] => []

theorem percentDecode_cons {byte : UInt8} (unescaped : byte ≠ 0x25) (raw : List UInt8) :
    percentDecode (byte :: raw) = byte :: percentDecode raw := by
  rw [percentDecode.eq_2]
  intro high low rest same
  exact absurd same unescaped

def formKey (segment : Text) : Option (List UInt8) :=
  if segment = [] then none
  else
    let name := segment.takeWhile (· ≠ '=')
    some (percentDecode (utf8 (name.map fun letter => if letter = '+' then ' ' else letter)))

def decodedCookieName (raw : Text) : List UInt8 := percentDecode (utf8 (trim raw))

def sessionCookieName : List UInt8 := utf8 "warpgate-http-session".toList

def loopbackSessionCookieName : List UInt8 := utf8 "warpgate-loopback-session".toList

def isWarpgateSessionCookieName (raw : Text) : Bool :=
  decodedCookieName raw = sessionCookieName || decodedCookieName raw = loopbackSessionCookieName

def isNameChar (letter : Char) : Bool :=
  letter.isLower || letter.isDigit || letter ∈ "!#$%&'*+-.^_|~".toList || letter = '\x60'

/-! ### Headers -/

structure HeaderName where
  text : Text
  valid : text ≠ [] ∧ text.all isNameChar = true
  deriving DecidableEq

namespace HeaderName

def tryFrom (text : Text) : Option HeaderName :=
  if valid : text.map Char.toLower ≠ [] ∧ (text.map Char.toLower).all isNameChar = true then
    some ⟨text.map Char.toLower, valid⟩
  else none

def authorization : HeaderName := ⟨"authorization".toList, by decide⟩
def proxyAuthorization : HeaderName := ⟨"proxy-authorization".toList, by decide⟩
def referer : HeaderName := ⟨"referer".toList, by decide⟩
def cookie : HeaderName := ⟨"cookie".toList, by decide⟩
def accept : HeaderName := ⟨"accept".toList, by decide⟩
def acceptEncoding : HeaderName := ⟨"accept-encoding".toList, by decide⟩
def contentLength : HeaderName := ⟨"content-length".toList, by decide⟩
def transferEncoding : HeaderName := ⟨"transfer-encoding".toList, by decide⟩
def host : HeaderName := ⟨"host".toList, by decide⟩
def connection : HeaderName := ⟨"connection".toList, by decide⟩
def upgrade : HeaderName := ⟨"upgrade".toList, by decide⟩
def upgradeInsecureRequests : HeaderName := ⟨"upgrade-insecure-requests".toList, by decide⟩
def strictTransportSecurity : HeaderName := ⟨"strict-transport-security".toList, by decide⟩
def secWebsocketExtensions : HeaderName := ⟨"sec-websocket-extensions".toList, by decide⟩
def secWebsocketAccept : HeaderName := ⟨"sec-websocket-accept".toList, by decide⟩
def secWebsocketKey : HeaderName := ⟨"sec-websocket-key".toList, by decide⟩
def secWebsocketVersion : HeaderName := ⟨"sec-websocket-version".toList, by decide⟩
def forwarded : HeaderName := ⟨"forwarded".toList, by decide⟩
def xForwardedFor : HeaderName := ⟨"x-forwarded-for".toList, by decide⟩
def xForwardedHost : HeaderName := ⟨"x-forwarded-host".toList, by decide⟩
def xForwardedProto : HeaderName := ⟨"x-forwarded-proto".toList, by decide⟩
def xRealIp : HeaderName := ⟨"x-real-ip".toList, by decide⟩
def xWarpgateUsername : HeaderName := ⟨"x-warpgate-username".toList, by decide⟩
def xWarpgateAuthenticationType : HeaderName :=
  ⟨"x-warpgate-authentication-type".toList, by decide⟩

end HeaderName

def dontForwardHeaders : List HeaderName :=
  [.acceptEncoding, .secWebsocketExtensions, .secWebsocketAccept, .secWebsocketKey,
    .secWebsocketVersion, .upgrade, .host, .connection, .strictTransportSecurity,
    .upgradeInsecureRequests]

def isForwardingHeader (name : HeaderName) : Bool :=
  name ∈ [HeaderName.forwarded, .xForwardedFor, .xForwardedHost, .xForwardedProto, .xRealIp]

def isWarpgateHeader (name : HeaderName) : Bool := "x-warpgate-".toList.isPrefixOf name.text

def mayForwardHeader (name : HeaderName) : Bool :=
  !dontForwardHeaders.contains name && !isForwardingHeader name && !isWarpgateHeader name

structure HeaderValue where
  bytes : List UInt8
  valid : (bytes.all fun byte => (0x20 ≤ byte && byte ≠ 0x7f) || byte = 0x09) = true
  deriving DecidableEq

namespace HeaderValue

def tryFrom (text : Text) : Option HeaderValue :=
  if valid : ((utf8 text).all fun byte => (0x20 ≤ byte && byte ≠ 0x7f) || byte = 0x09) = true then
    some ⟨utf8 text, valid⟩
  else none

def letters (value : HeaderValue) : Text := value.bytes.map fun byte => Char.ofNat byte.toNat

def isText (value : HeaderValue) : Bool :=
  value.bytes.all fun byte => (0x20 ≤ byte && byte < 0x7f) || byte = 0x09

def toStr (value : HeaderValue) : Option Text :=
  if value.isText then some value.letters else none

def identity : HeaderValue := ⟨utf8 "identity".toList, by decide⟩

end HeaderValue

abbrev HeaderMap := Headers.HeaderMap HeaderName HeaderValue

def warpgateTicket : List UInt8 := utf8 "warpgate-ticket".toList
def warpgateTargetParameter : List UInt8 := utf8 "warpgate-target".toList

def isTicketQueryPair (pair : Text) : Bool := formKey pair = some warpgateTicket

def replaceTicketQueryPairs (url : Text) (replacement : Option Text) : Text :=
  let (beforeFragment, fragment) :=
    match splitOnce '#' url with
    | some (before, fragment) => (before, some fragment)
    | none => (url, none)
  match splitOnce '?' beforeFragment with
  | none => url
  | some (base, query) =>
    if !(query.splitOn '&').any isTicketQueryPair then url
    else
      let query := join "&" ((query.splitOn '&').filterMap fun pair =>
        if isTicketQueryPair pair then replacement else some pair)
      base ++ (if query = [] then [] else '?' :: query) ++
        (fragment.map fun fragment => '#' :: fragment).getD []

def withoutTicketQueryParam (url : Text) : Text := replaceTicketQueryPairs url none

structure PathAndQuery where
  path : Text
  query : Option Text
  deriving DecidableEq

end Warpgate.Http
