/-
This file models credentials, and the digests that decide whether two states are the same login.
-/

import Mathlib.Algebra.Group.Nat.Defs
import Mathlib.Data.Finset.Basic
import Mathlib.Data.List.Destutter
import Mathlib.Data.List.Sort
import Mathlib.Data.Prod.Lex
import Warpgate.Basic

namespace Warpgate.Auth

/-! ### Credentials and policies -/

inductive CredentialKind
  | password
  | publicKey
  | certificate
  | totp
  | sso
  | webUserApproval
  deriving DecidableEq, Repr

inductive StoredCredentialKind
  | password
  | publicKey
  | totp
  | sso
  deriving DecidableEq, Repr

namespace StoredCredentialKind

def kind : StoredCredentialKind → CredentialKind
  | password => .password
  | publicKey => .publicKey
  | totp => .totp
  | sso => .sso

def tag : StoredCredentialKind → UInt8
  | password => 1
  | publicKey => 2
  | totp => 3
  | sso => 4

end StoredCredentialKind

structure StoredCredential where
  kind : StoredCredentialKind
  id : Uuid
  fingerprint : BitVec 256
  deriving DecidableEq, Repr

def StoredCredential.le (first second : StoredCredential) : Bool :=
  first.kind.tag < second.kind.tag ∨
    (first.kind = second.kind ∧
      (first.id < second.id ∨ (first.id = second.id ∧ first.fingerprint ≤ second.fingerprint)))

inductive ValidCredential
  | stored (credential : StoredCredential)
  | webUserApproval
  deriving DecidableEq, Repr

namespace ValidCredential

def kind : ValidCredential → CredentialKind
  | stored credential => credential.kind.kind
  | webUserApproval => .webUserApproval

def stored? : ValidCredential → Option StoredCredential
  | stored credential => some credential
  | webUserApproval => none

end ValidCredential

inductive CredentialPolicyResponse
  | ok
  | need (kinds : Finset CredentialKind)
  deriving DecidableEq

inductive CredentialPolicy
  | anySingle (supportedCredentialTypes : Finset CredentialKind)
  | all (requiredCredentialTypes supportedCredentialTypes : Finset CredentialKind)
  | perProtocol (overridden : Protocol → Bool) (protocols : Protocol → CredentialPolicy)
      (default : CredentialPolicy)
  | mfaEnforcement (inner : CredentialPolicy) (required : Protocol → Option CredentialKind)

def CredentialPolicy.isSufficient (protocol : Protocol)
    (validCredentials : Finset CredentialKind) : CredentialPolicy → CredentialPolicyResponse
  | anySingle supported =>
    -- never treat OTP alone as sufficient
    if ∃ kind ∈ validCredentials, kind ≠ .totp then .ok
    else .need (supported \ validCredentials)
  | all required _ =>
    if validCredentials ≠ ∅ ∧ required ⊆ validCredentials then .ok
    else .need (required \ validCredentials)
  | perProtocol overridden protocols default =>
    if overridden protocol then (protocols protocol).isSufficient protocol validCredentials
    else default.isSufficient protocol validCredentials
  | mfaEnforcement inner required =>
    let response := inner.isSufficient protocol validCredentials
    match required protocol with
    | none => response
    | some factor =>
      if factor ∈ validCredentials then response
      else
        match response with
        | .ok => .need {factor}
        | .need needed => .need (insert factor needed)

variable {protocol : Protocol}

theorem CredentialPolicy.not_mem_of_need
    {validCredentials ks : Finset CredentialKind} {kind : CredentialKind}
    (valid : kind ∈ validCredentials) (policy : CredentialPolicy)
    (needs : policy.isSufficient protocol validCredentials = .need ks) : kind ∉ ks := by
  induction policy generalizing ks with
  | anySingle supported =>
    simp only [isSufficient] at needs
    split at needs
    · cases needs
    · cases needs
      simp [valid]
  | all required supported => grind [isSufficient]
  | perProtocol overridden protocols default ofProtocol ofDefault => grind [isSufficient]
  | mfaEnforcement inner required ofInner => grind [isSufficient]

/-! ### Digests -/

inductive IpAddr
  | v4 (address : BitVec 32)
  | v6 (address : BitVec 128)
  deriving DecidableEq, Repr

structure Primitives where
  sha256 : List UInt8 → List UInt8
  toLowercase : String → String
  ipToString : IpAddr → String

def toBigEndian (count value : Nat) : List UInt8 :=
  (List.range count).map fun index => UInt8.ofNat (value >>> (8 * (count - 1 - index)))

def toLittleEndian64 (value : Nat) : List UInt8 := (toBigEndian 8 value).reverse

def hexLower (bytes : List UInt8) : String :=
  String.ofList (bytes.flatMap fun byte =>
    [Nat.digitChar (byte.toNat / 16), Nat.digitChar (byte.toNat % 16)])

def asBytes (text : String) : List UInt8 := text.toUTF8.data.toList

def StoredCredential.canonicalBytes (credential : StoredCredential) : List UInt8 :=
  credential.kind.tag :: toBigEndian 16 credential.id.toNat ++
    toBigEndian 32 credential.fingerprint.toNat

structure StoredCredentials where
  credentials : List StoredCredential
  deriving DecidableEq

namespace StoredCredentials

def new (credentials : List StoredCredential) : StoredCredentials where
  credentials := (credentials.insertionSort fun first second => first.le second).destutter (· ≠ ·)

def digest (primitives : Primitives) (set : StoredCredentials) : String :=
  hexLower (primitives.sha256 (2 :: set.credentials.flatMap StoredCredential.canonicalBytes))

end StoredCredentials

inductive RememberApprovalBy
  | credentials (set : StoredCredentials)
  | nothing
  deriving DecidableEq

namespace RememberApprovalBy

def fromCredentials (stored : List StoredCredential) : RememberApprovalBy :=
  credentials (.new stored)

def credentials? : RememberApprovalBy → Option StoredCredentials
  | credentials set => some set
  | nothing => none

end RememberApprovalBy

inductive WebApprovalScopeKey
  | untargeted
  | target (name : String)
  deriving DecidableEq, Repr

structure WebApprovalIdentity where
  kind : ApprovalKind
  remoteIp : IpAddr
  protocol : Protocol
  username : String
  otherCredentials : StoredCredentials
  deriving DecidableEq

def lengthPrefixed (part : List UInt8) : List UInt8 := toLittleEndian64 part.length ++ part

def kindByte : ApprovalKind → UInt8
  | .user => 0
  | .admin => 1

def WebApprovalIdentity.digest (primitives : Primitives) (identity : WebApprovalIdentity) :
    String :=
  hexLower (primitives.sha256 (1 ::
    lengthPrefixed [kindByte identity.kind] ++
    lengthPrefixed (asBytes (primitives.ipToString identity.remoteIp)) ++
    lengthPrefixed (asBytes identity.protocol.name) ++
    lengthPrefixed (asBytes identity.username) ++
    lengthPrefixed (asBytes (identity.otherCredentials.digest primitives))))

structure WebApprovalMatchKey where
  scope : WebApprovalScopeKey
  identity : WebApprovalIdentity
  deriving DecidableEq

variable {P : Primitives}

namespace WebApprovalMatchKey

def build (primitives : Primitives) (kind : ApprovalKind) (remoteIp : IpAddr)
    (protocol : Protocol) (username targetName : String) (rememberBy : RememberApprovalBy) :
    Option WebApprovalMatchKey :=
  rememberBy.credentials?.map fun otherCredentials =>
    { scope := if targetName = "" then .untargeted else .target targetName
      identity :=
        { kind := kind
          remoteIp := remoteIp
          protocol := protocol
          username := primitives.toLowercase username
          otherCredentials := otherCredentials } }

def askedTarget (key : WebApprovalMatchKey) : String :=
  match key.scope with
  | .target name => name
  | .untargeted => ""

theorem askedTarget_of_build {kind : ApprovalKind} {remoteIp : IpAddr} {name tname : String}
    {rememberBy : RememberApprovalBy}
    {k : WebApprovalMatchKey}
    (built : build P kind remoteIp protocol name tname rememberBy = some k) :
    k.askedTarget = tname := by
  obtain ⟨otherCredentials, -, rfl⟩ := Option.map_eq_some_iff.mp built
  unfold askedTarget
  by_cases untargeted : tname = ""
  · simp [untargeted]
  · simp [untargeted]

end WebApprovalMatchKey

open List Function StoredCredential WebApprovalMatchKey

namespace StoredCredential

def key (credential : StoredCredential) : ℕ ×ₗ ℕ ×ₗ ℕ :=
  toLex (credential.kind.tag.toNat, toLex (credential.id.toNat, credential.fingerprint.toNat))

theorem tag_injective : Injective StoredCredentialKind.tag := by
  intro first second same
  cases first <;> cases second <;> first | rfl | cases same

theorem key_injective : Injective key := by
  rintro ⟨kind, id, fingerprint⟩ ⟨kind', id', fingerprint'⟩ same
  simpa [key, UInt8.toNat_inj, tag_injective.eq_iff, BitVec.toNat_inj] using same

theorem le_iff_key {x y : StoredCredential} : x.le y = true ↔ x.key ≤ y.key := by
  simp [le, key, Prod.Lex.le_iff, UInt8.lt_iff_toNat_lt, UInt8.toNat_inj, tag_injective.eq_iff,
    BitVec.lt_def, BitVec.le_def, BitVec.toNat_inj]

theorem new_eq_new_iff {first second : List StoredCredential} :
    StoredCredentials.new first = .new second ↔ ∀ c, c ∈ first ↔ c ∈ second := by
  let le (x y : StoredCredential) : Prop := x.le y = true
  have total : Std.Total le := ⟨fun x y => by simpa only [le, le_iff_key] using le_total ..⟩
  have trans : IsTrans _ le := ⟨fun x y z => by simpa only [le, le_iff_key] using le_trans⟩
  have anti : Std.Antisymm le := ⟨fun x y first second =>
    key_injective (le_antisymm (le_iff_key.mp first) (le_iff_key.mp second))⟩
  have deduped (stored) : (StoredCredentials.new stored).credentials =
      (stored.insertionSort le).dedup := (pairwise_insertionSort le stored).destutter_eq_dedup
  have sorted (stored : List StoredCredential) : ((stored.insertionSort le).dedup).Pairwise le :=
    (pairwise_insertionSort le stored).sublist (dedup_sublist _)
  rw [StoredCredentials.mk.injEq, deduped, deduped]
  constructor
  · intro same c
    rw [← mem_insertionSort le, ← mem_dedup, same, mem_dedup, mem_insertionSort]
  · intro same
    refine Perm.eq_of_pairwise (fun _ _ _ _ => anti.antisymm _ _) (sorted first) (sorted second) ?_
    refine (perm_ext_iff_of_nodup (nodup_dedup _) (nodup_dedup _)).mpr fun c => ?_
    rw [mem_dedup, mem_dedup, mem_insertionSort, mem_insertionSort, same]

end StoredCredential

/-! ### Digests tell identities apart -/

theorem toBigEndian_inj {count v w : Nat} (small : v < 2 ^ (8 * count))
    (small' : w < 2 ^ (8 * count)) (same : toBigEndian count v = toBigEndian count w) : v = w := by
  refine Nat.eq_of_testBit_eq fun bit => ?_
  rcases Nat.lt_or_ge bit (8 * count) with inside | outside
  · have bytes := congrArg (·[count - 1 - bit / 8]?) same
    simp only [toBigEndian, getElem?_map] at bytes
    rw [getElem?_range (by omega), Option.map_some, Option.map_some, Option.some.injEq,
      ← UInt8.toNat_inj] at bytes
    have bits := congrArg (Nat.testBit · (bit % 8)) bytes
    have place : 8 * (count - 1 - (count - 1 - bit / 8)) + bit % 8 = bit := by omega
    simpa [Nat.testBit_mod_two_pow _ 8, Nat.testBit_shiftRight, place, Nat.mod_lt] using bits
  · have large := Nat.pow_le_pow_right (n := 2) (by decide) outside
    rw [Nat.testBit_lt_two_pow (small.trans_le large), Nat.testBit_lt_two_pow
      (small'.trans_le large)]

theorem length_toBigEndian (count v : Nat) : (toBigEndian count v).length = count := by
  simp [toBigEndian]

theorem flatMap_injective {α β : Type} {f : α → List β} {n : Nat} (inj : Injective f)
    (length : ∀ a, (f a).length = n + 1) : Injective (flatMap f) := by
  intro first second same
  induction first generalizing second with
  | nil =>
    cases second with
    | nil => rfl
    | cons b second => simpa [length] using (congrArg List.length same).symm
  | cons a first ih =>
    cases second with
    | nil => simpa [length] using congrArg List.length same
    | cons b second =>
      obtain ⟨head, tail⟩ := append_inj same ((length a).trans (length b).symm)
      rw [inj head, ih tail]

theorem canonicalBytes_injective : Injective canonicalBytes := by
  rintro ⟨kind, id, fingerprint⟩ ⟨kind', id', fingerprint'⟩ same
  obtain ⟨tags, rest⟩ := cons.inj same
  obtain ⟨ids, fingerprints⟩ := append_inj rest (by simp [length_toBigEndian])
  cases tag_injective tags
  cases BitVec.eq_of_toNat_eq (toBigEndian_inj id.isLt id'.isLt ids)
  cases BitVec.eq_of_toNat_eq (toBigEndian_inj fingerprint.isLt fingerprint'.isLt fingerprints)
  rfl

theorem hexLower_injective : Injective hexLower := by
  refine fun first second same => flatMap_injective ?_ (fun _ => rfl)
    (String.ofList_injective same)
  intro byte byte' same
  have digits : ∀ i < 16, ∀ j < 16, Nat.digitChar i = Nat.digitChar j → i = j := by decide
  obtain ⟨high, low⟩ := cons.inj same
  have := digits _ (by have := byte.toNat_lt; omega) _ (by have := byte'.toNat_lt; omega) high
  have := digits _ (Nat.mod_lt _ (by decide)) _ (Nat.mod_lt _ (by decide)) (cons.inj low).1
  exact UInt8.toNat_inj.mp (by omega)

theorem asBytes_injective : Injective asBytes := by
  intro first second same
  exact String.toByteArray_inj.mp (ByteArray.ext (Array.toList_inj.mp same))

theorem lengthPrefixed_inj {a b x y : List UInt8} (fits : a.length < 2 ^ 64)
    (fits' : b.length < 2 ^ 64) (same : lengthPrefixed a ++ x = lengthPrefixed b ++ y) :
    a = b ∧ x = y := by
  simp only [lengthPrefixed, append_assoc] at same
  obtain ⟨sizes, rest⟩ := append_inj same (by simp [toLittleEndian64, length_toBigEndian])
  exact append_inj rest (toBigEndian_inj fits fits' (reverse_injective sizes))

def WebApprovalIdentity.Fits (primitives : Primitives) (identity : WebApprovalIdentity) : Prop :=
  (asBytes (primitives.ipToString identity.remoteIp)).length < 2 ^ 64 ∧
    (asBytes identity.username).length < 2 ^ 64

theorem name_injective : Injective Protocol.name := by
  intro first second same
  cases first <;> cases second <;> first | rfl | exact absurd same (by decide)

theorem digest_injective (hashes : Injective P.sha256)
    (writes : Injective P.ipToString) {first second : WebApprovalIdentity}
    (fits : first.Fits P) (fits' : second.Fits P) (same : first.digest P = second.digest P) :
    first = second := by
  have short (protocol : Protocol) : (asBytes protocol.name).length < 2 ^ 64 := by
    cases protocol <;> decide
  have bytes := hashes (hexLower_injective same)
  simp only [cons_append, append_assoc, cons.injEq, true_and] at bytes
  obtain ⟨kinds, bytes⟩ := lengthPrefixed_inj (by simp) (by simp) bytes
  obtain ⟨ips, bytes⟩ := lengthPrefixed_inj fits.1 fits'.1 bytes
  obtain ⟨protocols, bytes⟩ := lengthPrefixed_inj (short _) (short _) bytes
  obtain ⟨names, bytes⟩ := lengthPrefixed_inj fits.2 fits'.2 bytes
  have digests := (append_inj bytes (by simp [toLittleEndian64, length_toBigEndian])).2
  have sets := hashes (hexLower_injective (asBytes_injective digests))
  obtain ⟨kind, ip, protocol, name, ⟨stored⟩⟩ := first
  obtain ⟨kind', ip', protocol', name', ⟨stored'⟩⟩ := second
  obtain rfl : kind = kind' := by cases kind <;> cases kind' <;> first | rfl | cases kinds
  cases writes (asBytes_injective ips)
  cases name_injective (asBytes_injective protocols)
  cases asBytes_injective names
  cases flatMap_injective canonicalBytes_injective
    (fun _ => by simp [canonicalBytes, length_toBigEndian]; rfl) (cons.inj sets).2
  rfl

/-- Two identities have one digest exactly when they agree on the kind, the address, the protocol,
the lowercased name and the set of stored credentials. -/
theorem equal_digests_iff_equal_identities {primitives : Primitives}
    (hashes : Injective primitives.sha256)
    (writes : Injective primitives.ipToString) {kind kind' : ApprovalKind}
    {remoteIp remoteIp' : IpAddr} {protocol protocol' : Protocol}
    {username username' targetName targetName' : String}
    {stored stored' : List StoredCredential} {key key' : WebApprovalMatchKey}
    (built : build primitives kind remoteIp protocol username targetName
      (.fromCredentials stored) = some key)
    (built' : build primitives kind' remoteIp' protocol' username' targetName'
      (.fromCredentials stored') = some key')
    (fits : key.identity.Fits primitives) (fits' : key'.identity.Fits primitives) :
    key.identity.digest primitives = key'.identity.digest primitives ↔
      kind = kind' ∧ remoteIp = remoteIp' ∧ protocol = protocol' ∧
        primitives.toLowercase username = primitives.toLowercase username' ∧
        ∀ credential, credential ∈ stored ↔ credential ∈ stored' := by
  cases built
  cases built'
  rw [← new_eq_new_iff]
  constructor
  · grind [digest_injective]
  · grind

def plain : Primitives where
  sha256 bytes := [bytes.foldl (· + ·) 0]
  toLowercase := id
  ipToString
    | .v4 address => String.ofList (.replicate address.toNat '1')
    | .v6 address => String.ofList (.replicate (2 ^ 32 + address.toNat) '1')

def unhashed : Primitives := { plain with sha256 := id }

def aliceWith (stored : List StoredCredential) : WebApprovalIdentity :=
  ⟨.user, .v4 0, .ssh, "alice", .new stored⟩

theorem order_of_credentials_is_not_in_digest :
    (aliceWith [⟨.password, 1, 0⟩, ⟨.totp, 2, 0⟩]).digest unhashed =
      (aliceWith [⟨.totp, 2, 0⟩, ⟨.password, 1, 0⟩, ⟨.totp, 2, 0⟩]).digest unhashed := by
  have writes : Injective unhashed.ipToString := by
    rintro (ip | ip) (ip' | ip') same <;> have lengths := congrArg (·.toList.length) same <;>
      simp only [unhashed, plain, String.toList_ofList, length_replicate] at lengths
    · rw [BitVec.eq_of_toNat_eq lengths]
    · exact absurd ip.isLt (by omega)
    · exact absurd ip'.isLt (by omega)
    · rw [BitVec.eq_of_toNat_eq (Nat.add_left_cancel lengths)]
  have built (stored : List StoredCredential) : build unhashed .user
      (.v4 0) .ssh "alice" "" (.fromCredentials stored) =
      some ⟨.untargeted, aliceWith stored⟩ := rfl
  have fits (stored : List StoredCredential) : (aliceWith stored).Fits unhashed :=
    show (asBytes (unhashed.ipToString (.v4 0))).length < 2 ^ 64 ∧
      (asBytes "alice").length < 2 ^ 64 by decide
  exact (equal_digests_iff_equal_identities (fun _ _ same => same) writes (built _) (built _)
    (fits _) (fits _)).mpr (by simp [or_comm])

end Warpgate.Auth
