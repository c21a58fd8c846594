/-
This file is about the text of a stored secret, which is the secret itself or an
envelope with the fingerprint of its key, and about keys that replace one another.
-/

import Mathlib.Logic.Equiv.List
import Warpgate.Encryption.System
import Warpgate.Secrets.Reference

namespace Warpgate.Encryption.Envelopes

open List Option

open Http (Text splitOnce splitOnce_append)
open Secrets (trim)

def PREFIX : Text := "wgenc:v1:".toList
def KEY_LEN : Nat := 32
def NONCE_LEN : Nat := 12
def TAG_LEN : Nat := 16
def FINGERPRINT_LEN : Nat := 8

abbrev Key := { bytes : List UInt8 // bytes.length = KEY_LEN }

abbrev Nonce := { bytes : List UInt8 // bytes.length = NONCE_LEN }

def isHexDigit (letter : Char) : Bool :=
  letter.isDigit || 'a' ≤ letter && letter ≤ 'f' || 'A' ≤ letter && letter ≤ 'F'

/-! ### Envelopes -/

structure Cipher where
  fingerprint : Key → Text
  hexadecimal : ∀ key, (fingerprint key).length = FINGERPRINT_LEN ∧
    (fingerprint key).all isHexDigit = true
  base64 : List UInt8 → Text
  decode64 : Text → Option (List UInt8)
  decode64_base64 : ∀ bytes, decode64 (base64 bytes) = some bytes
  encrypt : Key → Nonce → Text → List UInt8
  decrypt : Key → Nonce → List UInt8 → Option Text
  tagged : ∀ key nonce text, TAG_LEN ≤ (encrypt key nonce text).length
  decrypt_encrypt : ∀ key nonce text other,
    decrypt other nonce (encrypt key nonce text) = if other = key then some text else none

variable (cipher : Cipher)

def envelopeParts (value : Text) : Option (Text × List UInt8) := do
  let (fingerprint, payload) ← (← value.dropPrefix? PREFIX) |> splitOnce ':'
  if fingerprint.length ≠ FINGERPRINT_LEN || !fingerprint.all isHexDigit then none
  else
    let payload ← cipher.decode64 payload
    if payload.length < NONCE_LEN + TAG_LEN then none else some (fingerprint, payload)

def isEnvelope (value : Text) : Bool := (envelopeParts cipher value).isSome

def encrypt (key : Key) (nonce : Nonce) (plaintext : Text) : Text :=
  PREFIX ++ cipher.fingerprint key ++
    ':' :: cipher.base64 (nonce.1 ++ cipher.encrypt key nonce plaintext)

def decrypt (key : Key) (value : Text) : Except (EncryptionError Text) Text :=
  match envelopeParts cipher value with
  | none => .ok value
  | some (fingerprint, payload) =>
    if fingerprint ≠ cipher.fingerprint key then
      .error (.keyMismatch fingerprint [cipher.fingerprint key])
    else if long : (payload.take NONCE_LEN).length = NONCE_LEN then
      match cipher.decrypt key ⟨payload.take NONCE_LEN, long⟩ (payload.drop NONCE_LEN) with
      | some plaintext => .ok plaintext
      | none => .error .corrupt
    else .error .corrupt

/-! ### Keyrings -/

structure Keyring where
  primary : Option Key
  retired : List Key
  deriving DecidableEq

namespace Keyring

variable (ring : Keyring)

def keys : List Key := ring.primary.toList ++ ring.retired

def decrypt (value : Text) : Except (EncryptionError Text) Text :=
  match envelopeParts cipher value with
  | none => .ok value
  | some (fingerprint, _) =>
    let matching := ring.keys.filter (cipher.fingerprint · = fingerprint)
    -- a key that only shares the fingerprint fails on the tag
    let tried := matching.findSome? fun key =>
      match Envelopes.decrypt cipher key value with
      | .error .corrupt => none
      | result => some result
    match tried with
    | some result => result
    | none =>
      .error (if matching ≠ [] then .corrupt
        else if ring.keys = [] then .noKey fingerprint
        else .keyMismatch fingerprint (ring.keys.map cipher.fingerprint))

def reencrypt (nonce : Nonce) (value : Text) : Except (EncryptionError Text) Text :=
  match ring.primary with
  | none => .ok value
  | some primary =>
    match envelopeParts cipher value with
    | none => .ok (encrypt cipher primary nonce value)
    | some (fingerprint, _) =>
      if fingerprint = cipher.fingerprint primary then .ok value
      else (ring.decrypt cipher value).map (encrypt cipher primary nonce)

def maybeEncryptSecret (nonce : Nonce) (value : Text) : Text :=
  match ring.primary with
  | some key => if isEnvelope cipher value then value else encrypt cipher key nonce value
  | none => value

end Keyring

def parseKey (raw : Text) : Option Key := do
  let decoded ← cipher.decode64 raw
  if long : decoded.length = KEY_LEN then some ⟨decoded, long⟩ else none

def items (old : Option Text) : List Text :=
  (((old.getD []).splitOn ',').map trim).filter (· ≠ [])

def addRetired (primary : Option Key) (retired : List Key) (raw : Text) : Option (List Key) := do
  let key ← parseKey cipher raw
  pure (if (primary.toList ++ retired).any (cipher.fingerprint · = cipher.fingerprint key)
    then retired else retired ++ [key])

def parsePrimary (primary : Option Text) : Option (Option Key) :=
  match (primary.map trim).filter (· ≠ []) with
  | some raw => (parseKey cipher raw).map some
  | none => some none

def parseEnvKeyring (primary old : Option Text) : Option Keyring := do
  let primary ← parsePrimary cipher primary
  let retired ← (items old).foldlM (addRetired cipher primary) []
  pure ⟨primary, retired⟩

def Follows (before : List Keyring) (ring : Keyring) : Prop :=
  ∃ primary old, parseEnvKeyring cipher primary old = some ring ∧
    ∀ earlier ∈ before, ∀ key ∈ earlier.primary,
      ∃ raw ∈ items old, parseKey cipher raw = some key

inductive Carried (secret : Text) : List Keyring → Text → Prop
  | stored {ring : Keyring} (nonce : Nonce) (follows : Follows cipher [] ring) :
      Carried secret [ring] (ring.maybeEncryptSecret cipher nonce secret)
  | rotated {rings : List Keyring} {value : Text} (ring : Keyring)
      (carried : Carried secret rings value) (follows : Follows cipher rings ring) :
      Carried secret (ring :: rings) value
  | encrypted {ring : Keyring} {rings : List Keyring} {value : Text} (nonce : Nonce)
      (carried : Carried secret (ring :: rings) value) :
      Carried secret (ring :: rings) (ring.maybeEncryptSecret cipher nonce value)
  | decrypted {ring : Keyring} {rings : List Keyring} {value result : Text}
      (carried : Carried secret (ring :: rings) value)
      (decrypts : ring.decrypt cipher value = .ok result) :
      Carried secret (ring :: rings) result
  | reencrypted {ring : Keyring} {rings : List Keyring} {value result : Text} (nonce : Nonce)
      (carried : Carried secret (ring :: rings) value)
      (reencrypts : ring.reencrypt cipher nonce value = .ok result) :
      Carried secret (ring :: rings) result

section

variable {cipher} {key other : Key} {nonce : Nonce} {secret v : Text} {ring : Keyring}
  {rings : List Keyring}

theorem envelopeParts_encrypt : envelopeParts cipher (encrypt cipher key nonce secret) =
    some (cipher.fingerprint key, nonce.1 ++ cipher.encrypt key nonce secret) := by
  obtain ⟨length, hexadecimal⟩ := cipher.hexadecimal key
  have scheme : (encrypt cipher key nonce secret).dropPrefix? PREFIX =
      some (cipher.fingerprint key ++
        ':' :: cipher.base64 (nonce.1 ++ cipher.encrypt key nonce secret)) :=
    dropPrefix?_eq_some_iff.mpr ⟨PREFIX, by simp [encrypt], beq_self_eq_true _⟩
  have free : ':' ∉ cipher.fingerprint key := fun mem =>
    absurd (all_eq_true.mp hexadecimal _ mem) (by decide)
  have long := Nat.add_le_add (Nat.le_of_eq nonce.2.symm) (cipher.tagged key nonce secret)
  simp only [envelopeParts, scheme, splitOnce_append free, length, hexadecimal,
    cipher.decode64_base64, length_append, Nat.not_lt.mpr long, bind_eq_bind, bind_some]
  rfl

theorem decrypt_encrypt : decrypt cipher other (encrypt cipher key nonce secret) =
    if cipher.fingerprint key ≠ cipher.fingerprint other then
      .error (.keyMismatch (cipher.fingerprint key) [cipher.fingerprint other])
    else if other = key then .ok secret else .error .corrupt := by
  have first : (nonce.1 ++ cipher.encrypt key nonce secret).take NONCE_LEN = nonce.1 :=
    take_left' nonce.2
  have rest : (nonce.1 ++ cipher.encrypt key nonce secret).drop NONCE_LEN =
      cipher.encrypt key nonce secret := drop_left' nonce.2
  rw [decrypt, envelopeParts_encrypt]
  simp only [first, rest, nonce.2, dite_true, Subtype.coe_eta, cipher.decrypt_encrypt]
  by_cases same : other = key <;> simp [same]

namespace Keyring

theorem decrypt_envelope : ring.decrypt cipher (encrypt cipher key nonce secret) =
    if key ∈ ring.keys then .ok secret
    else .error (if ring.keys.filter (cipher.fingerprint · = cipher.fingerprint key) ≠ [] then
        .corrupt
      else if ring.keys = [] then .noKey (cipher.fingerprint key)
      else .keyMismatch (cipher.fingerprint key) (ring.keys.map cipher.fingerprint)) := by
  have tried : (ring.keys.filter (cipher.fingerprint · = cipher.fingerprint key)).findSome?
      (fun other => match Envelopes.decrypt cipher other (encrypt cipher key nonce secret) with
        | .error .corrupt => none
        | result => some result) = if key ∈ ring.keys then some (.ok secret) else none := by
    induction ring.keys with
    | nil => rfl
    | cons other rest ih => grind [decrypt_encrypt]
  rw [decrypt, envelopeParts_encrypt]
  dsimp only
  rw [tried]
  by_cases mem : key ∈ ring.keys <;> simp [mem]

theorem decrypt_of_mem (mem : key ∈ ring.keys) :
    ring.decrypt cipher (encrypt cipher key nonce secret) = .ok secret := by
  rw [decrypt_envelope, if_pos mem]

end Keyring

theorem addRetired_cases {primary : Option Key} {start next : List Key} {raw : Text}
    (adds : addRetired cipher primary start raw = some next) : start ⊆ next ∧
      ∀ key ∈ parseKey cipher raw, ∃ other ∈ primary.toList ++ next,
        cipher.fingerprint other = cipher.fingerprint key := by
  obtain ⟨key, parses, same⟩ := bind_eq_some_iff.mp adds
  cases same
  rw [parses]
  split
  · grind
  · grind

theorem mem_of_foldlM {primary : Option Key} {raws : List Text} {start retired : List Key}
    (folds : raws.foldlM (addRetired cipher primary) start = some retired) :
    start ⊆ retired ∧ ∀ raw ∈ raws, ∀ key ∈ parseKey cipher raw,
      ∃ other ∈ primary.toList ++ retired, cipher.fingerprint other = cipher.fingerprint key := by
  induction raws generalizing start with
  | nil =>
    cases folds
    exact ⟨Subset.refl _, by simp⟩
  | cons raw raws ih =>
    obtain ⟨next, adds, folds⟩ := bind_eq_some_iff.mp folds
    obtain ⟨kept, rest⟩ := ih folds
    obtain ⟨grows, added⟩ := addRetired_cases adds
    refine ⟨Subset.trans grows kept, fun item mem key isKey => ?_⟩
    rcases mem_cons.mp mem with rfl | further
    · grind
    · exact rest item further key isKey

/-! ### The text of an abstract secret -/

def Key.master (cipher : Cipher) (key : Key) : MasterKey :=
  ⟨.ofList (cipher.fingerprint key), Encodable.encode (key.1.map UInt8.toNat)⟩

/-- A text that is stored is a secret, which does not look like an envelope, or the envelope of
one. -/
inductive Abstracts (cipher : Cipher) : Stored → Text → Prop
  | plain {value : Text} (unlike : isEnvelope cipher value = false) :
      Abstracts cipher (.plain (.ofList value)) value
  | envelope (key : Key) (nonce : Nonce) (secret : Text) :
      Abstracts cipher (.envelope (key.master cipher) (.ofList secret))
        (encrypt cipher key nonce secret)

inductive Alike (cipher : Cipher) :
    Except (EncryptionError String) Stored → Except (EncryptionError Text) Text → Prop
  | ok {stored : Stored} {value : Text} (abstracts : Abstracts cipher stored value) :
      Alike cipher (.ok stored) (.ok value)
  | error (error : EncryptionError Text) : Alike cipher (.error (error.map .ofList)) (.error error)

structure Keyring.Is (cipher : Cipher) (ring : Keyring) (model : Encryption.Keyring) : Prop where
  primary : model.primary = ring.primary.map (Key.master cipher)
  keys : model.keys = ring.keys.map (Key.master cipher)

variable {model : Encryption.Keyring} {stored : Stored}

theorem fingerprint_master :
    (key.master cipher).fingerprint = .ofList (cipher.fingerprint key) := rfl

theorem master_injective : Function.Injective (Key.master cipher) := by
  intro first second same
  have bytes := Encodable.encode_injective (congrArg MasterKey.material same)
  exact Subtype.ext (map_injective_iff.mpr (fun _ _ => UInt8.toNat_inj.mp) bytes)

theorem decrypt_abstracts (isModel : ring.Is cipher model) (abstracts : Abstracts cipher stored v) :
    model.decrypt stored = ((ring.decrypt cipher v).map String.ofList).mapError (.map .ofList) := by
  cases abstracts with
  | plain unlike =>
    rw [Keyring.decrypt, isNone_iff_eq_none.mp (isSome_eq_false_iff.mp unlike)]
    rfl
  | envelope key nonce secret =>
    have isIn : key.master cipher ∈ model.keys ↔ key ∈ ring.keys := by
      rw [isModel.keys, List.mem_map_of_injective master_injective]
    have shares : model.contains (key.master cipher).fingerprint = true ↔
        ring.keys.filter (cipher.fingerprint · = cipher.fingerprint key) ≠ [] := by
      simp [Encryption.Keyring.contains, isModel.keys, fingerprint_master, String.ofList_inj]
    have empty : model.isEmpty = true ↔ ring.keys = [] := by
      rw [← map_eq_nil_iff, ← isModel.keys]
      simp [Encryption.Keyring.isEmpty, Encryption.Keyring.keys]
    have fingerprints : model.keys.map MasterKey.fingerprint =
        (ring.keys.map cipher.fingerprint).map .ofList := by simp [isModel.keys, Key.master]
    simp only [Keyring.decrypt_envelope, Encryption.Keyring.decrypt, isIn, shares, empty, fingerprints]
    split
    · rfl
    · split
      · rfl
      · split <;> rfl

theorem reencrypt_abstracts (isModel : ring.Is cipher model)
    (abstracts : Abstracts cipher stored v) :
    Alike cipher (model.reencrypt stored) (ring.reencrypt cipher nonce v) := by
  have decrypts := decrypt_abstracts isModel abstracts
  rw [Encryption.Keyring.reencrypt.eq_def, Keyring.reencrypt, isModel.primary]
  cases isPrimary : ring.primary with
  | none => exact .ok abstracts
  | some primary =>
    cases abstracts with
    | plain unlike =>
      rw [isNone_iff_eq_none.mp (isSome_eq_false_iff.mp unlike)]
      exact .ok (.envelope primary nonce v)
    | envelope key nonce' secret =>
      simp only [envelopeParts_encrypt, Option.map_some, fingerprint_master, String.ofList_inj]
      split
      · exact .ok (.envelope key nonce' secret)
      · rw [decrypts]
        cases ring.decrypt cipher (encrypt cipher key nonce' secret) with
        | ok text => exact .ok (.envelope primary nonce text)
        | error error => exact .error error

/-! ### What a keyring still opens -/

def Apart (cipher : Cipher) (rings : List Keyring) : Prop :=
  ∀ first ∈ rings.flatMap Keyring.keys, ∀ second ∈ rings.flatMap Keyring.keys,
    cipher.fingerprint first = cipher.fingerprint second → first = second

theorem mem_keys_of_primary (isPrimary : key ∈ ring.primary) : key ∈ ring.keys :=
  mem_append_left _ (mem_toList.mpr isPrimary)

theorem mem_keys_of_follows (apart : Apart cipher (ring :: rings))
    (follows : Follows cipher rings ring)
    {earlier : Keyring} (before : earlier ∈ rings) (isPrimary : key ∈ earlier.primary) :
    key ∈ ring.keys := by
  obtain ⟨primary, old, parses, includes⟩ := follows
  obtain ⟨raw, isItem, isKey⟩ := includes earlier before key isPrimary
  obtain ⟨own, _, rest⟩ := bind_eq_some_iff.mp parses
  obtain ⟨retired, folds, same⟩ := bind_eq_some_iff.mp rest
  cases same
  obtain ⟨other, mem, shares⟩ := (mem_of_foldlM folds).2 raw isItem key isKey
  have used : key ∈ rings.flatMap Keyring.keys :=
    mem_flatMap.mpr ⟨earlier, before, mem_keys_of_primary isPrimary⟩
  rw [← apart other (mem_append_left _ mem) key (mem_append_right _ used) shares]
  exact mem

structure Kept (cipher : Cipher) (secret : Text) (rings : List Keyring) (value : Text) : Prop where
  value : value = secret ∨ ∃ earlier ∈ rings, ∃ key ∈ earlier.primary, ∃ nonce,
    value = encrypt cipher key nonce secret
  keys : ∀ ring ∈ rings.head?, ∀ earlier ∈ rings, ∀ key ∈ earlier.primary, key ∈ ring.keys

theorem Kept.decrypt (plain : isEnvelope cipher secret = false)
    (kept : Kept cipher secret (ring :: rings) v) : ring.decrypt cipher v = .ok secret := by
  rcases kept.value with rfl | ⟨earlier, before, key, isPrimary, nonce, rfl⟩
  · rw [Keyring.decrypt, isNone_iff_eq_none.mp (isSome_eq_false_iff.mp plain)]
  · exact Keyring.decrypt_of_mem (kept.keys ring rfl earlier before key isPrimary)

theorem isEnvelope_encrypt : isEnvelope cipher (encrypt cipher key nonce secret) = true := by
  rw [isEnvelope, envelopeParts_encrypt]
  rfl

theorem Kept.eq_of_plain (kept : Kept cipher secret rings v) (plain : isEnvelope cipher v = false) :
    v = secret := by
  rcases kept.value with rfl | ⟨_, _, _, _, _, rfl⟩
  · rfl
  · cases isEnvelope_encrypt.symm.trans plain

theorem Kept.encrypt (kept : Kept cipher secret (ring :: rings) v)
    (isPrimary : key ∈ ring.primary) :
    Kept cipher secret (ring :: rings) (encrypt cipher key nonce secret) :=
  ⟨.inr ⟨ring, .head _, key, isPrimary, nonce, rfl⟩, kept.keys⟩

theorem Kept.maybeEncryptSecret (kept : Kept cipher secret (ring :: rings) v) :
    Kept cipher secret (ring :: rings) (ring.maybeEncryptSecret cipher nonce v) := by
  unfold Keyring.maybeEncryptSecret
  split
  · next key isPrimary =>
    split
    · exact kept
    · next plain =>
      rw [kept.eq_of_plain (by simpa using plain)]
      exact kept.encrypt isPrimary
  · exact kept

theorem Kept.reencrypt (plain : isEnvelope cipher secret = false)
    (kept : Kept cipher secret (ring :: rings) v) (nonce : Nonce) :
    (ring.primary = none ∧ ring.reencrypt cipher nonce v = .ok v) ∨ ∃ key ∈ ring.primary,
        ring.reencrypt cipher nonce v = .ok (Envelopes.encrypt cipher key nonce secret) ∨
        ring.reencrypt cipher nonce v = .ok v ∧
          (envelopeParts cipher v).map Prod.fst = some (cipher.fingerprint key) := by
  unfold Keyring.reencrypt
  split
  · next isPrimary => exact .inl ⟨isPrimary, rfl⟩
  · next key isPrimary =>
    refine .inr ⟨key, isPrimary, ?_⟩
    split
    · next parts =>
      rw [kept.eq_of_plain (by rw [isEnvelope, parts]; rfl)]
      exact .inl rfl
    · next fingerprint _ parts =>
      split
      · next same => exact .inr ⟨rfl, by rw [parts, map_some, same]⟩
      · exact .inl (by rw [kept.decrypt plain]; rfl)

theorem Carried.kept (plain : isEnvelope cipher secret = false)
    (carried : Carried cipher secret rings v) (apart : Apart cipher rings) :
    Kept cipher secret rings v := by
  induction carried with
  | @stored ring nonce follows =>
    refine Kept.maybeEncryptSecret ⟨.inl rfl, ?_⟩
    rintro _ ⟨⟩ earlier isRing key isPrimary
    exact mem_keys_of_primary (mem_singleton.mp isRing ▸ isPrimary)
  | @rotated rings v ring carried follows ih =>
    obtain ⟨value, _⟩ := ih fun first inFirst second inSecond =>
      apart first (mem_append_right _ inFirst) second (mem_append_right _ inSecond)
    refine ⟨value.imp_right fun ⟨earlier, before, rest⟩ =>
      ⟨earlier, .tail _ before, rest⟩, ?_⟩
    rintro _ ⟨⟩ earlier mem key isPrimary
    rcases mem_cons.mp mem with rfl | before
    · exact mem_keys_of_primary isPrimary
    · exact mem_keys_of_follows apart follows before isPrimary
  | encrypted nonce carried ih => exact (ih apart).maybeEncryptSecret
  | decrypted carried decrypts ih =>
    have kept := ih apart
    cases (kept.decrypt plain).symm.trans decrypts
    exact ⟨.inl rfl, kept.keys⟩
  | reencrypted nonce carried reencrypts ih =>
    have kept := ih apart
    rcases kept.reencrypt plain nonce with ⟨-, same⟩ | ⟨key, isPrimary, anew | ⟨same, -⟩⟩
    · cases same.symm.trans reencrypts
      exact kept
    · cases anew.symm.trans reencrypts
      exact kept.encrypt isPrimary
    · cases same.symm.trans reencrypts
      exact kept

theorem reencrypt_of_fingerprint (isPrimary : key ∈ ring.primary)
    (shown : (envelopeParts cipher v).map Prod.fst = some (cipher.fingerprint key)) :
    ring.reencrypt cipher nonce v = .ok v := by
  obtain ⟨⟨fingerprint, payload⟩, parts, same⟩ := map_eq_some_iff.mp shown
  rw [Keyring.reencrypt, isPrimary, parts]
  exact if_pos same

end

/-- A secret that has not the form of an envelope is what the latest keyring decrypts, whatever was
done to it under keyrings whose keys have different fingerprints and which keep the keys in use
before them. -/
theorem secrets_survive_key_rotation {cipher : Cipher} {secret value : Text} {ring : Keyring}
    {rings : List Keyring} (plain : isEnvelope cipher secret = false)
    (apart : Apart cipher (ring :: rings)) (carried : Carried cipher secret (ring :: rings) value) :
    ring.decrypt cipher value = .ok secret ∧
    ∀ nonce, ∃ result, ring.reencrypt cipher nonce value = .ok result ∧
      (∀ nonce', ring.reencrypt cipher nonce' result = .ok result) ∧
      ∀ primary ∈ ring.primary, isEnvelope cipher result = true ∧
        decrypt cipher primary result = .ok secret := by
  have kept := carried.kept plain apart
  refine ⟨kept.decrypt plain, fun nonce => ?_⟩
  rcases kept.reencrypt plain nonce with ⟨unset, same⟩ | ⟨key, isPrimary, anew | ⟨same, shown⟩⟩
  · refine ⟨value, same, fun _ => by rw [Keyring.reencrypt, unset], fun _ isPrimary => ?_⟩
    rw [unset] at isPrimary
    cases isPrimary
  · refine ⟨_, anew, fun _ => reencrypt_of_fingerprint isPrimary
      (by rw [envelopeParts_encrypt]; rfl), fun primary isSame => ?_⟩
    cases isPrimary.symm.trans isSame
    exact ⟨isEnvelope_encrypt, by simp [decrypt_encrypt]⟩
  · refine ⟨value, same, fun _ => reencrypt_of_fingerprint isPrimary shown,
      fun primary isSame => ?_⟩
    cases isPrimary.symm.trans isSame
    rcases kept.value with rfl | ⟨earlier, before, used, isUsed, nonce, rfl⟩
    · rw [isEnvelope, isSome_eq_false_iff, isNone_iff_eq_none] at plain
      rw [plain] at shown
      cases shown
    · rw [envelopeParts_encrypt] at shown
      have same : used = key := apart used
        (mem_flatMap.mpr ⟨earlier, before, mem_keys_of_primary isUsed⟩) key
        (mem_append_left _ (mem_keys_of_primary isPrimary)) (Option.some.inj shown)
      exact ⟨isEnvelope_encrypt, by simp [decrypt_encrypt, same]⟩

def toyCipher : Cipher where
  fingerprint key := .replicate FINGERPRINT_LEN (if key.1.head? = some 65 then 'a' else 'b')
  hexadecimal key := by split <;> decide
  base64 bytes := bytes.map fun byte => Char.ofNat byte.toNat
  decode64 text := some (text.map fun letter => UInt8.ofNat letter.toNat)
  decode64_base64 bytes := by
    have back : ∀ byte : Fin 256, (Char.ofNat byte).toNat = byte := by decide +kernel
    have same (byte : UInt8) : UInt8.ofNat (Char.ofNat byte.toNat).toNat = byte := by
      rw [back ⟨byte.toNat, byte.toNat_lt⟩, UInt8.ofNat_toNat]
    simp [Function.comp_def, same]
  encrypt key _ text := key.1 ++ .replicate (TAG_LEN + Encodable.encode (text.map Char.toNat)) 0
  decrypt key _ bytes :=
    if bytes.take KEY_LEN = key.1 then
      (Encodable.decode (bytes.length - (KEY_LEN + TAG_LEN))).map (List.map Char.ofNat)
    else none
  tagged key _ text := by
    simp only [List.length_append, List.length_replicate]
    omega
  decrypt_encrypt key _ text other := by
    simp [List.take_left' key.2, key.2, Nat.add_sub_add_left, Function.comp_def, Subtype.ext_iff,
      eq_comm]

def toyKey : Key := ⟨.replicate KEY_LEN 65, by decide⟩

def toyRing : Keyring := ⟨some toyKey, []⟩

def toyNonce : Nonce := ⟨.replicate NONCE_LEN 0, by decide⟩

theorem follows_toyRing : Follows toyCipher [] toyRing :=
  ⟨some (.replicate KEY_LEN 'A'), none, by decide +kernel, by simp⟩

def newKey : Key := ⟨.replicate KEY_LEN 66, by decide⟩

def rotatedRing : Keyring := ⟨some newKey, [toyKey]⟩

theorem follows_rotatedRing : Follows toyCipher [toyRing] rotatedRing := by
  refine ⟨some (.replicate KEY_LEN 'B'), some (.replicate KEY_LEN 'A'), by decide +kernel, ?_⟩
  intro earlier before key isPrimary
  obtain rfl := mem_singleton.mp before
  cases isPrimary
  exact ⟨.replicate KEY_LEN 'A', by decide +kernel, by decide +kernel⟩

theorem reencrypt_rotatedRing :
    rotatedRing.reencrypt toyCipher toyNonce
        (toyRing.maybeEncryptSecret toyCipher toyNonce ['s']) =
      .ok (encrypt toyCipher newKey toyNonce ['s']) := by
  have stored : toyRing.maybeEncryptSecret toyCipher toyNonce ['s'] =
      encrypt toyCipher toyKey toyNonce ['s'] := by
    rw [Keyring.maybeEncryptSecret, toyRing]
    exact if_neg (by decide +kernel)
  have decrypts : rotatedRing.decrypt toyCipher (encrypt toyCipher toyKey toyNonce ['s']) =
      .ok ['s'] := Keyring.decrypt_of_mem (by decide +kernel)
  have differ : toyCipher.fingerprint toyKey ≠ toyCipher.fingerprint newKey := by decide +kernel
  rw [stored, Keyring.reencrypt, show rotatedRing.primary = some newKey from rfl]
  simp only [envelopeParts_encrypt, if_neg differ, decrypts]
  rfl

/-- The key is replaced and the stored secret encrypted anew: the new key decrypts it. -/
theorem secret_survives_rotation :
    let stored := toyRing.maybeEncryptSecret toyCipher toyNonce ['s']
    let renewed := encrypt toyCipher newKey toyNonce ['s']
    rotatedRing.reencrypt toyCipher toyNonce stored = .ok renewed ∧
      rotatedRing.decrypt toyCipher stored = .ok ['s'] ∧
      rotatedRing.decrypt toyCipher renewed = .ok ['s'] := by
  have plain : isEnvelope toyCipher ['s'] = false := by decide +kernel
  have apart : Apart toyCipher [rotatedRing, toyRing] := by unfold Apart; decide +kernel
  have carried : Carried toyCipher ['s'] [rotatedRing, toyRing] _ :=
    .rotated _ (.stored toyNonce follows_toyRing) follows_rotatedRing
  exact ⟨reencrypt_rotatedRing, (secrets_survive_key_rotation plain apart carried).1,
    (secrets_survive_key_rotation plain apart
      (carried.reencrypted toyNonce reencrypt_rotatedRing)).1⟩

theorem secret_like_an_envelope_is_lost :
    let secret := encrypt toyCipher toyKey toyNonce []
    Carried toyCipher secret [toyRing] (toyRing.maybeEncryptSecret toyCipher toyNonce secret) ∧
      toyRing.decrypt toyCipher (toyRing.maybeEncryptSecret toyCipher toyNonce secret) = .ok [] ∧
      secret ≠ [] := by
  refine ⟨.stored toyNonce follows_toyRing, ?_, append_ne_nil_of_left_ne_nil
    (append_ne_nil_of_left_ne_nil (by decide) _) _⟩
  rw [Keyring.maybeEncryptSecret, toyRing]
  simp only [isEnvelope_encrypt, if_true]
  exact Keyring.decrypt_of_mem (mem_singleton_self toyKey)

end Warpgate.Encryption.Envelopes
