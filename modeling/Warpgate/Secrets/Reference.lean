/-
This file is about the references to secrets that stand in place of a credential, and the paths
they may name.
-/

import Warpgate.Http.Headers

namespace Warpgate.Secrets

open List

open Http (Text splitOnce splitOnce_append splitOnce_eq_some mem_of_mem_intercalate
  notMem_of_mem_splitOn join)

inductive SecretError where
  | invalidRef (reference : Text)
  | invalidBackendName (name : Text)
  | pathNotAllowed (backend path : Text)
  deriving DecidableEq

def REFERENCE_SCHEME : Text := "secret://".toList

/-! ### References -/

structure SecretRef where
  backend : Text
  mount : Text
  path : Text
  field : Text
  deriving DecidableEq

def SecretRef.toString (reference : SecretRef) : Text :=
  REFERENCE_SCHEME ++ reference.backend ++ '/' :: reference.mount ++ '/' :: reference.path ++
    '#' :: reference.field

def isControl (letter : Char) : Bool :=
  letter.toNat ≤ 0x1f || (0x7f ≤ letter.toNat && letter.toNat ≤ 0x9f)

def isValidKvSegment (segment : Text) : Bool :=
  !segment.isEmpty && segment != ['.'] && segment != ['.', '.'] &&
    !segment.any fun letter => isControl letter || letter ∈ ['\\', '?', '%', '#']

def isValidBackendName (name : Text) : Bool :=
  !name.isEmpty && name.all fun letter => letter.isAlphanum || letter ∈ ['.', '_', '-']

def validateBackendName (name : Text) : Except SecretError Unit :=
  if isValidBackendName name then .ok () else .error (.invalidBackendName name)

def SecretRef.fromStr (text : Text) : Except SecretError SecretRef :=
  match text.dropPrefix? REFERENCE_SCHEME with
  | none => .error (.invalidRef text)
  | some rest => match splitOnce '/' rest with
    | none => .error (.invalidRef text)
    | some (backend, rest) => match validateBackendName backend with
      | .error invalid => .error invalid
      | .ok () => match splitOnce '#' rest with
        | none => .error (.invalidRef text)
        | some (kvPath, field) => match splitOnce '/' kvPath with
          | none => .error (.invalidRef text)
          | some (mount, path) =>
            if !isValidKvSegment mount || !(path.splitOn '/').all isValidKvSegment ||
                field.isEmpty then .error (.invalidRef text)
            else .ok ⟨backend, mount, path, field⟩

structure StoredSecret where
  storedValue : Text
  deriving DecidableEq

inductive MaybeSecretRef where
  | inline (secret : StoredSecret)
  | reference (reference : SecretRef)
  | malformed (raw : Text)
  deriving DecidableEq

namespace MaybeSecretRef

def fromStr (text : Text) : Except SecretError MaybeSecretRef :=
  if REFERENCE_SCHEME.isPrefixOf text then (SecretRef.fromStr text).map .reference
  else .ok (.inline ⟨text⟩)

def fromStored (text : Text) : MaybeSecretRef :=
  match fromStr text with
  | .ok value => value
  | .error _ => .malformed text

def asString : MaybeSecretRef → Text
  | .inline secret => secret.storedValue
  | .reference parsed => parsed.toString
  | .malformed raw => raw

end MaybeSecretRef

def KvSegment (segment : Text) : Prop := '/' ∉ segment ∧ isValidKvSegment segment = true

structure Reads (text backend mount : Text) (segments : List Text) (field : Text) : Prop where
  text : text = REFERENCE_SCHEME ++ backend ++ '/' :: mount ++
    '/' :: ['/'].intercalate segments ++ '#' :: field
  backend : isValidBackendName backend = true
  mount : KvSegment mount
  nonempty : segments ≠ []
  segments : ∀ segment ∈ segments, KvSegment segment
  field : field ≠ []

open SecretRef

theorem notMem_of_isValidKvSegment {segment : Text} (valid : isValidKvSegment segment = true) :
    '#' ∉ segment := by
  intro mem
  simp only [isValidKvSegment, Bool.and_eq_true, Bool.not_eq_true', any_eq_false] at valid
  simpa using valid.2 _ mem

theorem notMem_of_isValidBackendName {name : Text} (valid : isValidBackendName name = true) :
    '/' ∉ name := by
  intro mem
  simp only [isValidBackendName, Bool.and_eq_true, all_eq_true] at valid
  exact absurd (valid.2 _ mem) (by decide)

variable {text backend mount field : Text} {segments : List Text}

theorem Reads.splitOn (reads : Reads text backend mount segments field) :
    (['/'].intercalate segments).splitOn '/' = segments :=
  splitOn_intercalate '/' (fun segment mem => (reads.segments segment mem).1) reads.nonempty

theorem fromStr_of_reads (reads : Reads text backend mount segments field) :
    fromStr text = .ok ⟨backend, mount, ['/'].intercalate segments, field⟩ := by
  have scheme : text.dropPrefix? REFERENCE_SCHEME = some (backend ++ '/' ::
      ((mount ++ '/' :: ['/'].intercalate segments) ++ '#' :: field)) :=
    dropPrefix?_eq_some_iff.mpr ⟨_, by simp [reads.text], beq_self_eq_true _⟩
  have pathFree : '#' ∉ mount ++ '/' :: ['/'].intercalate segments := by
    simp only [mem_append, mem_cons, not_or]
    refine ⟨notMem_of_isValidKvSegment reads.mount.2, by decide, fun mem => ?_⟩
    obtain ⟨segment, isSegment, inside⟩ := mem_of_mem_intercalate (by decide) mem
    exact notMem_of_isValidKvSegment (reads.segments segment isSegment).2 inside
  have valid : (segments.all isValidKvSegment) = true :=
    all_eq_true.mpr fun segment mem => (reads.segments segment mem).2
  simp only [fromStr, scheme, validateBackendName, reads.backend, if_true,
    splitOnce_append (notMem_of_isValidBackendName reads.backend), splitOnce_append pathFree,
    splitOnce_append reads.mount.1, reads.mount.2, reads.splitOn, valid]
  simp [reads.field]

variable {reference : SecretRef}

theorem reads_of_fromStr (parsed : fromStr text = .ok reference) :
    Reads text reference.backend reference.mount (reference.path.splitOn '/') reference.field := by
  unfold fromStr at parsed
  split at parsed
  · cases parsed
  next rest scheme =>
  split at parsed
  · cases parsed
  next backend kv atBackend =>
  split at parsed
  · cases parsed
  next validBackend =>
  split at parsed
  · cases parsed
  next kvPath field atField =>
  split at parsed
  · cases parsed
  next mount path atMount =>
  split at parsed
  · cases parsed
  next valid =>
  cases parsed
  obtain ⟨_, rfl, same⟩ := List.dropPrefix?_eq_some_iff.mp scheme
  cases eq_of_beq same
  obtain ⟨rfl, _⟩ := splitOnce_eq_some atBackend
  obtain ⟨rfl, _⟩ := splitOnce_eq_some atField
  obtain ⟨rfl, mountFree⟩ := splitOnce_eq_some atMount
  simp only [Bool.or_eq_true, Bool.not_eq_true', not_or, Bool.not_eq_false, List.all_eq_true,
    List.isEmpty_iff] at valid
  have validName : isValidBackendName backend = true := by grind [validateBackendName]
  exact ⟨by simp [List.intercalate_splitOn], validName, ⟨mountFree, valid.1.1⟩,
    List.splitOn_ne_nil _ _,
    fun segment mem => ⟨notMem_of_mem_splitOn mem, valid.1.2 segment mem⟩, valid.2⟩

theorem toString_of_fromStr
    (parsed : fromStr text = .ok reference) : reference.toString = text := by
  rw [(reads_of_fromStr parsed).text, intercalate_splitOn]
  rfl

theorem scheme_of_fromStr (parsed : fromStr text = .ok reference) : REFERENCE_SCHEME <+: text := by
  rw [(reads_of_fromStr parsed).text]
  simp only [append_assoc]
  exact prefix_append _ _

theorem fromStored_eq (stored : Text) : MaybeSecretRef.fromStored stored =
    match fromStr stored with
    | .ok reference => .reference reference
    | .error _ => if REFERENCE_SCHEME <+: stored then .malformed stored else .inline ⟨stored⟩ := by
  simp only [MaybeSecretRef.fromStored, MaybeSecretRef.fromStr, isPrefixOf_iff_prefix]
  cases parsed : fromStr stored with
  | ok reference => rw [if_pos (scheme_of_fromStr parsed)]; rfl
  | error =>
    by_cases scheme : REFERENCE_SCHEME <+: stored
    · rw [if_pos scheme, if_pos scheme]; rfl
    · rw [if_neg scheme, if_neg scheme]

/-- The parser accepts exactly the grammar, which reads a text in one way only, and writing out what
was parsed gives the text. -/
theorem secret_references_parse_their_grammar :
    (∀ text reference, SecretRef.fromStr text = .ok reference ↔ ∃ segments,
      Reads text reference.backend reference.mount segments reference.field ∧
        reference.path = ['/'].intercalate segments) ∧
    (∀ text reference, SecretRef.fromStr text = .ok reference → reference.toString = text) ∧
    (∀ text backend mount segments field backend' mount' segments' field',
      Reads text backend mount segments field → Reads text backend' mount' segments' field' →
      backend = backend' ∧ mount = mount' ∧ segments = segments' ∧ field = field') ∧
    ∀ stored, (MaybeSecretRef.fromStored stored).asString = stored ∧
      ((∃ reference, MaybeSecretRef.fromStored stored = .reference reference) ↔
        ∃ reference, SecretRef.fromStr stored = .ok reference) ∧
      ((∃ raw, MaybeSecretRef.fromStored stored = .malformed raw) ↔
        REFERENCE_SCHEME <+: stored ∧ ¬∃ reference, SecretRef.fromStr stored = .ok reference) ∧
      ((∃ secret, MaybeSecretRef.fromStored stored = .inline secret) ↔
        ¬REFERENCE_SCHEME <+: stored) := by
  refine ⟨fun text reference => ⟨fun parsed => ?_, ?_⟩, fun _ _ => toString_of_fromStr, ?_,
    fun stored => ?_⟩
  · exact ⟨_, reads_of_fromStr parsed, (intercalate_splitOn '/').symm⟩
  · rintro ⟨segments, reads, path⟩
    rw [fromStr_of_reads reads, ← path]
  · intro text backend mount segments field backend' mount' segments' field' reads reads'
    have same := (fromStr_of_reads reads).symm.trans (fromStr_of_reads reads')
    simp only [Except.ok.injEq, mk.injEq] at same
    obtain ⟨sameBackend, sameMount, samePath, sameField⟩ := same
    exact ⟨sameBackend, sameMount, by rw [← reads.splitOn, samePath, reads'.splitOn], sameField⟩
  · rw [fromStored_eq]
    cases parsed : fromStr stored with
    | ok reference =>
      simp [MaybeSecretRef.asString, toString_of_fromStr parsed, scheme_of_fromStr parsed]
    | error =>
      by_cases scheme : REFERENCE_SCHEME <+: stored <;> simp [MaybeSecretRef.asString, scheme]

theorem secret_reference_reads :
    let text := "secret://vault-prod/kv/a/b#c#d".toList
    let reference : SecretRef := ⟨"vault-prod".toList, "kv".toList, "a/b".toList, "c#d".toList⟩
    reference.toString = text ∧ ∃ segments,
      Reads text reference.backend reference.mount segments reference.field ∧
      ∀ segments', Reads text reference.backend reference.mount segments' reference.field →
        segments' = segments := by
  intro text reference
  have parsed : fromStr text = .ok reference := by decide +kernel
  obtain ⟨segments, reads, _⟩ := (secret_references_parse_their_grammar.1 text reference).mp parsed
  exact ⟨secret_references_parse_their_grammar.2.1 text reference parsed, segments, reads,
    fun _ reads' => (secret_references_parse_their_grammar.2.2.1
      text _ _ _ _ _ _ _ _ reads' reads).2.2.1⟩

/-! ### Paths -/

def isWhitespace (letter : Char) : Bool :=
  let code := letter.toNat
  (9 ≤ code && code ≤ 13) || code ∈ [0x20, 0x85, 0xa0, 0x1680] ||
    (0x2000 ≤ code && code ≤ 0x200a) || code ∈ [0x2028, 0x2029, 0x202f, 0x205f, 0x3000]

def trim (text : Text) : Text := (text.dropWhile isWhitespace).rdropWhile isWhitespace

def lines (text : Text) : List Text :=
  let parts := text.splitOn '\n'
  (parts.dropLast.map fun line => if line.getLast? = some '\r' then line.dropLast else line) ++
    parts.getLast?.toList.filter (· ≠ [])

def storedPaths (allowedPaths : List Text) : Text := join "\n" allowedPaths

def readPaths (stored : Text) : List Text := ((lines stored).map trim).filter (· ≠ [])

def pathAllowed (allowed : List Text) (path : Text) : Bool :=
  allowed.isEmpty || allowed.any fun entry =>
    let entry := entry.rdropWhile (· = '/')
    path = entry || (path.dropPrefix? entry).any (·.head? = some '/')

structure VaultBackend where
  name : Text
  allowedPaths : List Text

def VaultBackend.assertPathAllowed (backend : VaultBackend) (path : Text) :
    Except SecretError Unit :=
  if pathAllowed backend.allowedPaths path then .ok ()
  else .error (.pathNotAllowed backend.name path)

def trimEnd (entry : Text) : Text := entry.rdropWhile (· = '/')

/-- The entry without its trailing slashes is the path or a whole-segment prefix of it. -/
def Covers (entry path : Text) : Prop :=
  path = trimEnd entry ∨ trimEnd entry ++ ['/'] <+: path

instance Covers.decidable (entry path : Text) : Decidable (Covers entry path) :=
  inferInstanceAs (Decidable (_ ∨ _))

/-- Each list covers the entries of the other. -/
def CoverAlike (submitted read : List Text) : Prop :=
  (∀ entry ∈ submitted, ∃ line ∈ read, Covers line (trimEnd entry)) ∧
    ∀ line ∈ read, ∃ entry ∈ submitted, Covers entry (trimEnd line)

instance CoverAlike.decidable (submitted read : List Text) :
    Decidable (CoverAlike submitted read) :=
  inferInstanceAs (Decidable (_ ∧ _))

/-- The entry is a line of its own. -/
def Plain (entry : Text) : Prop := '\n' ∉ entry ∧ entry ≠ [] ∧ trim entry = entry

instance Plain.decidable (entry : Text) : Decidable (Plain entry) :=
  inferInstanceAs (Decidable (_ ∧ _))

theorem getLast?_ne_of_trim {entry : Text} (trimmed : trim entry = entry) {letter : Char}
    (blank : isWhitespace letter = true) : entry.getLast? ≠ some letter := by
  intro last
  have nonempty : trim entry ≠ [] := by
    rw [trimmed]
    rintro rfl
    cases last
  rw [← trimmed, getLast?_eq_some_getLast nonempty] at last
  exact rdropWhile_last_not isWhitespace _ nonempty (Option.some.inj last ▸ blank)

variable {allowed : List Text}

theorem lines_storedPaths (plain : ∀ entry ∈ allowed, Plain entry)
    (nonempty : allowed ≠ []) : lines (storedPaths allowed) = allowed := by
  have parts : (storedPaths allowed).splitOn '\n' = allowed :=
    splitOn_intercalate '\n' (fun entry mem => (plain entry mem).1) nonempty
  have ends : ∀ line ∈ allowed.dropLast,
      (if line.getLast? = some '\r' then line.dropLast else line) = line := fun line mem =>
    if_neg (getLast?_ne_of_trim (plain line ((dropLast_sublist _).subset mem)).2.2 (by decide))
  have last := (plain _ (getLast_mem nonempty)).2.1
  rw [lines, parts, map_congr_left ends, map_id', getLast?_eq_some_getLast nonempty]
  simp only [Option.toList_some, filter_cons, last, ne_eq, not_false_eq_true, decide_true,
    if_true, filter_nil, dropLast_append_getLast]

theorem readPaths_storedPaths (plain : ∀ entry ∈ allowed, Plain entry) :
    readPaths (storedPaths allowed) = allowed := by
  by_cases empty : allowed = []
  · subst empty
    decide
  · rw [readPaths, lines_storedPaths plain empty,
      map_congr_left fun entry mem => (plain entry mem).2.2, map_id']
    exact filter_eq_self.mpr fun entry mem => decide_eq_true (plain entry mem).2.1

variable {entry other path : Text}

theorem Covers.self : Covers entry (trimEnd entry) := .inl rfl

theorem Covers.trans (outer : Covers entry (trimEnd other)) (inner : Covers other path) :
    Covers entry path := by
  rcases inner with rfl | ⟨rest, rfl⟩
  · exact outer
  · refine .inr ?_
    rcases outer with same | ⟨between, same⟩
    · exact ⟨rest, by rw [same]⟩
    · exact ⟨between ++ '/' :: rest, by rw [← same]; simp⟩

theorem exists_not_covered (allowed : List Text) :
    ∃ path, ∀ entry ∈ allowed, ¬Covers entry path := by
  refine ⟨replicate (allowed.flatten.length + 1) 'a', fun entry mem covers => ?_⟩
  have inside : entry.length ≤ allowed.flatten.length := (sublist_flatten_of_mem mem).length_le
  have shorter : (trimEnd entry).length ≤ entry.length := ( rdropWhile_prefix _ _).length_le
  rcases covers with same | below
  · grind
  · exact absurd (eq_of_mem_replicate (below.subset (mem_append_right _ (.head _)))) (by decide)

theorem pathAllowed_iff :
    pathAllowed allowed path = true ↔ allowed = [] ∨ ∃ entry ∈ allowed, Covers entry path := by
  have below (entry : Text) : (path.dropPrefix? entry).any (·.head? = some '/') = true ↔
      entry ++ ['/'] <+: path := by
    simp only [Option.any_eq_true, List.dropPrefix?_eq_some_iff, decide_eq_true_eq]
    constructor
    · rintro ⟨found, ⟨_, rfl, same⟩, slash⟩
      obtain ⟨rest, rfl⟩ := List.head?_eq_some_iff.mp slash
      exact ⟨rest, by simp [eq_of_beq same]⟩
    · rintro ⟨rest, rfl⟩
      exact ⟨'/' :: rest, ⟨entry, by simp, beq_self_eq_true entry⟩, rfl⟩
  simp only [pathAllowed, Covers, trimEnd, Bool.or_eq_true, List.isEmpty_iff, List.any_eq_true,
    decide_eq_true_eq, below]

theorem coverAlike_iff {submitted read : List Text} (empty : submitted = [] → read = []) :
    CoverAlike submitted read ↔ ∀ path,
      (read = [] ∨ ∃ line ∈ read, Covers line path) ↔
        submitted = [] ∨ ∃ entry ∈ submitted, Covers entry path := by
  constructor
  · rintro ⟨covered, back⟩ path
    constructor
    · rintro (none | ⟨line, isLine, covers⟩)
      · refine .inl (eq_nil_iff_forall_not_mem.mpr fun entry mem => ?_)
        obtain ⟨line, isLine, -⟩ := covered entry mem
        exact not_mem_nil (none ▸ isLine)
      · obtain ⟨entry, mem, outer⟩ := back line isLine
        exact .inr ⟨entry, mem, outer.trans covers⟩
    · rintro (none | ⟨entry, mem, covers⟩)
      · exact .inl (empty none)
      · obtain ⟨line, isLine, outer⟩ := covered entry mem
        exact .inr ⟨line, isLine, outer.trans covers⟩
  · intro same
    have nonempty {entry : Text} (mem : entry ∈ submitted) : read ≠ [] := by
      rintro none
      obtain ⟨path, uncovered⟩ := exists_not_covered submitted
      rcases (same path).mp (.inl none) with isEmpty | ⟨other, isOther, covers⟩
      · exact not_mem_nil (isEmpty ▸ mem)
      · exact uncovered other isOther covers
    refine ⟨fun entry mem => ?_, fun line isLine => ?_⟩
    · exact ((same _).mpr (.inr ⟨entry, mem, .self⟩)).resolve_left (nonempty mem)
    · refine ((same _).mp (.inr ⟨line, isLine, .self⟩)).resolve_left fun none => ?_
      exact not_mem_nil (empty none ▸ isLine)

/-- The backend allows exactly the paths that the submitted list names, or all of them if it is
empty, if and only if that list and the one read back cover each other's entries; entries that are
lines of their own are read back as they are. -/
theorem backend_serves_submitted_paths (allowed : List Text) (name : Text) :
    ((∀ path,
      (VaultBackend.mk name (readPaths (storedPaths allowed))).assertPathAllowed path = .ok () ↔
        allowed = [] ∨ ∃ entry ∈ allowed, Covers entry path) ↔
      CoverAlike allowed (readPaths (storedPaths allowed))) ∧
    ((∀ entry ∈ allowed, Plain entry) → readPaths (storedPaths allowed) = allowed) := by
  refine ⟨?_, readPaths_storedPaths⟩
  have allows (read : List Text) (path : Text) :
      (VaultBackend.mk name read).assertPathAllowed path = .ok () ↔
        read = [] ∨ ∃ line ∈ read, Covers line path := by
    rw [VaultBackend.assertPathAllowed, ← pathAllowed_iff]
    cases pathAllowed read path <;> simp
  simp only [allows]
  exact (coverAlike_iff (by rintro rfl; decide)).symm

theorem backend_serves_app_paths :
    let submitted := ["kv/app/".toList, "kv/app/db\nkv/app".toList]
    (VaultBackend.mk [] (readPaths (storedPaths submitted))).assertPathAllowed
      "kv/app/db".toList = .ok () ∧
    readPaths (storedPaths ["kv/app/".toList]) = ["kv/app/".toList] :=
  ⟨((backend_serves_submitted_paths _ []).1.mpr (by decide +kernel) _).mpr
    (.inr ⟨_, .head _, by decide +kernel⟩),
    (backend_serves_submitted_paths _ []).2 (by decide +kernel)⟩

theorem stored_paths_may_allow_more :
    pathAllowed (readPaths (storedPaths [" ".toList])) "kv/db".toList = true ∧
      ¬Covers " ".toList "kv/db".toList ∧
      pathAllowed (readPaths (storedPaths ["app\nkv".toList])) "kv/db".toList = true ∧
      ¬Covers "app\nkv".toList "kv/db".toList := by
  decide +kernel

end Warpgate.Secrets
