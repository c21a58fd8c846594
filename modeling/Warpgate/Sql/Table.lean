/-
This file models a database table with a primary key.
-/

import Mathlib.Data.List.Nodup
import Mathlib.Algebra.BigOperators.Group.List.Basic

namespace Sql

open List

/-- Rows of which no two have the same key. -/
structure Table (Row : Type) {Key : Type} (key : Row → Key) where
  rows : List Row
  distinct : (rows.map key).Nodup

namespace Table

variable {Row Key : Type} {key k : Row → Key}

@[ext] theorem ext {first second : Table Row k} (same : first.rows = second.rows) :
    first = second := by
  cases first
  cases second
  cases same
  rfl

def empty : Table Row key where
  rows := []
  distinct := List.nodup_nil

def select (table : Table Row key) (filter : Row → Bool) : List Row :=
  table.rows.filter filter

variable (table : Table Row k) (p : Row → Bool) (change : Row → Row)
  (keeps : ∀ row, k (change row) = k row)

theorem mem_select (r : Row) : r ∈ table.select p ↔ r ∈ table.rows ∧ p r = true := mem_filter

def update (table : Table Row key) (filter : Row → Bool) (change : Row → Row)
    (keeps : ∀ row, key (change row) = key row) : Table Row key where
  rows := table.rows.map fun row => if filter row then change row else row
  distinct := by
    have same : (table.rows.map fun row => if filter row then change row else row).map key =
        table.rows.map key := by
      rw [List.map_map]
      refine List.map_congr_left fun row _ => ?_
      show key (if filter row then change row else row) = key row
      split
      · exact keeps row
      · rfl
    rw [same]
    exact table.distinct

def matching (table : Table Row key) (filter : Row → Bool) : Nat :=
  table.rows.countP filter

theorem update_of_matching_zero (unmatched : table.matching p = 0) :
    table.update p change keeps = table := by
  refine ext ?_
  show table.rows.map (fun r => if p r then change r else r) = table.rows
  have unchanged : ∀ r ∈ table.rows, (if p r then change r else r) = id r :=
    fun r mem => if_neg (countP_eq_zero.mp unmatched r mem)
  rw [map_congr_left unchanged, map_id]

def delete (table : Table Row key) (filter : Row → Bool) : Table Row key where
  rows := table.rows.filter fun row => !filter row
  distinct := (List.filter_sublist.map key).nodup table.distinct

theorem mem_delete {table : Table Row k} {p : Row → Bool} {r : Row}
    (mem : r ∈ (table.delete p).rows) : r ∈ table.rows :=
  (mem_filter.mp mem).1

theorem matching_delete_le (p cnt : Row → Bool) :
    (table.delete p).matching cnt ≤ table.matching cnt :=
  filter_sublist.countP_le

theorem matching_update_le (cnt : Row → Bool)
    (counts : ∀ r, p r = true → cnt (change r) = true → cnt r = true) :
    (table.update p change keeps).matching cnt ≤ table.matching cnt := by
  rw [matching, update, countP_map]
  refine countP_mono_left fun r _ post => ?_
  rw [Function.comp_apply] at post
  by_cases changed : p r = true
  · rw [if_pos changed] at post
    exact counts r changed post
  · rw [if_neg changed] at post
    exact post

section Keyed

variable [DecidableEq Key]

def find? (table : Table Row key) (sought : Key) : Option Row :=
  table.rows.find? fun row => key row = sought

def insert (table : Table Row key) (row : Row) : Bool × Table Row key :=
  if free : key row ∉ table.rows.map key then
    (true, { rows := row :: table.rows, distinct := List.nodup_cons.mpr ⟨free, table.distinct⟩ })
  else (false, table)

variable {table : Table Row k} {sought : Key} {row r : Row} {pre post : List Row}

open Option

theorem mem_of_find? (found : table.find? sought = some r) : r ∈ table.rows :=
  mem_of_find?_eq_some found

theorem key_of_find? (found : table.find? sought = some r) : k r = sought := by
  simpa using find?_some found

theorem find?_eq_some_iff : table.find? sought = some r ↔ r ∈ table.rows ∧ k r = sought := by
  refine ⟨fun found => ⟨mem_of_find? found, key_of_find? found⟩, ?_⟩
  rintro ⟨mem, rfl⟩
  obtain ⟨rows, distinct⟩ := table
  simp only [find?] at mem ⊢
  induction rows with
  | nil => cases mem
  | cons head tail ih => grind

theorem find?_of_mem (mem : r ∈ table.rows) : table.find? (k r) = some r :=
  find?_eq_some_iff.mpr ⟨mem, rfl⟩

theorem split_of_find? (found : table.find? sought = some r) :
    ∃ pre post, table.rows = pre ++ r :: post ∧ ∀ other ∈ pre ++ post, k other ≠ sought := by
  obtain ⟨mem, rfl⟩ := find?_eq_some_iff.mp found
  obtain ⟨pre, post, split⟩ := append_of_mem mem
  refine ⟨pre, post, split, fun other isOther same => ?_⟩
  have distinct := table.distinct
  rw [split, map_append, map_cons, nodup_middle, nodup_cons, ← map_append] at distinct
  exact distinct.1 (mem_map.mpr ⟨other, isOther, same⟩)

theorem rows_update_key (found : table.find? sought = some r)
    (split : table.rows = pre ++ r :: post)
    (others : ∀ other ∈ pre ++ post, k other ≠ sought) (change : Row → Row)
    (keeps : ∀ r, k (change r) = k r) :
    (table.update (fun r => k r = sought) change keeps).rows = pre ++ change r :: post := by
  have unchanged : ∀ rows : List Row, (∀ other ∈ rows, k other ≠ sought) →
      rows.map (fun r => if decide (k r = sought) = true then change r else r) = rows := by
    intro rows ne
    refine (map_congr_left fun other mem => ?_).trans (map_id rows)
    exact if_neg (by simpa using ne other mem)
  show table.rows.map (fun r => if decide (k r = sought) = true then change r else r) = _
  rw [split, map_append, map_cons, if_pos (decide_eq_true (key_of_find? found)),
    unchanged pre fun other mem => others other (mem_append_left _ mem),
    unchanged post fun other mem => others other (mem_append_right _ mem)]

theorem rows_delete_key (found : table.find? sought = some r)
    (split : table.rows = pre ++ r :: post)
    (others : ∀ other ∈ pre ++ post, k other ≠ sought) :
    (table.delete fun r => k r = sought).rows = pre ++ post := by
  have kept : ∀ rows : List Row, (∀ other ∈ rows, k other ≠ sought) →
      rows.filter (fun r => !decide (k r = sought)) = rows := fun rows ne =>
    filter_eq_self.mpr fun other mem => by simpa using ne other mem
  show table.rows.filter (fun r => !decide (k r = sought)) = _
  rw [split, filter_append, filter_cons_of_neg (by simp [key_of_find? found]),
    kept pre fun other mem => others other (mem_append_left _ mem),
    kept post fun other mem => others other (mem_append_right _ mem)]

theorem find?_eq_none_iff : table.find? sought = none ↔ sought ∉ table.rows.map k := by
  simp [find?, find?_eq_none]

theorem update_of_absent (absent : table.find? sought = none) (change : Row → Row)
    (keeps : ∀ r, k (change r) = k r) :
    table.update (fun r => k r = sought) change keeps = table := by
  refine update_of_matching_zero table _ change keeps (countP_eq_zero.mpr fun r mem => ?_)
  simpa using fun same => find?_eq_none_iff.mp absent (mem_map.mpr ⟨r, mem, same⟩)

theorem delete_of_absent (absent : table.find? sought = none) :
    (table.delete fun r => k r = sought) = table := by
  refine ext (filter_eq_self.mpr fun r mem => ?_)
  simpa using fun same => find?_eq_none_iff.mp absent (mem_map.mpr ⟨r, mem, same⟩)

@[simp] theorem find?_update (table : Table Row k) (p : Row → Bool) (change : Row → Row)
    (keeps : ∀ r, k (change r) = k r) (sought : Key) :
    (table.update p change keeps).find? sought =
      (table.find? sought).map fun r => if p r then change r else r := by
  simp only [find?, update, find?_map]
  congr 2
  funext r
  simp only [Function.comp_apply]
  split
  · rw [keeps]
  · rfl

@[simp] theorem find?_delete (table : Table Row key) (filter : Row → Bool) (sought : Key) :
    (table.delete filter).find? sought = (table.find? sought).filter fun row => !filter row := by
  cases found : table.find? sought with
  | none =>
    rw [find?_eq_none_iff] at found
    rw [filter_none, find?_eq_none_iff]
    exact fun member => found ((filter_sublist.map key).subset member)
  | some row =>
    obtain ⟨member, atKey⟩ := find?_eq_some_iff.mp found
    by_cases kept : filter row = true
    · rw [filter_some, if_neg (by simpa using kept), find?_eq_none_iff]
      rintro again
      obtain ⟨other, otherMember, otherKey⟩ := mem_map.mp again
      rw [delete, mem_filter] at otherMember
      have same : other = row := by
        have lookup := find?_of_mem otherMember.1
        rw [otherKey, found] at lookup
        exact (some.inj lookup).symm
      simp [same, kept] at otherMember
    · rw [filter_some, if_pos (by simpa using kept), find?_eq_some_iff]
      exact ⟨mem_filter.mpr ⟨member, by simpa using kept⟩, atKey⟩

theorem insert_of_free (table : Table Row k) (r : Row) (free : table.find? (k r) = none) :
    table.insert r =
      (true, { rows := r :: table.rows,
               distinct := nodup_cons.mpr ⟨find?_eq_none_iff.mp free, table.distinct⟩ }) := by
  rw [insert, dif_pos (find?_eq_none_iff.mp free)]

theorem insert_of_taken (table : Table Row k) (r : Row)
    (taken : table.find? (k r) ≠ none) : table.insert r = (false, table) := by
  rw [insert, dif_neg (fun free => taken (find?_eq_none_iff.mpr free))]

theorem mem_insert {r other : Row} (mem : other ∈ (table.insert r).2.rows) :
    other = r ∨ other ∈ table.rows := by
  unfold insert at mem
  split at mem
  · exact mem_cons.mp mem
  · exact .inr mem

theorem mem_insert_of_mem {r other : Row} (mem : other ∈ table.rows) :
    other ∈ (table.insert r).2.rows := by
  unfold insert
  split
  · exact mem_cons_of_mem r mem
  · exact mem

theorem find?_insert (table : Table Row k) (r : Row) (sought : Key) :
    (table.insert r).2.find? sought =
      if k r = sought then some ((table.find? sought).getD r) else table.find? sought := by
  by_cases free : table.find? (k r) = none
  · rw [insert_of_free table r free]
    by_cases same : k r = sought
    · subst same
      have absent : (table.find? (k r)).getD r = r := by rw [free]; rfl
      rw [if_pos rfl, absent]
      simp [find?]
    · rw [if_neg same]
      simp [find?, same]
  · rw [insert_of_taken table r free]
    by_cases same : k r = sought
    · rw [if_pos same, ← same]
      cases found : table.find? (k r) with
      | none => exact absurd found free
      | some stored => rfl
    · rw [if_neg same]

theorem insert_cases (table : Table Row k) (r : Row) :
    table.insert r = (false, table) ∨ ∃ inserted : Table Row k, table.insert r = (true, inserted) ∧
        table.find? (k r) = none ∧ inserted.rows = r :: table.rows ∧
        ∀ sought, inserted.find? sought = if k r = sought then some r else table.find? sought := by
  by_cases free : table.find? (k r) = none
  · refine .inr ⟨_, insert_of_free table r free, free, rfl, fun sought => ?_⟩
    have found := find?_insert table r sought
    rw [insert_of_free table r free] at found
    rw [found]
    by_cases same : k r = sought
    · rw [if_pos same, if_pos same, ← same, free]
      rfl
    · rw [if_neg same, if_neg same]
  · exact .inl (insert_of_taken table r free)

def upsert (table : Table Row key) (row : Row) : Table Row key :=
  ((table.delete fun stored => key stored = key row).insert row).2

theorem mem_upsert {r other : Row} (mem : other ∈ (table.upsert r).rows) :
    other = r ∨ other ∈ table.rows :=
  (mem_insert mem).imp_right mem_delete

@[simp] theorem find?_upsert (table : Table Row key) (row : Row) (sought : Key) :
    (table.upsert row).find? sought =
      if key row = sought then some row else table.find? sought := by
  rw [upsert, find?_insert, find?_delete]
  by_cases same : key row = sought
  · rw [if_pos same, if_pos same]
    cases found : table.find? sought with
    | none => rfl
    | some stored => rw [filter_some, key_of_find? found, same]; simp
  · rw [if_neg same, if_neg same]
    cases found : table.find? sought with
    | none => rfl
    | some stored => rw [filter_some, key_of_find? found]; simp [Ne.symm same]

theorem select_of_key (table : Table Row k) (p : Row → Bool) (sought : Key)
    (pins : ∀ r, p r = true → k r = sought) :
    table.select p = ((table.find? sought).filter p).toList := by
  have elsewhere : ∀ rows : List Row, sought ∉ rows.map k → rows.filter p = [] := by
    intro rows absent
    refine filter_eq_nil_iff.mpr fun r mem matched => absent ?_
    exact mem_map.mpr ⟨r, mem, pins r matched⟩
  cases found : table.find? sought with
  | none => exact elsewhere _ (find?_eq_none_iff.mp found)
  | some r =>
    obtain ⟨mem, atKey⟩ := find?_eq_some_iff.mp found
    obtain ⟨pre, post, split⟩ := append_of_mem mem
    have distinct := table.distinct
    rw [split, map_append, map_cons, nodup_middle, nodup_cons,
      mem_append, not_or, atKey] at distinct
    rw [select, split, filter_append, elsewhere pre distinct.1.1, filter_cons,
      elsewhere post distinct.1.2, filter_some]
    split <;> rfl

theorem matching_of_key (table : Table Row k) (p : Row → Bool) (sought : Key)
    (pins : ∀ r, p r = true → k r = sought) :
    table.matching p = ((table.find? sought).filter p).toList.length := by
  rw [matching, countP_eq_length_filter, ← select_of_key table p sought pins, select]

theorem matching_pos_iff (table : Table Row k) (p : Row → Bool) (sought : Key)
    (pins : ∀ r, p r = true → k r = sought) :
    0 < table.matching p ↔ ∃ r, table.find? sought = some r ∧ p r = true := by
  rw [matching_of_key table p sought pins]
  cases table.find? sought with
  | none => simp
  | some r => grind

theorem countP_of_agree (first second : Table Row k) (sought : Key) (cnt : Row → Bool)
    (agree : ∀ other, other ≠ sought → second.find? other = first.find? other) :
    second.rows.countP cnt + ((first.find? sought).filter cnt).toList.length =
      first.rows.countP cnt + ((second.find? sought).filter cnt).toList.length := by
  have apart : ∀ table : Table Row k, table.rows.countP cnt =
      ((table.find? sought).filter cnt).toList.length +
        (table.rows.filter fun r => k r ≠ sought).countP cnt := by
    intro table
    have here : table.rows.countP (fun r => decide (k r = sought) && cnt r) =
        ((table.find? sought).filter cnt).toList.length := by
      have only := table.matching_of_key (fun r => decide (k r = sought) && cnt r) sought
        fun r matched => (by simpa using matched : k r = sought ∧ _).1
      rw [matching] at only
      rw [only]
      cases found : table.find? sought with
      | none => rfl
      | some r => simp [filter_some, key_of_find? found]
    rw [countP_eq_countP_filter_add table.rows cnt fun r => k r = sought, countP_filter, ← here]
    simp only [Bool.and_comm, decide_not, ne_eq]
  have rest : (first.rows.filter fun r => k r ≠ sought).Perm
      (second.rows.filter fun r => k r ≠ sought) := by
    refine (perm_ext_iff_of_nodup ?_ ?_).mpr fun r => ?_
    · exact (Nodup.of_map k first.distinct).filter _
    · exact (Nodup.of_map k second.distinct).filter _
    · simp only [mem_filter, decide_eq_true_eq, and_congr_left_iff]
      intro ne
      have same := agree (k r) ne
      constructor
      · exact fun mem => mem_of_find? (same.trans (find?_of_mem mem))
      · exact fun mem => mem_of_find? (same.symm.trans (find?_of_mem mem))
  rw [apart first, apart second, rest.countP_eq]
  omega

end Keyed

end Table

end Sql
