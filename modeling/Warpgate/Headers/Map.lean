/-
This file defines maps from names to lists of values, as headers are kept.
-/

import Mathlib.Data.List.Nodup

namespace Headers

open List

structure HeaderMap (Name Value : Type) where
  entries : List (Name × List Value)
  nodup : (entries.map Prod.fst).Nodup

namespace HeaderMap

variable {Name Value : Type}

def empty : HeaderMap Name Value where
  entries := []
  nodup := List.nodup_nil

def keys (map : HeaderMap Name Value) : List Name := map.entries.map Prod.fst

variable [DecidableEq Name]

def getAll (map : HeaderMap Name Value) (name : Name) : List Value :=
  ((map.entries.find? fun entry => entry.1 = name).map Prod.snd).getD []

def contains (map : HeaderMap Name Value) (name : Name) : Bool := name ∈ map.keys

def modify (map : HeaderMap Name Value) (name : Name) (change : List Value → List Value) :
    HeaderMap Name Value :=
  if known : name ∈ map.keys then
    { entries := map.entries.map fun entry =>
        if entry.1 = name then (entry.1, change entry.2) else entry
      nodup := by
        have sameNames : ∀ entry : Name × List Value,
            (if entry.1 = name then (entry.1, change entry.2) else entry).1 = entry.1 := by
          intro entry
          split <;> rfl
        rw [List.map_map, show Prod.fst ∘ _ = Prod.fst from funext sameNames]
        exact map.nodup }
  else
    { entries := map.entries ++ [(name, change [])]
      nodup := by
        rw [List.map_append, List.map_singleton, List.nodup_append_comm]
        exact List.nodup_cons.mpr ⟨known, map.nodup⟩ }

def append (map : HeaderMap Name Value) (name : Name) (value : Value) : HeaderMap Name Value :=
  map.modify name fun values => values ++ [value]

def insert (map : HeaderMap Name Value) (name : Name) (value : Value) : HeaderMap Name Value :=
  map.modify name fun _ => [value]

variable (map : HeaderMap Name Value) (name : Name)

@[simp] theorem getAll_empty : (empty : HeaderMap Name Value).getAll name = [] := rfl

theorem find?_map_entries (entries : List (Name × List Value)) (name asked : Name)
    (change : List Value → List Value) :
    ((entries.map fun e => if e.1 = name then (e.1, change e.2) else e).find?
        fun e => e.1 = asked) = (entries.find? fun e => e.1 = asked).map fun e =>
        if e.1 = name then (e.1, change e.2) else e := by
  rw [find?_map]
  congr 2
  funext e
  dsimp only [Function.comp]
  split <;> rfl

theorem getAll_modify (change : List Value → List Value) (asked : Name) :
    (map.modify name change).getAll asked =
      if asked = name then change (map.getAll name) else map.getAll asked := by
  unfold modify
  split
  · next present =>
    show (((List.map _ map.entries).find? _).map Prod.snd).getD [] = _
    rw [find?_map_entries]
    by_cases same : asked = name
    · subst same
      obtain ⟨e, mem, named⟩ := mem_map.mp present
      cases found : map.entries.find? fun e => e.1 = asked with
      | none => exact absurd (decide_eq_true named) (find?_eq_none.mp found e mem)
      | some e =>
        have isAsked := of_decide_eq_true (find?_some found :)
        rw [if_pos rfl, getAll, found, Option.map_some, if_pos isAsked]
        rfl
    · rw [if_neg same, getAll]
      cases found : map.entries.find? fun e => e.1 = asked with
      | none => rfl
      | some e => grind
  · next absent =>
    show (((map.entries ++ [(name, change [])]).find? _).map Prod.snd).getD [] = _
    rw [find?_append]
    by_cases same : asked = name
    · subst same
      have missing : (map.entries.find? fun e => e.1 = asked) = none := by
        refine find?_eq_none.mpr fun e mem isAsked => absent ?_
        exact mem_map.mpr ⟨e, mem, of_decide_eq_true isAsked⟩
      simp [missing, getAll]
    · simp [same, Ne.symm same, getAll]

@[simp] theorem getAll_append (v : Value) (asked : Name) :
    (map.append name v).getAll asked =
      if asked = name then map.getAll name ++ [v] else map.getAll asked :=
  map.getAll_modify name _ asked

@[simp] theorem getAll_insert (v : Value) (asked : Name) :
    (map.insert name v).getAll asked = if asked = name then [v] else map.getAll asked :=
  map.getAll_modify name _ asked

end HeaderMap

def SameOrSecret {Element : Type} (secret : Element → Prop) (first second : Element) : Prop :=
  first = second ∨ secret first ∧ secret second

theorem SameOrSecret.congr {Element Result : Type} {secret : Element → Prop}
    {first second : Element} (alike : SameOrSecret secret first second) {read : Element → Result}
    {hidden : Result} (hides : ∀ element, secret element → read element = hidden) :
    read first = read second := by
  grind [SameOrSecret]

section Lists

variable {First Second Element Result : Type} {first : First → Result} {second : Second → Result}

theorem map_eq_of_forall₂ {firsts : List First} {seconds : List Second}
    (pairs : Forall₂ (fun one other => first one = second other) firsts seconds) :
    firsts.map first = seconds.map second := by
  induction pairs with
  | nil => rfl
  | cons same _ ih => rw [map_cons, map_cons, same, ih]

theorem filterMap_eq_of_forall₂ {first : First → Option Result} {second : Second → Option Result}
    {firsts : List First} {seconds : List Second}
    (pairs : Forall₂ (fun one other => first one = second other) firsts seconds) :
    firsts.filterMap first = seconds.filterMap second := by
  have same := congrArg (filterMap id) (map_eq_of_forall₂ pairs)
  rwa [filterMap_map, filterMap_map] at same

theorem forall₂_and_of_map_eq {related : First → Second → Prop} {firsts : List First}
    {seconds : List Second} (pairs : Forall₂ related firsts seconds)
    (same : firsts.map first = seconds.map second) :
    Forall₂ (fun one other => related one other ∧ first one = second other) firsts seconds := by
  induction pairs with
  | nil => exact .nil
  | cons relates _ ih =>
    obtain ⟨head, tail⟩ := cons.inj same
    exact .cons ⟨relates, head⟩ (ih tail)

variable {secret : Element → Prop} {firsts seconds : List Element}
  (alike : List.Forall₂ (SameOrSecret secret) firsts seconds)

include alike

theorem filterMap_eq_of_secret {read : Element → Option Result} {hidden : Option Result}
    (hides : ∀ element, secret element → read element = hidden) :
    firsts.filterMap read = seconds.filterMap read :=
  filterMap_eq_of_forall₂ (alike.imp fun _ _ same => same.congr hides)

theorem filter_eq_of_secret {kept : Element → Bool}
    (hides : ∀ element, secret element → kept element = false) :
    firsts.filter kept = seconds.filter kept := by
  have dropped : ∀ element, secret element → Option.guard kept element = none := by grind
  have same := filterMap_eq_of_secret alike dropped
  rwa [filterMap_eq_filter] at same

end Lists

end Headers
