/-
Module: MarketX.Caching.OrderedMap
Purpose: Finite maps that list their entries in the order in which the keys
  came in, a key that is set again keeping its place.
Trusted boundary: none
Main exports: OrderedMap, OrderedMap.get, OrderedMap.set, OrderedMap.delete
-/
import Mathlib.Data.List.Nodup

namespace Caching

/-- The entries, one for each key. -/
structure OrderedMap (κ υ : Type) where
  entries : List (κ × υ)
  nodup : (entries.map Prod.fst).Nodup

namespace OrderedMap

variable {κ υ : Type}

def empty : OrderedMap κ υ := ⟨[], List.nodup_nil⟩

def size (map : OrderedMap κ υ) : ℕ := map.entries.length

variable [DecidableEq κ]

/-- The entries with a new value in the place of a key, or at the end. -/
def place (key : κ) (value : υ) : List (κ × υ) → List (κ × υ)
  | [] => [(key, value)]
  | entry :: entries =>
    if entry.1 = key then (key, value) :: entries
    else entry :: place key value entries

theorem keys_place (key : κ) (value : υ) (entries : List (κ × υ)) :
    (place key value entries).map Prod.fst = if key ∈ entries.map Prod.fst then entries.map Prod.fst
      else entries.map Prod.fst ++ [key] := by
  induction entries with
  | nil => rfl
  | cons entry entries ih => grind [place]

def get (map : OrderedMap κ υ) (key : κ) : Option υ :=
  (map.entries.find? fun entry => entry.1 = key).map Prod.snd

def set (map : OrderedMap κ υ) (key : κ) (value : υ) : OrderedMap κ υ where
  entries := place key value map.entries
  nodup := by
    rw [keys_place]
    split
    next => exact map.nodup
    next absent =>
      rw [← List.concat_eq_append]
      exact map.nodup.concat absent

def delete (map : OrderedMap κ υ) (key : κ) : OrderedMap κ υ where
  entries := map.entries.filter fun entry => entry.1 ≠ key
  nodup := map.nodup.sublist (List.filter_sublist.map Prod.fst)

variable {map : OrderedMap κ υ} {key other : κ} {value : υ}

@[simp] theorem get_set_self : (map.set key value).get key = some value := by
  show ((place key value map.entries).find? _).map _ = _
  induction map.entries with
  | nil => simp [place]
  | cons entry entries ih => grind [place]

theorem get_set_of_ne (distinct : other ≠ key) :
    (map.set key value).get other = map.get other := by
  show ((place key value map.entries).find? _).map _ = (map.entries.find? _).map _
  induction map.entries with
  | nil => simp [place, distinct.symm]
  | cons entry entries ih => grind [place]

/-- The entries are the ones that were there and the new one. -/
theorem mem_entries_set {entry : κ × υ} (member : entry ∈ (map.set key value).entries) :
    entry = (key, value) ∨ entry ∈ map.entries := by
  replace member : entry ∈ place key value map.entries := member
  revert member
  induction map.entries with
  | nil => simp [place]
  | cons first entries ih => grind [place]

theorem entries_set_ne_nil : (map.set key value).entries ≠ [] := by grind [get_set_self, get]

theorem entries_set_new (new : key ∉ map.entries.map Prod.fst) :
    (map.set key value).entries = map.entries ++ [(key, value)] := by
  show place key value map.entries = _
  revert new
  induction map.entries <;> simp_all [place, Ne.symm]

theorem get_of_mem (member : (key, value) ∈ map.entries) :
    map.get key = some value := by
  unfold get
  have nodup := map.nodup
  revert member nodup
  induction map.entries <;> grind

theorem mem_of_get (found : map.get key = some value) :
    (key, value) ∈ map.entries := by
  obtain ⟨entry, is, same⟩ := Option.map_eq_some_iff.mp found
  grind

theorem get_eq_none (absent : key ∉ map.entries.map Prod.fst) :
    map.get key = none := by
  rw [get, Option.map_eq_none_iff, List.find?_eq_none]
  grind

@[simp] theorem get_delete_self : (map.delete key).get key = none := by simp [get, delete]

theorem get_delete_of_ne (distinct : other ≠ key) :
    (map.delete key).get other = map.get other := by grind [get, delete]

theorem get_of_get_delete (found : (map.delete key).get other = some value) :
    map.get other = some value := by grind [get_delete_self, get_delete_of_ne]

end OrderedMap

end Caching
