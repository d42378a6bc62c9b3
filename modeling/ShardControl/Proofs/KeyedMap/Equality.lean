import Mathlib.Data.List.Sort
import ShardControl.Proofs.KeyedMap.Lookup

/-!
# Equality of keyed maps

Maps with the same values, or with the same lookups, are the same map.  So a
map is the map of its own list, and dropping an entry that was just added
gives the map from before.  An entry has its place by its key alone, and the
entry of a last key comes last.
-/

namespace ShardControl.KeyedMap

variable {ν κ : Type} [Keyed ν κ] [KeyOrder κ]

theorem ext_mem {first second : KeyedMap ν}
    (same : ∀ value, value ∈ first.toList ↔ value ∈ second.toList) : first = second := by
  let below : ν → ν → Prop := fun a b => key a < key b
  have : Std.Irrefl below := ⟨fun a => KeyOrder.irrefl (key a)⟩
  have : Std.Antisymm below := ⟨fun _ _ less greater => absurd greater (KeyOrder.asymm less)⟩
  have inOrder (map : KeyedMap ν) : map.entries.Pairwise below := map.ordered
  have entries : first.entries = second.entries :=
    (inOrder first).eq_of_mem_iff (inOrder second) same
  cases first
  cases second
  cases entries
  rfl

theorem ext_find? [DecidableEq κ] {first second : KeyedMap ν}
    (same : ∀ k, first.find? k = second.find? k) : first = second := by
  have listed (map : KeyedMap ν) (value : ν) :
      value ∈ map.toList ↔ map.find? (key value) = some value :=
    ⟨fun member => find?_eq_some_iff.mpr ⟨member, rfl⟩, fun found =>
      (find?_eq_some_iff.mp found).1⟩
  exact ext_mem fun value => by rw [listed, listed, same]

/-- A map is the map of its list. -/
theorem ofList_toList (map : KeyedMap ν) : ofList map.toList = map := by
  classical
  refine ext_mem fun value => ?_
  have comes : ∀ {other : ν}, other ∈ (ofList map.toList).toList → other ∈ map.toList := by
    intro other member
    rcases mem_insertAll member with impossible | listed
    · cases impossible
    · exact listed
  refine ⟨comes, fun member => ?_⟩
  have present : (ofList map.toList).contains (key value) = true :=
    contains_ofList_iff.mpr ⟨value, member, rfl⟩
  obtain ⟨other, found⟩ := Option.isSome_iff_exists.mp present
  obtain ⟨stored, same⟩ := find?_eq_some_iff.mp found
  exact eq_of_key_eq (comes stored) member same ▸ stored

section

variable [DecidableEq κ]

theorem insert_insert (map : KeyedMap ν) {first second : ν} (same : key first = key second) :
    (map.insert first).insert second = map.insert second := by
  refine ext_find? fun k => ?_
  rw [find?_insert, find?_insert, find?_insert, same]
  split <;> rfl

theorem insert_comm (map : KeyedMap ν) {first second : ν} (differ : key first ≠ key second) :
    (map.insert first).insert second = (map.insert second).insert first := by
  refine ext_find? fun k => ?_
  rw [find?_insert, find?_insert, find?_insert, find?_insert]
  by_cases isFirst : key first = k
  · have other : key second ≠ k := fun isSecond => differ (isFirst.trans isSecond.symm)
    rw [if_neg other, if_pos isFirst, if_pos isFirst]
  · rw [if_neg isFirst, if_neg isFirst]

/-- Storing a value that is there changes nothing. -/
theorem insert_of_mem {map : KeyedMap ν} {value : ν} (member : value ∈ map.toList) :
    map.insert value = map := by
  refine ext_find? fun k => ?_
  rw [find?_insert]
  split
  · rename_i same
    exact (find?_eq_some_iff.mpr ⟨member, same⟩).symm
  · rfl

/-- Dropping an entry that was just added leaves what was there. -/
theorem erase_insert {map : KeyedMap ν} {value : ν} (fresh : map.find? (key value) = none) :
    (map.insert value).erase (key value) = map := by
  refine ext_find? fun k => ?_
  rw [find?_erase, find?_insert]
  split
  · rename_i same
    rw [same, fresh]
  · rename_i differ
    exact if_neg fun same => differ same.symm

end

/-! ## Places -/

theorem place_of_above {value : ν} {values : List ν}
    (above : ∀ other ∈ values, key other < key value) : place value values = values ++ [value] := by
  induction values with
  | nil => rfl
  | cons head tail ih =>
      obtain ⟨first, rest⟩ := List.forall_mem_cons.mp above
      rw [place, if_neg (KeyOrder.asymm first), if_pos first, ih rest]
      rfl

/-- An entry above all others comes last. -/
theorem toList_insert_of_above {map : KeyedMap ν} {value : ν}
    (above : ∀ other ∈ map.toList, key other < key value) :
    (map.insert value).toList = map.toList ++ [value] :=
  place_of_above above

theorem exists_place (k : κ) (values : List ν) :
    ∃ before after, ∀ value : ν, key value = k → place value values = before ++ value :: after := by
  induction values with
  | nil => exact ⟨[], [], fun _ _ => rfl⟩
  | cons head tail ih =>
      obtain ⟨before, after, placed⟩ := ih
      rcases KeyOrder.trichotomy k (key head) with below | same | above
      · exact ⟨[], head :: tail, fun value isKey => by rw [place, isKey, if_pos below]; rfl⟩
      · refine ⟨[], tail, fun value isKey => ?_⟩
        have irrefl := KeyOrder.irrefl k
        rw [place, isKey, ← same, if_neg irrefl, if_neg irrefl]
        rfl
      · refine ⟨head :: before, after, fun value isKey => ?_⟩
        rw [place, isKey, if_neg (KeyOrder.asymm above), if_pos above, placed value isKey]
        rfl

/-- Whatever entry is stored under a key, the others stand around it in the same way. -/
theorem exists_toList_insert (map : KeyedMap ν) (k : κ) :
    ∃ before after, ∀ value : ν, key value = k →
      (map.insert value).toList = before ++ value :: after :=
  exists_place k map.entries

end ShardControl.KeyedMap
