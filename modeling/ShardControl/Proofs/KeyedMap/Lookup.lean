import ShardControl.KeyedMap.Basic

/-!
# Lookups in keyed maps

A key has at most one value, so a map is known by its lookups: storing a value
changes the lookup of its own key alone, and so does dropping an entry.
-/

namespace ShardControl.KeyedMap

variable {ν κ : Type} [Keyed ν κ] [KeyOrder κ]

/-! ## Membership -/

theorem mem_place_self (value : ν) (values : List ν) : value ∈ place value values := by
  induction values with
  | nil => exact List.mem_singleton.mpr rfl
  | cons head tail ih =>
      simp only [place]
      split
      · exact List.mem_cons_self
      · split
        · exact List.mem_cons_of_mem _ ih
        · exact List.mem_cons_self

theorem mem_place_of_mem {value other : ν} {values : List ν} (member : other ∈ values)
    (differ : key other ≠ key value) : other ∈ place value values := by
  induction values with
  | nil => cases member
  | cons head tail ih =>
      simp only [place]
      split
      · exact List.mem_cons_of_mem _ member
      · rename_i notBelow
        split
        · rcases List.mem_cons.mp member with rfl | inTail
          · exact List.mem_cons_self
          · exact List.mem_cons_of_mem _ (ih inTail)
        · rename_i notAbove
          rcases List.mem_cons.mp member with rfl | inTail
          · rcases KeyOrder.trichotomy (key value) (key other) with below | same | above
            · exact absurd below notBelow
            · exact absurd same.symm differ
            · exact absurd above notAbove
          · exact List.mem_cons_of_mem _ inTail

/-- A key has one value. -/
theorem eq_of_key_eq {map : KeyedMap ν} {first second : ν} (inFirst : first ∈ map.toList)
    (inSecond : second ∈ map.toList) (same : key first = key second) : first = second := by
  have apart := map.ordered
  change first ∈ map.entries at inFirst
  change second ∈ map.entries at inSecond
  generalize map.entries = entries at apart inFirst inSecond
  induction entries with
  | nil => cases inFirst
  | cons head tail ih =>
      obtain ⟨before, tailApart⟩ := List.pairwise_cons.mp apart
      rcases List.mem_cons.mp inFirst with rfl | firstLater
      · rcases List.mem_cons.mp inSecond with rfl | secondLater
        · rfl
        · exact absurd same (KeyOrder.ne_of_lt (before second secondLater))
      · rcases List.mem_cons.mp inSecond with rfl | secondLater
        · exact absurd same.symm (KeyOrder.ne_of_lt (before first firstLater))
        · exact ih tailApart firstLater secondLater

theorem nodup_toList (map : KeyedMap ν) : map.toList.Nodup :=
  map.ordered.imp fun below => fun same => KeyOrder.ne_of_lt below (congrArg key same)

theorem mem_insert_self (map : KeyedMap ν) (value : ν) : value ∈ (map.insert value).toList :=
  mem_place_self value map.entries

theorem mem_insert_iff {map : KeyedMap ν} {value other : ν} :
    other ∈ (map.insert value).toList ↔
      other = value ∨ other ∈ map.toList ∧ key other ≠ key value := by
  constructor
  · intro member
    by_cases same : key other = key value
    · exact .inl (eq_of_key_eq member (mem_insert_self map value) same)
    · rcases mem_place member with rfl | before
      · exact .inl rfl
      · exact .inr ⟨before, same⟩
  · rintro (rfl | ⟨member, differ⟩)
    · exact mem_insert_self map other
    · exact mem_place_of_mem member differ

/-! ## Lookups -/

variable [DecidableEq κ]

theorem mem_erase_iff {map : KeyedMap ν} {k : κ} {other : ν} :
    other ∈ (map.erase k).toList ↔ other ∈ map.toList ∧ key other ≠ k := by
  simp only [toList, erase, List.mem_filter, ne_eq, decide_not, Bool.not_eq_eq_eq_not,
    Bool.not_true, decide_eq_false_iff_not]

theorem key_of_find? {map : KeyedMap ν} {k : κ} {value : ν} (found : map.find? k = some value) :
    key value = k := by
  have searched : map.entries.find? (fun value => key value = k) = some value := found
  simpa only [decide_eq_true_eq] using List.find?_some searched

theorem find?_eq_some_iff {map : KeyedMap ν} {k : κ} {value : ν} :
    map.find? k = some value ↔ value ∈ map.toList ∧ key value = k := by
  constructor
  · intro found
    exact ⟨List.mem_of_find?_eq_some found, key_of_find? found⟩
  · rintro ⟨member, same⟩
    cases found : map.find? k with
    | none =>
        have differ := List.find?_eq_none.mp found value member
        exact absurd (decide_eq_true same) differ
    | some other =>
        exact congrArg some (eq_of_key_eq (List.mem_of_find?_eq_some found) member
          ((key_of_find? found).trans same.symm))

theorem find?_eq_none_iff {map : KeyedMap ν} {k : κ} :
    map.find? k = none ↔ ∀ value ∈ map.toList, key value ≠ k := by
  constructor
  · intro absent value member same
    rw [find?_eq_some_iff.mpr ⟨member, same⟩] at absent
    cases absent
  · intro differ
    cases found : map.find? k with
    | none => rfl
    | some value =>
        obtain ⟨member, same⟩ := find?_eq_some_iff.mp found
        exact absurd same (differ value member)

theorem find?_insert (map : KeyedMap ν) (value : ν) (k : κ) :
    (map.insert value).find? k = if key value = k then some value else map.find? k := by
  split
  · rename_i same
    exact find?_eq_some_iff.mpr ⟨mem_insert_self map value, same⟩
  · rename_i differ
    apply Option.ext
    intro other
    rw [find?_eq_some_iff, find?_eq_some_iff, mem_insert_iff]
    constructor
    · rintro ⟨rfl | ⟨member, _⟩, same⟩
      · exact absurd same differ
      · exact ⟨member, same⟩
    · rintro ⟨member, same⟩
      exact ⟨.inr ⟨member, fun sameKey => differ (sameKey.symm.trans same)⟩, same⟩

theorem find?_erase (map : KeyedMap ν) (dropped k : κ) :
    (map.erase dropped).find? k = if k = dropped then none else map.find? k := by
  split
  · rename_i same
    rw [find?_eq_none_iff]
    intro value member valueKey
    exact (mem_erase_iff.mp member).2 (valueKey.trans same)
  · rename_i differ
    apply Option.ext
    intro value
    rw [find?_eq_some_iff, find?_eq_some_iff, mem_erase_iff]
    constructor
    · rintro ⟨⟨member, _⟩, same⟩
      exact ⟨member, same⟩
    · rintro ⟨member, same⟩
      exact ⟨⟨member, fun isDropped => differ (same.symm.trans isDropped)⟩, same⟩

/-! ## Maps of lists -/

omit [DecidableEq κ] in
/-- What a list stores comes from the list or was there before. -/
theorem mem_insertAll {map : KeyedMap ν} {values : List ν} {value : ν}
    (member : value ∈ (map.insertAll values).toList) : value ∈ map.toList ∨ value ∈ values := by
  induction values generalizing map with
  | nil => exact .inl member
  | cons head tail ih =>
      have stored : value ∈ ((map.insert head).insertAll tail).toList := member
      rcases ih stored with before | later
      · rcases mem_insert_iff.mp before with rfl | ⟨old, _⟩
        · exact .inr List.mem_cons_self
        · exact .inl old
      · exact .inr (List.mem_cons_of_mem _ later)

/-- The last value of a key counts. -/
theorem find?_insertAll (map : KeyedMap ν) (values : List ν) (k : κ) :
    (map.insertAll values).find? k =
      ((values.filter fun value => key value = k).getLast?).or (map.find? k) := by
  induction values generalizing map with
  | nil => rfl
  | cons head tail ih =>
      refine (ih (map.insert head)).trans ?_
      rw [find?_insert]
      by_cases same : key head = k
      · rw [if_pos same, List.filter_cons_of_pos (by simpa using same), List.getLast?_cons]
        cases (tail.filter fun value => key value = k).getLast? <;> rfl
      · rw [if_neg same, List.filter_cons_of_neg (by simpa using same)]

theorem contains_ofList_iff {values : List ν} {k : κ} :
    (ofList values).contains k = true ↔ ∃ value ∈ values, key value = k := by
  rw [contains, ofList, find?_insertAll]
  constructor
  · intro present
    obtain ⟨value, found⟩ := Option.isSome_iff_exists.mp present
    rcases Option.or_eq_some_iff.mp found with last | ⟨_, impossible⟩
    · have member := List.mem_of_getLast? last
      exact ⟨value, (List.mem_filter.mp member).1, of_decide_eq_true (List.mem_filter.mp member).2⟩
    · cases impossible
  · rintro ⟨value, member, same⟩
    have kept : value ∈ values.filter fun value => key value = k :=
      List.mem_filter.mpr ⟨member, decide_eq_true same⟩
    cases last : (values.filter fun value => key value = k).getLast? with
    | none => rw [List.getLast?_eq_none_iff.mp last] at kept; cases kept
    | some found => rfl

end ShardControl.KeyedMap
