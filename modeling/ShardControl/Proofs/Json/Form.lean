import ShardControl.Json.Form
import ShardControl.Proofs.KeyedMap.Equality

/-!
# Lawful forms

A form is lawful if whatever it writes is read back as the same value.
Scalars, lists and maps have lawful forms, and a record is read back member
by member.
-/

namespace ShardControl

class LawfulForm (α : Type) [JsonOutput α] [JsonInput α] : Prop where
  ofJson?_toJson (value : α) : ofJson? (toJson value) = some value

export LawfulForm (ofJson?_toJson)

/-- What is read back as it was written is told apart by what is written. -/
theorem toJson_injective {α : Type} [JsonOutput α] [JsonInput α] [LawfulForm α] :
    Function.Injective (toJson : α → Json) := by
  intro first second same
  have read := ofJson?_toJson first
  rw [same, ofJson?_toJson] at read
  exact (Option.some.inj read).symm

namespace Json

/-! ## Scalars -/

theorem nat?_nat (value : Nat) : nat? (.nat value) = some value := by
  rw [nat, nat?, Option.bind_some]
  rfl

instance : LawfulForm Bool := ⟨fun _ => rfl⟩

instance : LawfulForm String := ⟨fun _ => rfl⟩

instance : LawfulForm UInt64 where
  ofJson?_toJson value := by
    change (nat? (.nat value.toNat)).bind Word.ofNat64? = _
    rw [nat?_nat, Option.bind_some, Word.ofNat64?_toNat]

instance : LawfulForm UInt32 where
  ofJson?_toJson value := by
    change (nat? (.nat value.toNat)).bind Word.ofNat32? = _
    rw [nat?_nat, Option.bind_some, Word.ofNat32?_toNat]

instance : LawfulForm UInt16 where
  ofJson?_toJson value := by
    change (nat? (.nat value.toNat)).bind Word.ofNat16? = _
    rw [nat?_nat, Option.bind_some, Word.ofNat16?_toNat]

/-! ## Collections -/

section

variable {α : Type} [JsonOutput α] [JsonInput α] [LawfulForm α]

/-- An optional value is read back if no value is written as null. -/
theorem ofJson?_option (apart : ∀ value : α, toJson value ≠ .null) (value : Option α) :
    (ofJson? (toJson value) : Option (Option α)) = some value := by
  cases value with
  | none => rfl
  | some value =>
      have read := ofJson?_toJson value
      have written := apart value
      change (ofJson? (toJson value) : Option (Option α)) = _
      cases form : toJson value with
      | null => exact absurd form written
      | _ =>
          rw [form] at read
          exact congrArg (Option.map some) read

theorem items?_map (values : List α) : items? (values.map toJson) = some values := by
  induction values with
  | nil => rfl
  | cons value rest ih => rw [List.map_cons, items?, ofJson?_toJson, ih]

instance : LawfulForm (List α) := ⟨items?_map⟩

theorem required_toJson (value : α) : required (some (toJson value)) = some value :=
  ofJson?_toJson value

theorem defaulted_toJson (default value : α) :
    defaulted default (some (toJson value)) = some value :=
  ofJson?_toJson value

end

instance {ν κ : Type} [Keyed ν κ] [KeyOrder κ] [JsonOutput ν] [JsonInput ν] [LawfulForm ν] :
    LawfulForm (KeyedMap ν) where
  ofJson?_toJson map := by
    change (items? (map.toList.map toJson)).map KeyedMap.ofList = _
    rw [items?_map, Option.map_some, KeyedMap.ofList_toList]

/-! ## Records -/

/-- In a record whose names are distinct, every member is found under its name. -/
theorem lookup_of_mem {listed : List (String × Json)} (distinct : (listed.map Prod.fst).Nodup)
    {entry : String × Json} (member : entry ∈ listed) :
    lookup entry.1 (listed.map fun member => (some member.1, member.2)) = some entry.2 := by
  induction listed with
  | nil => cases member
  | cons first rest ih =>
      obtain ⟨fresh, distinct⟩ := List.nodup_cons.mp distinct
      rcases List.mem_cons.mp member with rfl | later
      · simp [lookup]
      · have differ : first.1 ≠ entry.1 := by
          intro same
          exact fresh (same ▸ List.mem_map_of_mem later)
        have found := ih distinct later
        simpa [lookup, differ] using found

theorem occurrences_le_one {listed : List (String × Json)}
    (distinct : (listed.map Prod.fst).Nodup) (name : String) :
    occurrences name (listed.map fun member => (some member.1, member.2)) ≤ 1 := by
  have once := List.nodup_iff_count.mp distinct name
  rw [List.count, List.countP_map] at once
  rw [occurrences, List.countP_map]
  refine Nat.le_trans (Nat.le_of_eq ?_) once
  refine List.countP_congr fun member _ => ?_
  simp

/-- A record is read back member by member. -/
theorem members?_record {known : List Member} {listed : List (String × Json)}
    (names : known.map Member.name = listed.map Prod.fst)
    (distinct : (known.map Member.name).Nodup) :
    members? known (.record listed) = some (listed.map fun member => some member.2) := by
  rw [names] at distinct
  let written : List (JsonText × Json) := listed.map fun member => (some member.1, member.2)
  have readable : written.all (fun entry => entry.1.isSome) = true := by
    simp [written]
  have once : known.all (fun member => decide (occurrences member.name written ≤ 1)) = true :=
    List.all_eq_true.mpr fun member _ => decide_eq_true (occurrences_le_one distinct member.name)
  have present : ∀ member ∈ known,
      (lookup member.name written).or member.absent = lookup member.name written := by
    intro member inKnown
    have named : member.name ∈ listed.map Prod.fst := names ▸ List.mem_map_of_mem inKnown
    obtain ⟨entry, inListed, same⟩ := List.mem_map.mp named
    rw [← same, lookup_of_mem distinct inListed]
    rfl
  change (if (written.all _ && known.all _) = true then some (known.map _) else none) = _
  rw [readable, once, List.map_congr_left present]
  refine congrArg some ?_
  calc
    known.map (fun member => lookup member.name written)
      = (known.map Member.name).map fun name => lookup name written := by rw [List.map_map]; rfl
    _ = listed.map fun member => lookup member.1 written := by rw [names, List.map_map]; rfl
    _ = listed.map fun member => some member.2 :=
        List.map_congr_left fun member inListed => lookup_of_mem distinct inListed

end Json

end ShardControl
