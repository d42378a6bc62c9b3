import ShardControl.Json.Form
import ShardControl.Proofs.KeyedMap.Equality

/-!
# Rearranged lists

A map is read from a list of entries, and of the entries with one key it is
the last that counts.  So other lists are read as the same map: the order of
the entries does not matter, nor do entries that a later one with their key
shadows.  What is read from a list or a record is the same after one of its
items or members was replaced by another that is read alike.
-/

namespace ShardControl.Json

/-! ## Lists that are read item by item -/

section

variable {α : Type} [JsonInput α]

theorem items?_eq_some_iff {items : List Json} {values : List α} :
    items? items = some values ↔ items.map ofJson? = values.map some := by
  induction items generalizing values with
  | nil => cases values <;> simp [items?]
  | cons item rest ih =>
      cases values with
      | nil =>
          simp only [items?, List.map_cons, List.map_nil, reduceCtorEq, iff_false]
          split <;> simp
      | cons value others =>
          rw [List.map_cons, List.map_cons, List.cons.injEq, ← ih, items?]
          split
          · rename_i first firsts readItem readRest
            simp [readItem, readRest]
          · rename_i missing
            simp only [reduceCtorEq, false_iff]
            rintro ⟨readItem, readRest⟩
            exact missing value others readItem readRest

/-- Lists whose items are read alike, one by one, are read alike. -/
theorem items?_congr {first second : List Json}
    (same : first.map (ofJson? : Json → Option α) = second.map ofJson?) :
    (items? first : Option (List α)) = items? second := by
  refine Option.ext fun values => ?_
  rw [items?_eq_some_iff, items?_eq_some_iff, same]

theorem exists_items? {items : List Json}
    (shaped : ∀ item ∈ items, (ofJson? item : Option α).isSome) :
    ∃ values : List α, items? items = some values := by
  induction items with
  | nil => exact ⟨[], rfl⟩
  | cons item rest ih =>
      obtain ⟨first, others⟩ := List.forall_mem_cons.mp shaped
      obtain ⟨value, read⟩ := Option.isSome_iff_exists.mp first
      obtain ⟨values, reads⟩ := ih others
      exact ⟨value :: values, by rw [items?, read, reads]⟩

end

/-! ## The last entry of a key -/

section

variable (ν : Type) {κ : Type} [Keyed ν κ] [DecidableEq κ] [JsonInput ν]

omit [DecidableEq κ] in
def keyOf? (entry : Json) : Option κ := (ofJson? entry : Option ν).map key

def last? (k : κ) (entries : List Json) : Option Json :=
  (entries.filter fun entry => keyOf? ν entry = some k).getLast?

/-- A list is another one in any order, with further well-shaped entries, so that the last entry
of each key stays. -/
structure Rearranges (listed arranged : List Json) : Prop where
  kept : ∃ added, arranged.Perm (listed ++ added) ∧
    ∀ entry ∈ added, (ofJson? entry : Option ν).isSome
  last : ∀ k : κ, last? ν k arranged = last? ν k listed

/-- A value is a list of entries, and another value is this list rearranged. -/
inductive Rearranged : Json → Json → Prop where
  | list {listed arranged : List Json} (rearranges : Rearranges ν listed arranged) :
      Rearranged (.arr listed) (.arr arranged)

/-- All entries of a list are well-shaped, and a map holds the last one of each key, under the
key that this entry carries itself. -/
structure Collects [KeyOrder κ] (entries : List Json) (map : KeyedMap ν) : Prop where
  shaped : ∀ entry ∈ entries, (ofJson? entry : Option ν).isSome
  last : ∀ k, map.find? k = (last? ν k entries).bind ofJson?

end

section

variable {ν κ : Type} [Keyed ν κ] [DecidableEq κ] [JsonInput ν]

/-- The last entry of a key is read as the last of the values with that key. -/
theorem last?_bind_ofJson? {entries : List Json} {values : List ν}
    (read : entries.map ofJson? = values.map some) (k : κ) :
    (last? ν k entries).bind ofJson? = (values.filter fun value => key value = k).getLast? := by
  let carries : Option ν → Bool := fun value => value.map key = some k
  have ofEntries : (entries.filter fun entry => keyOf? ν entry = some k) =
      entries.filter (carries ∘ ofJson?) := rfl
  have ofValues : (values.filter fun value => key value = k) = values.filter (carries ∘ some) :=
    List.filter_congr fun value _ => by simp [carries]
  have filtered : (entries.filter (carries ∘ ofJson?)).map ofJson? =
      (values.filter (carries ∘ some)).map some := by
    rw [← List.filter_map, ← List.filter_map, read]
  have lasts := congrArg List.getLast? filtered
  rw [List.getLast?_map, List.getLast?_map] at lasts
  rw [last?, ofEntries, ofValues]
  calc
    (entries.filter (carries ∘ ofJson?)).getLast?.bind ofJson?
      = ((entries.filter (carries ∘ ofJson?)).getLast?.map ofJson?).bind id := by
        rw [Option.bind_map, Function.id_comp]
    _ = ((values.filter (carries ∘ some)).getLast?.map some).bind id := by rw [lasts]
    _ = (values.filter (carries ∘ some)).getLast? := by
        rw [Option.bind_map, Function.id_comp, Option.bind_fun_some]

namespace Rearranges

variable {listed arranged : List Json}

/-- Only well-shaped entries come in. -/
theorem shaped_iff (rearranges : Rearranges ν listed arranged) :
    (∀ entry ∈ arranged, (ofJson? entry : Option ν).isSome) ↔
      ∀ entry ∈ listed, (ofJson? entry : Option ν).isSome := by
  obtain ⟨added, perm, shaped⟩ := rearranges.kept
  constructor
  · intro all entry inListed
    exact all entry (perm.mem_iff.mpr (List.mem_append_left added inListed))
  · intro all entry inArranged
    rcases List.mem_append.mp (perm.mem_iff.mp inArranged) with inListed | inAdded
    · exact all entry inListed
    · exact shaped entry inAdded

/-- Two neighbours with different keys can be swapped. -/
theorem of_swapped (before after : List Json) {first second : Json}
    (apart : ∀ k, keyOf? ν first = some k → keyOf? ν second ≠ some k) :
    Rearranges ν (before ++ first :: second :: after) (before ++ second :: first :: after) where
  kept := by
    refine ⟨[], ?_, fun _ absent => absurd absent List.not_mem_nil⟩
    rw [List.append_nil]
    exact (List.Perm.swap first second after).append_left before
  last k := by
    have kept : (second :: first :: after).filter (fun entry => keyOf? ν entry = some k) =
        (first :: second :: after).filter fun entry => keyOf? ν entry = some k := by
      by_cases carried : keyOf? ν first = some k
      · have other := apart k carried
        simp [carried, other]
      · simp [List.filter_cons, carried]
    rw [last?, last?, List.filter_append, List.filter_append, kept]

/-- An entry that a later one with its key shadows can be added anywhere before it. -/
theorem of_shadowed (before : List Json) {after : List Json} {entry : Json} {k : κ}
    (carried : keyOf? ν entry = some k) (shadow : ∃ later ∈ after, keyOf? ν later = some k) :
    Rearranges ν (before ++ after) (before ++ entry :: after) where
  kept := by
    refine ⟨[entry], ?_, fun other isEntry => ?_⟩
    · exact List.perm_middle.trans (List.perm_append_singleton entry _).symm
    · obtain ⟨value, read, _⟩ := Option.map_eq_some_iff.mp carried
      rw [List.mem_singleton.mp isEntry, read]
      rfl
  last other := by
    rw [last?, last?, List.filter_append, List.filter_append, List.getLast?_append,
      List.getLast?_append]
    by_cases same : k = other
    · subst same
      obtain ⟨later, inAfter, itsKey⟩ := shadow
      have nonempty : after.filter (fun item => keyOf? ν item = some k) ≠ [] :=
        List.ne_nil_of_mem (List.mem_filter.mpr ⟨inAfter, decide_eq_true itsKey⟩)
      rw [List.filter_cons_of_pos (by simpa using carried), List.getLast?_cons_of_ne_nil nonempty]
    · rw [List.filter_cons_of_neg (by simpa [carried] using same)]

end Rearranges

end

/-! ## Maps that are read from a list -/

section

variable {ν κ : Type} [Keyed ν κ] [KeyOrder κ] [DecidableEq κ] [JsonInput ν]

/-- Reading a list as a map collects its last entries. -/
theorem ofJson?_eq_some_iff {entries : List Json} {map : KeyedMap ν} :
    ofJson? (.arr entries) = some map ↔ Collects ν entries map := by
  have finds : ∀ {values : List ν}, items? entries = some values → ∀ k,
      (KeyedMap.ofList values).find? k = (last? ν k entries).bind ofJson? := by
    intro values read k
    rw [last?_bind_ofJson? (items?_eq_some_iff.mp read), KeyedMap.ofList, KeyedMap.find?_insertAll]
    exact Option.or_none
  constructor
  · intro decoded
    obtain ⟨values, read, rfl⟩ := Option.map_eq_some_iff.mp decoded
    refine ⟨fun entry listed => ?_, finds read⟩
    have inValues : (ofJson? entry : Option ν) ∈ values.map some :=
      items?_eq_some_iff.mp read ▸ List.mem_map_of_mem listed
    obtain ⟨value, _, isValue⟩ := List.mem_map.mp inValues
    exact isValue ▸ rfl
  · intro collects
    obtain ⟨values, read⟩ := exists_items? collects.shaped
    refine Option.map_eq_some_iff.mpr ⟨values, read, KeyedMap.ext_find? fun k => ?_⟩
    rw [finds read, collects.last]

theorem Rearranges.collects_iff {listed arranged : List Json}
    (rearranges : Rearranges ν listed arranged) {map : KeyedMap ν} :
    Collects ν arranged map ↔ Collects ν listed map := by
  constructor
  · rintro ⟨shaped, last⟩
    exact ⟨rearranges.shaped_iff.mp shaped, fun k => by rw [last, rearranges.last]⟩
  · rintro ⟨shaped, last⟩
    exact ⟨rearranges.shaped_iff.mpr shaped, fun k => by rw [last, rearranges.last]⟩

end

/-! ## Values that are read alike -/

/-- Both values are read as the same, or neither is read at all. -/
def Alike (α : Type) [JsonInput α] (first second : Json) : Prop :=
  (ofJson? first : Option α) = ofJson? second

theorem Alike.required {α : Type} [JsonInput α] {old new : Json} (alike : Alike α old new) :
    (Json.required (some old) : Option α) = Json.required (some new) :=
  alike

theorem Alike.defaulted {α : Type} [JsonInput α] {old new : Json} (alike : Alike α old new)
    (default : α) : Json.defaulted default (some old) = Json.defaulted default (some new) :=
  alike

/-- One item of a list is replaced by a related one. -/
inductive AtItem (related : Json → Json → Prop) : Json → Json → Prop where
  | item (before after : List Json) {old new : Json} (replaced : related old new) :
      AtItem related (.arr (before ++ old :: after)) (.arr (before ++ new :: after))

section

variable {ν κ : Type} [Keyed ν κ] [KeyOrder κ] [JsonInput ν] {first second : Json}

theorem Rearranged.alike [DecidableEq κ] (rearranged : Rearranged ν first second) :
    Alike (KeyedMap ν) first second := by
  obtain ⟨rearranges⟩ := rearranged
  refine Option.ext fun map => ?_
  rw [ofJson?_eq_some_iff, ofJson?_eq_some_iff, rearranges.collects_iff]

theorem AtItem.alike {related : Json → Json → Prop} (changed : AtItem related first second)
    (alike : ∀ old new, related old new → Alike ν old new) :
    Alike (KeyedMap ν) first second := by
  obtain ⟨before, after, replaced⟩ := changed
  refine congrArg (Option.map KeyedMap.ofList) (items?_congr ?_)
  rw [List.map_append, List.map_append, List.map_cons, List.map_cons, alike _ _ replaced]

end

/-! ## Members of records -/

/-- The value listed for a member: under its name in an object, or at its place in a list of
members. -/
def memberAt (name : String) (index : Nat) : Json → Option Json
  | .obj listed => lookup name listed
  | .arr items => items[index]?
  | _ => none

def entries : Option Json → List Json
  | some (.arr items) => items
  | _ => []

section

variable {ν κ : Type} [Keyed ν κ] [KeyOrder κ] [DecidableEq κ] [JsonInput ν]

/-- A map that a record has to list collects the entries listed for it. -/
theorem collects_of_required {value : Option Json} {map : KeyedMap ν}
    (read : required value = some map) : Collects ν (entries value) map := by
  cases value with
  | none => cases read
  | some value =>
      cases value with
      | arr items => exact ofJson?_eq_some_iff.mp read
      | _ => cases read

/-- A map that a record may leave out collects the entries listed for it, if there are any. -/
theorem collects_of_defaulted {value : Option Json} {map : KeyedMap ν}
    (read : defaulted ∅ value = some map) : Collects ν (entries value) map := by
  cases value with
  | none =>
      cases read
      exact ⟨fun _ absent => absurd absent List.not_mem_nil, fun _ => rfl⟩
  | some value => exact collects_of_required read

end

/-- The entries of a list carry their ids in strictly increasing order. -/
def Ascends (κ : Type) [KeyOrder κ] [JsonInput κ] (entries : List Json) : Prop :=
  ∃ ids : List κ, entries.map (fun entry => read? entry "id") = ids.map some ∧
    ids.Pairwise fun first second => first < second

/-- A map is written in the order of its keys. -/
theorem ascends_toList {ν κ : Type} [Keyed ν κ] [KeyOrder κ] [JsonInput κ] [JsonOutput ν]
    (named : ∀ value : ν, read? (toJson value) "id" = some (key value)) (map : KeyedMap ν) :
    Ascends κ (map.toList.map toJson) := by
  refine ⟨map.keys, ?_, List.pairwise_map.mpr map.ordered⟩
  rw [KeyedMap.keys, List.map_map, List.map_map]
  exact List.map_congr_left fun value _ => named value

/-! ## Replaced members -/

/-- One member of a record is replaced by a related one: the value listed under its name in an
object, or the one at its place in a list of members. -/
inductive AtMember (name : String) (index : Nat) (related : Json → Json → Prop) :
    Json → Json → Prop where
  | named (before after : List (JsonText × Json)) {old new : Json} (replaced : related old new) :
      AtMember name index related (.obj (before ++ (some name, old) :: after))
        (.obj (before ++ (some name, new) :: after))
  | placed (before after : List Json) {old new : Json} (place : before.length = index)
      (replaced : related old new) :
      AtMember name index related (.arr (before ++ old :: after)) (.arr (before ++ new :: after))

section

variable {known : List Member} {name : String} {index : Nat}

variable (name index) in
/-- A member that has no default is read where it is listed. -/
theorem getElem?_members? {value : Json} {values : List (Option Json)}
    (place : known[index]? = some (member name)) (read : members? known value = some values) :
    values[index]? = some (memberAt name index value) := by
  cases value with
  | obj listed =>
      simp only [members?, Option.ite_none_right_eq_some, Option.some.injEq] at read
      obtain ⟨_, rfl⟩ := read
      rw [List.getElem?_map, place]
      simp [memberAt, member]
  | arr items =>
      simp only [members?, Option.ite_none_right_eq_some, Option.some.injEq] at read
      obtain ⟨enough, rfl⟩ := read
      have inKnown := (List.getElem?_eq_some_iff.mp place).1
      rw [List.getElem?_append, List.length_map]
      split
      · rename_i inItems
        rw [List.getElem?_map, memberAt, List.getElem?_eq_getElem inItems]
        rfl
      · rename_i beyond
        rw [memberAt, List.getElem?_eq_none (Nat.le_of_not_lt beyond), List.getElem?_replicate]
        exact if_pos (by omega)
  | _ => cases read

variable {before after : List (JsonText × Json)}

theorem occurrences_replace (other : String) (old new : Json) :
    occurrences other (before ++ (some name, old) :: after) =
      occurrences other (before ++ (some name, new) :: after) := by
  simp [occurrences, List.countP_cons]

theorem lookup_insert_of_ne {other : String} (differ : other ≠ name) (value : Json) :
    lookup other (before ++ (some name, value) :: after) = lookup other (before ++ after) := by
  simp [lookup, differ.symm]

/-- A member that is listed once is found where it is listed. -/
theorem lookup_insert {value : Json}
    (once : occurrences name (before ++ (some name, value) :: after) ≤ 1) :
    lookup name (before ++ (some name, value) :: after) = some value := by
  have fresh : ∀ entry ∈ before, entry.1 ≠ some name := by
    have counted : occurrences name before = 0 := by
      simp only [occurrences, List.countP_append, List.countP_cons] at once
      simp only [decide_true, ite_true] at once
      rw [occurrences]
      omega
    simpa [occurrences, List.countP_eq_zero] using counted
  have missed : before.find? (fun entry => entry.1 = some name) = none :=
    List.find?_eq_none.mpr fun entry listed => by simpa using fresh entry listed
  simp [lookup, missed]

/-- In the known members of an object, a member that is listed once stands at its place. -/
theorem map_lookup_insert {value : Json} (place : known[index]? = some (member name))
    (distinct : (known.map Member.name).Nodup)
    (once : occurrences name (before ++ (some name, value) :: after) ≤ 1) :
    (known.map fun m => (lookup m.name (before ++ (some name, value) :: after)).or m.absent) =
      (known.map fun m => (lookup m.name (before ++ after)).or m.absent).set index
        (some value) := by
  refine List.ext_getElem? fun i => ?_
  rw [List.getElem?_set, List.getElem?_map, List.getElem?_map, List.length_map]
  split
  · rename_i here
    subst here
    rw [place, if_pos (List.getElem?_eq_some_iff.mp place).1, Option.map_some]
    simp [member, lookup_insert once]
  · rename_i elsewhere
    cases found : known[i]? with
    | none => rfl
    | some m =>
        have apart : m.name ≠ name := by
          intro same
          refine elsewhere ((List.getElem?_inj ?_ distinct).mp ?_)
          · rw [List.length_map]
            exact (List.getElem?_eq_some_iff.mp place).1
          · rw [List.getElem?_map, List.getElem?_map, place, found, Option.map_some,
              Option.map_some, same]
            rfl
        rw [Option.map_some, Option.map_some, lookup_insert_of_ne apart]

end

namespace AtMember

variable {name : String} {index : Nat} {related : Json → Json → Prop} {first second : Json}

theorem imp {other : Json → Json → Prop} (changed : AtMember name index related first second)
    (weaker : ∀ old new, related old new → other old new) :
    AtMember name index other first second := by
  cases changed with
  | named before after replaced => exact .named before after (weaker _ _ replaced)
  | placed before after place replaced => exact .placed before after place (weaker _ _ replaced)

/-- Where the replaced member is not a known one, the known members stay. -/
theorem members?_eq {known : List Member} (unknown : name ∉ known.map Member.name)
    (beyond : known.length ≤ index) (changed : AtMember name index related first second) :
    members? known first = members? known second := by
  cases changed with
  | named before after replaced =>
      rename_i old new
      have apart : ∀ m ∈ known, m.name ≠ name := fun m isKnown same =>
        unknown (same ▸ List.mem_map_of_mem isKnown)
      have values : (known.map fun m =>
          (lookup m.name (before ++ (some name, old) :: after)).or m.absent) =
          known.map fun m => (lookup m.name (before ++ (some name, new) :: after)).or m.absent :=
        List.map_congr_left fun m isKnown => by
          rw [lookup_insert_of_ne (apart m isKnown), lookup_insert_of_ne (apart m isKnown)]
      simp only [members?, values, occurrences_replace _ old new, List.all_append, List.all_cons]
  | placed before after place replaced =>
      have long (value : Json) : ¬ (before ++ value :: after).length ≤ known.length := by
        rw [List.length_append, List.length_cons]
        omega
      rw [members?, members?, if_neg (long _), if_neg (long _)]

/-- The known members of both records are the same but for the replaced one, if they can be read
at all. -/
theorem members?_cases (known : List Member) (place : known[index]? = some (member name))
    (distinct : (known.map Member.name).Nodup)
    (changed : AtMember name index related first second) :
    members? known first = none ∧ members? known second = none ∨
      ∃ (values : List (Option Json)) (old new : Json), related old new ∧
        members? known first = some (values.set index (some old)) ∧
        members? known second = some (values.set index (some new)) := by
  cases changed with
  | named before after replaced =>
      rename_i old new
      have guards (value : Json) : members? known (.obj (before ++ (some name, value) :: after)) =
          if (before ++ (some name, old) :: after).all (fun entry => entry.1.isSome) &&
              known.all (fun m =>
                decide (occurrences m.name (before ++ (some name, old) :: after) ≤ 1)) then
            some (known.map fun m =>
              (lookup m.name (before ++ (some name, value) :: after)).or m.absent)
          else none := by
        simp only [members?, occurrences_replace _ value old, List.all_append, List.all_cons]
      rw [guards, guards]
      split
      · rename_i readable
        have isKnown : member name ∈ known := List.mem_of_getElem? place
        have once := of_decide_eq_true
          (List.all_eq_true.mp (Bool.and_eq_true_iff.mp readable).2 _ isKnown)
        refine .inr ⟨known.map fun m => (lookup m.name (before ++ after)).or m.absent, old, new,
          replaced, ?_, ?_⟩
        · exact congrArg some (map_lookup_insert place distinct once)
        · rw [occurrences_replace _ old new] at once
          exact congrArg some (map_lookup_insert place distinct once)
      · exact .inl ⟨rfl, rfl⟩
  | placed before after here replaced =>
      rename_i old new
      subst here
      by_cases fits : before.length + (after.length + 1) ≤ known.length
      · refine .inr ⟨(before ++ old :: after).map some ++
          List.replicate (known.length - (before.length + (after.length + 1))) none,
          old, new, replaced, ?_, ?_⟩
        · simp [members?, fits]
        · simp [members?, fits]
      · exact .inl ⟨by simp [members?, fits], by simp [members?, fits]⟩

end AtMember

end ShardControl.Json
