import ShardControl.Json.Basic
import ShardControl.KeyedMap.Basic
import ShardControl.Word

/-!
# Domain values as structured text

A type has a form when its values can be written and read.  A record is
written as an object of its members in order.  It is read from an object with
its members in any order and others beside them, no known one twice, or from
the list of its members in order, where members with a default may be missing
at the end.
-/

namespace ShardControl

class JsonOutput (α : Type) where
  toJson : α → Json

class JsonInput (α : Type) where
  ofJson? : Json → Option α

class JsonForm (α : Type) extends JsonOutput α, JsonInput α

export JsonOutput (toJson)
export JsonInput (ofJson?)

namespace Json

/-! ## Records -/

/-- A member of a record, and the value it has in an object that does not list it. -/
structure Member where
  name : String
  absent : Option Json

def member (name : String) : Member := ⟨name, none⟩

def nullable (name : String) : Member := ⟨name, some .null⟩

def occurrences (name : String) (members : List (JsonText × Json)) : Nat :=
  members.countP fun entry => entry.1 = some name

def lookup (name : String) (members : List (JsonText × Json)) : Option Json :=
  (members.find? fun entry => entry.1 = some name).map Prod.snd

/-- The values of the known members of a record, in their order. -/
def members? (known : List Member) : Json → Option (List (Option Json))
  | .arr items =>
      if items.length ≤ known.length then
        some (items.map some ++ List.replicate (known.length - items.length) none)
      else none
  | .obj listed =>
      if (listed.all fun entry => entry.1.isSome) &&
          (known.all fun m => decide (occurrences m.name listed ≤ 1)) then
        some (known.map fun m => (lookup m.name listed).or m.absent)
      else none
  | _ => none

def required {α : Type} [JsonInput α] (value : Option Json) : Option α := value.bind ofJson?

def defaulted {α : Type} [JsonInput α] (default : α) : Option Json → Option α
  | none => some default
  | some value => ofJson? value

/-- The value of a member; where none is listed, it is null. -/
def field (value : Json) (name : String) : Json :=
  match value with
  | .obj listed => (lookup name listed).getD .null
  | _ => .null

def read? {α : Type} [JsonInput α] (value : Json) (name : String) : Option α :=
  ofJson? (value.field name)

theorem sizeOf_lookup_lt {name : String} {listed : List (JsonText × Json)} {value : Json}
    (found : lookup name listed = some value) : sizeOf value < sizeOf (obj listed) := by
  obtain ⟨entry, inside, rfl⟩ := Option.map_eq_some_iff.1 found
  have smaller := List.sizeOf_lt_of_mem (List.mem_of_find?_eq_some inside)
  obtain ⟨key, value⟩ := entry
  simp only [Prod.mk.sizeOf_spec, obj.sizeOf_spec] at smaller ⊢
  omega

/-- A member is smaller than the object that lists it. -/
theorem sizeOf_field_lt (listed : List (JsonText × Json)) (name : String) :
    sizeOf (field (obj listed) name) < sizeOf (obj listed) := by
  cases found : lookup name listed with
  | none =>
      simp only [field, found, Option.getD_none, null.sizeOf_spec, obj.sizeOf_spec]
      cases listed <;> simp only [List.nil.sizeOf_spec, List.cons.sizeOf_spec] <;> omega
  | some value => simpa [field, found] using sizeOf_lookup_lt found

/-! ## Choices -/

/-- The name of a choice, written alone or as the only member of an object, with null. -/
def choice? : Json → Option String
  | .str content => content
  | .obj [(name, .null)] => name
  | _ => none

/-! ## Scalars and collections -/

instance : JsonForm Bool where
  toJson := .bool
  ofJson?
    | .bool value => some value
    | _ => none

instance : JsonForm String where
  toJson := .text
  ofJson?
    | .str content => content
    | _ => none

def nat? : Json → Option Nat
  | .num value => value.bind Int.toNat?
  | _ => none

instance : JsonForm Nat where
  toJson := .nat
  ofJson? := nat?

instance : JsonForm UInt64 where
  toJson value := .nat value.toNat
  ofJson? value := (nat? value).bind Word.ofNat64?

instance : JsonForm UInt32 where
  toJson value := .nat value.toNat
  ofJson? value := (nat? value).bind Word.ofNat32?

instance : JsonForm UInt16 where
  toJson value := .nat value.toNat
  ofJson? value := (nat? value).bind Word.ofNat16?

/-- An absent value is written as null. -/
instance {α : Type} [JsonOutput α] : JsonOutput (Option α) where
  toJson
    | some value => toJson value
    | none => .null

instance {α : Type} [JsonInput α] : JsonInput (Option α) where
  ofJson?
    | .null => some none
    | value => (ofJson? value).map some

/-- Read a member, with a default in the place of null. -/
def readOr {α : Type} [JsonInput α] (value : Json) (name : String) (default : α) : Option α :=
  (read? value name : Option (Option α)).map fun found => found.getD default

def items? {α : Type} [JsonInput α] : List Json → Option (List α)
  | [] => some []
  | item :: rest =>
      match ofJson? item, items? rest with
      | some value, some values => some (value :: values)
      | _, _ => none

instance {α : Type} [JsonOutput α] : JsonOutput (List α) where
  toJson items := .arr (items.map toJson)

instance {α : Type} [JsonInput α] : JsonInput (List α) where
  ofJson?
    | .arr items => items? items
    | _ => none

variable {ν κ : Type} [Keyed ν κ] [KeyOrder κ]

instance [JsonOutput ν] : JsonOutput (KeyedMap ν) where
  toJson map := .arr (map.toList.map toJson)

/-- A map is read from a list of values so that the last one of a key counts. -/
instance [JsonInput ν] : JsonInput (KeyedMap ν) where
  ofJson?
    | .arr items => (items? items).map KeyedMap.ofList
    | _ => none

end Json

end ShardControl
