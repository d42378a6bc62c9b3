import ShardControl.Yaml.Lexer

/-!
# Reading configuration markup

The value that tokens stand for.  A value may be left out wherever a sign
announces one, and an anchor or a tag may stand in front of it.  A text holds
at most one document.
-/

namespace ShardControl.Yaml

structure Anchored where
  /-- How many anchors stand in front of its own. -/
  order : Nat
  /-- What the mentions of it are known by. -/
  number : Nat
  value : Yaml

/-- The tokens that are left, and what the tags and anchors before them mean. -/
structure Reading where
  rest : List Token
  /-- What the handles of tags stand for. -/
  handles : List (String × Tag)
  /-- The names of anchors, each once, with the numbers of the values that they name. -/
  names : List (String × Nat)
  /-- How many anchors there have been. -/
  anchors : Nat
  anchored : List Anchored

namespace Reading

def drop (reading : Reading) (count : Nat) : Reading :=
  { reading with rest := reading.rest.drop count }

def sees (reading : Reading) (tokens : List Token) : Bool :=
  reading.rest.head?.any fun token => tokens.contains token

/-! ## Anchors and tags -/

structure Properties where
  anchor : Option String
  tag : Option (String × Tag)

def properties (reading : Reading) : Properties × Reading :=
  match reading.rest with
  | .anchor name :: .tag handle suffix :: _ => (⟨some name, some (handle, suffix)⟩, reading.drop 2)
  | .tag handle suffix :: .anchor name :: _ => (⟨some name, some (handle, suffix)⟩, reading.drop 2)
  | .anchor name :: _ => (⟨some name, none⟩, reading.drop 1)
  | .tag handle suffix :: _ => (⟨none, some (handle, suffix)⟩, reading.drop 1)
  | _ => (⟨none, none⟩, reading)

/-- The tag that a handle and a suffix stand for; one without a handle stands for itself. -/
def tagOf? (reading : Reading) : Option (String × Tag) → Option (Option Tag)
  | none => some none
  | some (handle, suffix) =>
      if handle = "" then some (some suffix)
      else (reading.handles.lookup handle).map fun head => some (head ++ suffix)

/--
Number the value that an anchor stands before with the count of the names so
far.  A name that comes again counts once, so two values may share a number.
-/
def name (reading : Reading) : Option String → Reading
  | none => reading
  | some name =>
      { reading with
        names := (name, reading.names.length) :: reading.names.filter fun other => other.1 ≠ name
        anchors := reading.anchors + 1 }

/-- Keep a value for the mentions of its anchor, which stood where the other reading is. -/
def keep (reading start : Reading) (anchor : Option String) (value : Yaml) : Reading :=
  if anchor.isSome then
    { reading with anchored := ⟨start.anchors, start.names.length, value⟩ :: reading.anchored }
  else reading

/-- The values by their numbers; of those that share one, the latest to begin comes first. -/
def numbered (reading : Reading) : List (Nat × Yaml) :=
  (reading.anchored.mergeSort fun one other => other.order ≤ one.order).map fun anchored =>
    (anchored.number, anchored.value)

/-! ## Values -/

mutual

/-- A value; outside brackets it may be a block, and in a map a list without a block. -/
def node (block inMap : Bool) : Nat → Reading → Option (Yaml × Reading)
  | 0, _ => none
  | fuel + 1, reading =>
      match reading.rest with
      | .mention name :: _ =>
          (reading.names.lookup name).map fun number => (.mention number, reading.drop 1)
      | _ => do
          let (properties, start) := reading.properties
          let tag ← start.tagOf? properties.tag
          let named := start.name properties.anchor
          let (value, after) ←
            content block inMap (properties.anchor.isSome || tag.isSome) tag fuel named
          return (value, after.keep start properties.anchor value)

/-- A value behind its properties; if it has some, nothing at all may follow them. -/
def content (block inMap marked : Bool) (tag : Option Tag) :
    Nat → Reading → Option (Yaml × Reading)
  | 0, _ => none
  | fuel + 1, reading =>
      match reading.rest with
      | .scalar style text :: _ => some (.scalar tag style text, reading.drop 1)
      | .openList :: _ =>
          (flowItems true fuel (reading.drop 1)).map fun (items, after) => (.list items, after)
      | .openMap :: _ =>
          (flowEntries true fuel (reading.drop 1)).map fun (entries, after) =>
            (.map entries, after)
      | token :: _ =>
          if inMap && token = .item then
            (mapItems fuel reading).map fun (items, after) => (.list items, after)
          else if block && token = .blockList then
            (blockItems fuel (reading.drop 1)).map fun (items, after) => (.list items, after)
          else if block && token = .blockMap then
            (blockEntries fuel (reading.drop 1)).map fun (entries, after) => (.map entries, after)
          else if marked then some (.scalar tag .plain "", reading)
          else none
      | [] => if marked then some (.scalar tag .plain "", reading) else none

/-- A value that is left out if one of some tokens comes next. -/
def optional (block inMap : Bool) (without : List Token) :
    Nat → Reading → Option (Yaml × Reading)
  | 0, _ => none
  | fuel + 1, reading =>
      if reading.sees without then some (empty, reading) else node block inMap fuel reading

def valueOf (block : Bool) (without : List Token) : Nat → Reading → Option (Yaml × Reading)
  | 0, _ => none
  | fuel + 1, reading =>
      if reading.sees [.value] then optional block block without fuel (reading.drop 1)
      else some (empty, reading)

/-- The items of a list that has a block of its own. -/
def blockItems : Nat → Reading → Option (List Yaml × Reading)
  | 0, _ => none
  | fuel + 1, reading =>
      match reading.rest with
      | .item :: _ => do
          let (item, after) ← optional true false [.item, .blockEnd] fuel (reading.drop 1)
          let (items, last) ← blockItems fuel after
          return (item :: items, last)
      | .blockEnd :: _ => some ([], reading.drop 1)
      | _ => none

/-- The items of a list in the column of its map. -/
def mapItems : Nat → Reading → Option (List Yaml × Reading)
  | 0, _ => none
  | fuel + 1, reading =>
      match reading.rest with
      | .item :: _ => do
          let (item, after) ←
            optional true false [.item, .key, .value, .blockEnd] fuel (reading.drop 1)
          let (items, last) ← mapItems fuel after
          return (item :: items, last)
      | _ => some ([], reading)

def blockEntries : Nat → Reading → Option (List (Yaml × Yaml) × Reading)
  | 0, _ => none
  | fuel + 1, reading =>
      match reading.rest with
      | .key :: _ => do
          let without : List Token := [.key, .value, .blockEnd]
          let (key, afterKey) ← optional true true without fuel (reading.drop 1)
          let (value, after) ← valueOf true without fuel afterKey
          let (entries, last) ← blockEntries fuel after
          return ((key, value) :: entries, last)
      | .blockEnd :: _ => some ([], reading.drop 1)
      | _ => none

def behindComma (first : Bool) (reading : Reading) : Option Reading :=
  if first then some reading
  else if reading.sees [.comma] then some (reading.drop 1)
  else none

/--
An item that is a map with one entry, behind its question mark.  A key that is
left out takes the sign behind it with it.
-/
def flowPair : Nat → Reading → Option (Yaml × Reading)
  | 0, _ => none
  | fuel + 1, reading => do
      let (key, afterKey) ←
        if reading.sees [.value, .comma, .closeList] then some (empty, reading.drop 1)
        else node false false fuel reading
      let (value, after) ← valueOf false [.comma, .closeList] fuel afterKey
      return (.map [(key, value)], after)

def flowItems (first : Bool) : Nat → Reading → Option (List Yaml × Reading)
  | 0, _ => none
  | fuel + 1, reading =>
      if reading.sees [.closeList] then some ([], reading.drop 1)
      else do
        let start ← behindComma first reading
        if start.sees [.closeList] then return ([], start.drop 1)
        else
          let (item, after) ←
            if start.sees [.key] then flowPair fuel (start.drop 1) else node false false fuel start
          let (items, last) ← flowItems false fuel after
          return (item :: items, last)

def flowEntries (first : Bool) : Nat → Reading → Option (List (Yaml × Yaml) × Reading)
  | 0, _ => none
  | fuel + 1, reading =>
      if reading.sees [.closeMap] then some ([], reading.drop 1)
      else do
        let start ← behindComma first reading
        if start.sees [.closeMap] then return ([], start.drop 1)
        else
          let (entry, after) ←
            if start.sees [.key] then do
              let (key, afterKey) ←
                optional false false [.value, .comma, .closeMap] fuel (start.drop 1)
              let (value, after) ← valueOf false [.comma, .closeMap] fuel afterKey
              some ((key, value), after)
            else (node false false fuel start).map fun (key, after) => ((key, empty), after)
          let (entries, last) ← flowEntries false fuel after
          return (entry :: entries, last)

end

/-! ## Documents -/

def commonHandles : List (String × Tag) :=
  [("!", Tag.ofString "!"), ("!!", Tag.ofString "tag:yaml.org,2002:")]

/-- The directives in front of a document: at most one version, and one rule for a handle. -/
def directives (versioned : Bool) (handles : List (String × Tag)) :
    List Token → Option (List (String × Tag) × List Token)
  | .version major minor :: rest =>
      if versioned || major ≠ 1 || (minor ≠ 1 && minor ≠ 2) then none
      else directives true handles rest
  | .tagRule handle head :: rest =>
      if (handles.lookup handle).isSome then none
      else directives versioned ((handle, head) :: handles) rest
  | rest => some (handles, rest)

def endsDocument : List Token → Bool
  | [] => true
  | token :: _ =>
      match token with
      | .version .. | .tagRule .. | .documentStart | .documentEnd => true
      | _ => false

/-- The value of the document that tokens begin with, and the tokens behind it. -/
def document? (tokens : List Token) : Option (Tree × List Token) := do
  let (handles, rest) ← directives false [] tokens
  let start : Reading := ⟨rest, handles ++ commonHandles, [], 0, []⟩
  let fuel := 4 * tokens.length + 4
  let (root, after) ←
    match rest with
    | .documentStart :: inner =>
        let first := start.drop 1
        if endsDocument inner then some (empty, first) else node true false fuel first
    | _ => if rest.length = tokens.length then node true false fuel start else none
  return (⟨root, after.numbered⟩, after.rest)

end Reading

/-- The value of a text; nothing but marks that end the document may follow it. -/
def ofText? (text : String) : Option Tree := do
  let tokens ← tokens? text
  if tokens.isEmpty then return .blank
  else
    let (tree, rest) ← Reading.document? tokens
    if rest.all (· = .documentEnd) then return tree else none

end ShardControl.Yaml
