import ShardControl.Config.Basic
import ShardControl.Yaml.Reader

/-!
# Reading configurations

A configuration is a map of sections and each section a map of settings.
What is missing or empty keeps its default, and unknown names are ignored, but
no known name may be given twice.
-/

namespace ShardControl.Config

def text? : Yaml → Option String
  | .scalar _ _ text => some text
  | _ => none

def named? (tree : Yaml.Tree) : List (Yaml × Yaml) → Option (List (String × Yaml))
  | [] => some []
  | (key, value) :: rest =>
      match text? (tree.resolve key), named? tree rest with
      | some name, some others => some ((name, tree.resolve value) :: others)
      | _, _ => none

/-- The values of the known names of a map, in their order; nothing at all is an empty map. -/
def fields? (tree : Yaml.Tree) (known : List String) : Yaml → Option (List (Option Yaml))
  | .scalar _ .plain "" => some (known.map fun _ => none)
  | .map entries =>
      (named? tree entries).bind fun listed =>
        if known.all fun name => decide (listed.countP (fun entry => entry.1 = name) ≤ 1) then
          some (known.map fun name => (listed.find? fun entry => entry.1 = name).map Prod.snd)
        else none
  | _ => none

/-- Whether a text is several digits with a zero in front. -/
def isPaddedZero : List Char → Bool
  | '0' :: c :: rest => (c :: rest).all fun d => (Decimal.digit? d).isSome
  | _ => false

/-- Read a whole number without its sign, also one in base sixteen, eight or two. -/
def magnitude? : List Char → Option Nat
  | '0' :: 'x' :: rest => Decimal.read? 16 rest
  | '0' :: 'o' :: rest => Decimal.read? 8 rest
  | '0' :: 'b' :: rest => Decimal.read? 2 rest
  | digits => if isPaddedZero digits then none else Decimal.read? 10 digits

def number? (text : String) : Option Nat :=
  match text.toList with
  | '+' :: rest => magnitude? rest
  | rest => magnitude? rest

def numberTag : Yaml.Tag := .ofString "tag:yaml.org,2002:int"

def nullTag : Yaml.Tag := .ofString "tag:yaml.org,2002:null"

/-- A number is written plain, or as a literal block with the tag of numbers. -/
def word? : Yaml → Option UInt64
  | .scalar tag style text =>
      if style = .plain || (style = .literal && tag = some numberTag) then
        (number? text).bind Word.ofNat64?
      else none
  | _ => none

def isNullWord (text : String) : Bool :=
  text = "~" || text = "null" || text = "Null" || text = "NULL"

/-- A text, or nothing. With the tag of nothing only a word for it may stand. -/
def optionalText? : Yaml → Option (Option String)
  | .scalar none .plain text => some (if text = "" || isNullWord text then none else some text)
  | .scalar (some tag) .plain text =>
      if tag ≠ nullTag then some (some text)
      else if isNullWord text then some none
      else none
  | .scalar _ _ text => some (some text)
  | _ => none

/-- The name that a tag with an exclamation mark in front gives; the mark alone names itself. -/
def tagName? : Yaml.Tag → Option String
  | [] => none
  | mark :: name =>
      if mark ≠ 0x21 then none else Yaml.Tag.text? (if name.isEmpty then [mark] else name)

/-- A choice is a name, or the tag of nothing else. -/
def choice? : Yaml → Option String
  | .scalar tag style text =>
      match tag.bind tagName? with
      | none => some text
      | some name =>
          if style = .plain && (text = "" || isNullWord text) then some name else none
  | _ => none

def setting {α : Type} (read : Yaml → Option α) (standard : α) : Option Yaml → Option α
  | none => some standard
  | some value => read value

/-- The values of the known names of a section; a section that is missing is empty. -/
def sectionFields? (tree : Yaml.Tree) (known : List String) (value : Option Yaml) :
    Option (List (Option Yaml)) :=
  fields? tree known (value.getD .empty)

/-- The configuration that a tree is, not yet validated. -/
def ofYaml? (tree : Yaml.Tree) : Option Config :=
  match fields? tree ["monitor", "deploy", "fault", "logging", "metadata"] tree.root with
  | some [monitor, deploy, fault, logging, metadata] =>
      match sectionFields? tree ["repository_capacity"] monitor,
        sectionFields? tree
          ["new_node_retry_time_ms", "cleanup_retry_delay_ms", "commit_attempts"] deploy,
        sectionFields? tree ["default_exit_policy", "shutdown_mode"] fault,
        sectionFields? tree ["filter"] logging,
        sectionFields? tree ["document_path"] metadata with
      | some [capacity], some [retryTime, retryDelay, attempts], some [policy, mode],
        some [filter], some [path] =>
          return {
            repositoryCapacity := ← setting word? standard.repositoryCapacity capacity
            newNodeRetryTime := ← setting word? standard.newNodeRetryTime retryTime
            cleanupRetryDelay := ← setting word? standard.cleanupRetryDelay retryDelay
            commitAttempts := ← setting word? standard.commitAttempts attempts
            defaultExitPolicy :=
              ← setting (fun choice => (choice? choice).bind ExitPolicy.ofName?)
                standard.defaultExitPolicy policy
            shutdownMode :=
              ← setting (fun choice => (choice? choice).bind ShutdownMode.ofName?)
                standard.shutdownMode mode
            logFilter := ← setting text? standard.logFilter filter
            documentPath := ← setting optionalText? standard.documentPath path }
      | _, _, _, _, _ => none
  | _ => none

/-- Read a configuration; its text is judged before its values. -/
def read (text : String) : Except ConfigError Config :=
  match (Yaml.ofText? text).bind ofYaml? with
  | none => .error .malformed
  | some config => config.validate.map fun _ => config

end ShardControl.Config
