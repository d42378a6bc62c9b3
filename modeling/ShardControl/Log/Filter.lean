import ShardControl.Log.Event
import ShardControl.Pattern.Matching
import ShardControl.Pattern.Reader
import ShardControl.Text.Blank
import ShardControl.Text.Split

/-!
# Log filters

A filter is a list of directives, each of which gives a level to the targets
that start with a name.  The directive with the longest name decides.  A
specification lists directives between commas; behind a slash it gives a
pattern, and then only messages are let through that the pattern is found in.
-/

namespace ShardControl

/-- How much is let through; `none` lets nothing through. -/
abbrev Verbosity := Option LogLevel

/-- A level for the targets that start with a name, or for all. -/
structure Directive where
  name : Option String
  verbosity : Verbosity
  deriving DecidableEq

/-- The directives of a logger, and a pattern of the messages that it lets through. -/
structure LogFilter where
  directives : List Directive
  pattern : Option Pattern
  deriving DecidableEq

namespace LogFilter

def lower (text : String) : String := text.map Char.toLower

/-- The level of a name, in letters of either size. -/
def verbosity? (name : String) : Option Verbosity :=
  if lower name = "off" then some none
  else (LogLevel.all.find? fun level => lower level.text = lower name).map some

def warning (specification : String) : String :=
  "warning: invalid logging spec '" ++ specification ++ "', ignoring it"

def readDirective (part : List Char) : Except String Directive :=
  match Text.splitAt '=' part with
  | [single] =>
      let name := String.ofList single
      match verbosity? name with
      | some verbosity => .ok ⟨none, verbosity⟩
      | none => .ok ⟨some name, some .trace⟩
  | [name, level] =>
      let level := String.ofList (Text.trim level)
      if level = "" then .ok ⟨some (String.ofList name), some .trace⟩
      else
        match verbosity? level with
        | some verbosity => .ok ⟨some (String.ofList name), verbosity⟩
        | none => .error (warning level)
  | _ => .error (warning (String.ofList part))

def readDirectives (chars : List Char) : List (Except String Directive) :=
  (((Text.splitAt ',' chars).map Text.trim).filter (· ≠ [])).map readDirective

/-- Put a directive in the place of one for the same name, or behind all others. -/
def insert (directive : Directive) (directives : List Directive) : List Directive :=
  if directives.any fun other => other.name = directive.name then
    directives.map fun other => if other.name = directive.name then directive else other
  else directives ++ [directive]

def empty : LogFilter := ⟨[], none⟩

def readPattern (chars : List Char) : List String × Option Pattern :=
  match Pattern.read (String.ofList chars) with
  | .ok pattern => ([], some pattern)
  | .error refusal =>
      (["warning: invalid regex filter - " ++ refusal.report chars ++ ", ignoring it"], none)

/-- Add the directives of a specification, with the warnings that reading it gives.
The pattern of an earlier specification does not outlast it. -/
def add (filter : LogFilter) (specification : String) : List String × LogFilter :=
  let read (listed : List Char) : List String × List Directive :=
    let found := readDirectives listed
    let good := found.filterMap Except.toOption
    let bad := found.filterMap fun
      | .error text => some text
      | .ok _ => none
    (bad, good.foldl (fun all directive => insert directive all) filter.directives)
  match Text.splitAt '/' specification.toList with
  | [listed] =>
      let (warnings, directives) := read listed
      (warnings, ⟨directives, none⟩)
  | [listed, described] =>
      let (warnings, directives) := read listed
      let (more, pattern) := readPattern described
      (warnings ++ more, ⟨directives, pattern⟩)
  | _ =>
      (["warning: invalid logging spec '" ++ specification ++ "' (too many '/'s), ignoring it"],
       { filter with pattern := none })

def Directive.length (directive : Directive) : Nat :=
  match directive.name with
  | some name => name.utf8ByteSize
  | none => 0

def Directive.covers (directive : Directive) (target : String) : Bool :=
  match directive.name with
  | some name => name.toList.isPrefixOf target.toList
  | none => true

/-- The directive with the longest name, the last one of several. -/
def longest : List Directive → Option Directive
  | [] => none
  | directive :: rest =>
      match longest rest with
      | none => some directive
      | some other => if Directive.length other < Directive.length directive then some directive
          else some other

/-- How much of a target is let through; without directives only errors are. -/
def verbosityFor (filter : LogFilter) (target : String) : Verbosity :=
  if filter.directives.isEmpty then some .error
  else
    ((longest (filter.directives.filter fun directive => Directive.covers directive target)).map
      Directive.verbosity).join

def passes (filter : LogFilter) (event : Event) : Bool :=
  (match filter.verbosityFor event.target with
   | some limit => decide (event.level.verbosity ≤ limit.verbosity)
   | none => false) &&
  (match filter.pattern with
   | some pattern => pattern.isFoundIn event.text
   | none => true)

end LogFilter

def Event.line (event : Event) (time : String) : String :=
  let level := event.level.text
  let padding := String.ofList (List.replicate (5 - level.length) ' ')
  "[" ++ time ++ " " ++ level ++ padding ++ " " ++ event.target ++ "] " ++ event.text

end ShardControl
