import ShardControl.Text.Decimal
import ShardControl.Yaml.Cursor

/-!
# Scalars

A plain scalar ends where a comment, a colon before a gap or, between
brackets, a comma or bracket begins.  A scalar that goes on over several lines
is folded: a single line feed counts as a space, and of several breaks a line
feed in front is left out.
-/

namespace ShardControl.Yaml

/-- What stands between two words of a scalar: blanks on a line, or line breaks. -/
inductive Gap where
  | blanks (chars : List Char)
  | breaks (first : Option Char) (more : List Char)

namespace Gap

def none : Gap := blanks []

/-- A gap with one more blank or break; blanks beside a break are left out. -/
def add (gap : Gap) (c : Char) : Gap :=
  match gap with
  | blanks chars => if isBreak c then breaks (some c) [] else blanks (chars ++ [c])
  | breaks first more => if isBreak c then breaks first (more ++ [c]) else breaks first more

def text : Gap → List Char
  | blanks chars => chars
  | breaks (some '\n') [] => [' ']
  | breaks (some '\n') more => more
  | breaks (some c) more => c :: more
  | breaks Option.none more => more

def isFolded : Gap → Bool
  | blanks _ => false
  | breaks _ _ => true

def isNone : Gap → Bool
  | blanks chars => chars.isEmpty
  | breaks _ _ => false

end Gap

/-! ## Plain scalars -/

def startsPlain (flow : Bool) : List Char → Bool
  | [] => false
  | c :: rest =>
      if c = '-' then !rest.head?.any isBlank
      else if c = '?' || c = ':' then !flow && !atGap rest
      else !(isBlank c || isBreak c || isFlowMark c || c = '#' || c = '&' || c = '*' || c = '!' ||
        c = '|' || c = '>' || c = '\'' || c = '"' || c = '%' || c = '@' || c = '\x60')

/-- Whether a plain scalar is over before a character; its lines start at a column or behind. -/
def plainEnds (flow : Bool) (floor : Nat) (gap : Gap) (cursor : Cursor) : Bool :=
  (gap.isFolded && !flow && decide (cursor.column < floor)) || cursor.atMark ||
    (match cursor.rest with
     | [] => true
     | c :: rest =>
         (c = '#' && !gap.isNone) || (c = ':' && atGap rest) || (flow && isFlowMark c))

/-- Whether a colon stands before a bracket or a comma, which no plain scalar may hold. -/
def hasTightColon : List Char → Bool
  | ':' :: next :: _ => isFlowMark next || next = '?'
  | _ => false

/-- A scalar with what follows it, and whether lines end between them. -/
structure Scanned where
  chars : List Char
  after : Cursor
  breaks : Bool

def Scanned.behind (scanned : Scanned) (chars : List Char) : Scanned :=
  { scanned with chars := chars ++ scanned.chars }

/-- A plain scalar behind a gap of its own. A tab may not indent its lines. -/
def plainFrom (flow : Bool) (floor : Nat) (gap : Gap) (place : Place) :
    List Char → Option Scanned
  | [] => some ⟨[], ⟨place, []⟩, gap.isFolded⟩
  | c :: rest =>
      if isBlank c || isBreak c then
        if c = '\t' && gap.isFolded && decide (place.column < floor) then none
        else plainFrom flow floor (gap.add c) (place.after c) rest
      else if plainEnds flow floor gap ⟨place, c :: rest⟩ then
        some ⟨[], ⟨place, c :: rest⟩, gap.isFolded⟩
      else if flow && hasTightColon (c :: rest) then none
      else
        (plainFrom flow floor .none (place.after c) rest).map fun more =>
          more.behind (gap.text ++ [c])

def readPlain (flow : Bool) (floor : Nat) (cursor : Cursor) : Option Scanned :=
  plainFrom flow floor .none cursor.toPlace cursor.rest

/-! ## Quoted scalars -/

def escaped? : Char → Option Char
  | '0' => some '\x00'
  | 'a' => some '\x07'
  | 'b' => some '\x08'
  | 't' => some '\t'
  | '\t' => some '\t'
  | 'n' => some '\n'
  | 'v' => some '\x0b'
  | 'f' => some '\x0c'
  | 'r' => some '\r'
  | 'e' => some '\x1b'
  | ' ' => some ' '
  | '"' => some '"'
  | '/' => some '/'
  | '\\' => some '\\'
  | 'N' => some '\x85'
  | '_' => some '\u00a0'
  | 'L' => some '\u2028'
  | 'P' => some '\u2029'
  | _ => none

def hexLength? : Char → Option Nat
  | 'x' => some 2
  | 'u' => some 4
  | 'U' => some 8
  | _ => none

def charOf? (value : Nat) : Option Char :=
  if value < 0xD800 || (0xDFFF < value && value ≤ 0x10FFFF) then some (Char.ofNat value) else none

inductive QuoteState where
  /-- Among characters that stand for themselves. -/
  | text
  /-- Behind a single quote, which either ends the scalar or is written twice. -/
  | quote
  /-- Behind a backslash. -/
  | escape
  /-- In a numeric escape, before so many more digits, with a value so far. -/
  | hex (left value : Nat)

/-- A quoted scalar up to its closing quote. An escaped line break leaves nothing. -/
def quotedFrom (double : Bool) (state : QuoteState) (gap : Gap) (place : Place) :
    List Char → Option Scanned
  | [] =>
      match state with
      | .quote => some ⟨[], ⟨place, []⟩, false⟩
      | _ => none
  | c :: rest =>
      let onward (next : QuoteState) (found : List Char) : Option Scanned :=
        (quotedFrom double next .none (place.after c) rest).map fun more =>
          more.behind (gap.text ++ found)
      match state with
      | .quote => if c = '\'' then onward .text [c] else some ⟨[], ⟨place, c :: rest⟩, false⟩
      | .escape =>
          if isBreak c then quotedFrom double .text (.breaks none []) (place.after c) rest
          else
            match hexLength? c with
            | some length => onward (.hex length 0) []
            | none => (escaped? c).bind fun found => onward .text [found]
      | .hex left value =>
          (Decimal.digitIn? 16 c).bind fun digit =>
            if left ≤ 1 then (charOf? (value * 16 + digit)).bind fun found => onward .text [found]
            else onward (.hex (left - 1) (value * 16 + digit)) []
      | .text =>
          if isBlank c || isBreak c then quotedFrom double .text (gap.add c) (place.after c) rest
          else if Cursor.atMark ⟨place, c :: rest⟩ then none
          else if double && c = '"' then some ⟨gap.text, ⟨place.after c, rest⟩, false⟩
          else if double && c = '\\' then onward .escape []
          else if !double && c = '\'' then onward .quote []
          else onward .text [c]

def readQuoted (double : Bool) (cursor : Cursor) : Option Scanned :=
  quotedFrom double .text .none cursor.toPlace cursor.rest

end ShardControl.Yaml
