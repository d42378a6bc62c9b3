import ShardControl.Yaml.BlockScalar
import ShardControl.Yaml.Scalar
import ShardControl.Yaml.Tag

/-!
# Reading tokens

The lexer goes through a text sign by sign.  It keeps the columns of the open
blocks, closes a block in front of a sign further to the left, and keeps where
a key may have started: a colon makes a key of what stands before it on its
line.
-/

namespace ShardControl.Yaml

structure KeyStart where
  place : Place
  /-- How many tokens are before it. -/
  index : Nat
  /-- Whether nothing but a key may stand there. -/
  isRequired : Bool

structure Lexer extends Cursor where
  tokens : Array Token
  /-- The columns of the open blocks, the innermost first. -/
  columns : List Nat
  /-- Where a key may have started within the innermost brackets. -/
  candidate : Option KeyStart
  /-- The same for each pair of brackets around them, and for the text itself. -/
  outer : List (Option KeyStart)
  /-- Whether a key or an item may start here. -/
  opens : Bool

namespace Lexer

def start (text : List Char) : Lexer where
  toCursor := .start text
  tokens := #[]
  columns := []
  candidate := none
  outer := []
  opens := true

def isFlow (lexer : Lexer) : Bool := !lexer.outer.isEmpty

/-- The column that what belongs to the innermost block starts in, or behind. -/
def floor (lexer : Lexer) : Nat :=
  match lexer.columns with
  | [] => 0
  | column :: _ => column + 1

def moveTo (lexer : Lexer) (cursor : Cursor) : Lexer := { lexer with toCursor := cursor }

def push (lexer : Lexer) (token : Token) : Lexer :=
  { lexer with tokens := lexer.tokens.push token }

/-! ## Gaps -/

/--
Skip to the next sign: blanks, line breaks and comments, and a byte order mark
at the start of a line.  Outside brackets a tab may not stand where a key may
start, and a key may start on every new line.
-/
def gapFrom (flow comment opens : Bool) (place : Place) : List Char → Cursor × Bool
  | [] => (⟨place, []⟩, opens)
  | c :: rest =>
      if isBreak c then gapFrom flow false (opens || !flow) (place.after c) rest
      else if comment || c = ' ' || (c = '\t' && (flow || !opens)) ||
          (c = '\ufeff' && place.column = 0) then
        gapFrom flow comment opens (place.after c) rest
      else if c = '#' then gapFrom flow true opens (place.after c) rest
      else (⟨place, c :: rest⟩, opens)

def skipGap (lexer : Lexer) : Lexer :=
  let (cursor, opens) := gapFrom lexer.isFlow false lexer.opens lexer.toPlace lexer.rest
  { lexer with toCursor := cursor, opens := opens }

/-! ## Keys -/

/-- A key stands on one line, with its colon at most this many bytes behind its start. -/
def keyLimit : Nat := 1024

/-- Give up the start of a key, which fails where nothing but a key may stand. -/
def giveUp : Option KeyStart → Option (Option KeyStart)
  | none => some none
  | some start => if start.isRequired then none else some none

def KeyStart.isOver (start : KeyStart) (place : Place) : Bool :=
  start.place.line < place.line || start.place.offset + keyLimit < place.offset

/-- Give up the start of a key that cannot reach a place. -/
def refresh (place : Place) (candidate : Option KeyStart) : Option (Option KeyStart) :=
  if candidate.any fun start => KeyStart.isOver start place then giveUp candidate
  else some candidate

def refreshKeys (lexer : Lexer) : Option Lexer := do
  return { lexer with
    candidate := ← refresh lexer.toPlace lexer.candidate
    outer := ← lexer.outer.mapM (refresh lexer.toPlace) }

/-- Give up the start of a key within the innermost brackets. -/
def dropKey (lexer : Lexer) : Option Lexer := do
  return { lexer with candidate := ← giveUp lexer.candidate }

def noteKey (lexer : Lexer) : Option Lexer :=
  if lexer.opens then
    lexer.dropKey.map fun dropped =>
      { dropped with
        candidate := some {
          place := lexer.toPlace
          index := lexer.tokens.size
          isRequired := !lexer.isFlow && lexer.columns.head? = some lexer.column } }
  else some lexer

/-! ## Blocks -/

/-- Close the blocks that start behind a column, or all of them. -/
def closeBlocks (lexer : Lexer) (column : Option Nat) : Lexer :=
  if lexer.isFlow then lexer
  else
    let isClosed (other : Nat) : Bool := column.all fun column => decide (column < other)
    let closed := lexer.columns.takeWhile isClosed
    { lexer with
      columns := lexer.columns.dropWhile isClosed
      tokens := lexer.tokens ++ Array.replicate closed.length Token.blockEnd }

def insert (lexer : Lexer) (index : Nat) (token : Token) : Lexer :=
  { lexer with tokens := lexer.tokens.insertIdxIfInBounds index token }

/-- Open a block in a column behind that of the innermost one, in front of some token. -/
def openBlock (lexer : Lexer) (column index : Nat) (token : Token) : Lexer :=
  if lexer.isFlow || !lexer.columns.head?.all fun other => decide (other < column) then lexer
  else { lexer.insert index token with columns := column :: lexer.columns }

def openBlockHere (lexer : Lexer) (token : Token) : Lexer :=
  lexer.openBlock lexer.column lexer.tokens.size token

/-! ## Signs -/

def take (lexer : Lexer) (count : Nat) (token : Token) (opens : Bool) : Lexer :=
  { (lexer.moveTo (lexer.toCursor.skip count)).push token with opens := opens }

/-- A line of its own ends all blocks: a document mark or a directive. -/
def endBlocks (lexer : Lexer) : Option Lexer :=
  (lexer.closeBlocks none).dropKey

def readMark (lexer : Lexer) (token : Token) : Option Lexer :=
  lexer.endBlocks.map fun ended => ended.take 3 token false

def readDirective (lexer : Lexer) : Option Lexer := do
  let ended ← lexer.endBlocks
  let (token, after) ← readDirective? (lexer.toCursor.skip 1)
  return { (ended.moveTo after).push token with opens := false }

def openBrackets (lexer : Lexer) (token : Token) : Option Lexer :=
  lexer.noteKey.map fun noted =>
    { noted.take 1 token true with candidate := none, outer := noted.candidate :: noted.outer }

def closeBrackets (lexer : Lexer) (token : Token) : Option Lexer :=
  lexer.dropKey.map fun dropped =>
    match dropped.outer with
    | [] => dropped.take 1 token false
    | candidate :: outer =>
        { dropped.take 1 token false with candidate := candidate, outer := outer }

def readComma (lexer : Lexer) : Option Lexer :=
  lexer.dropKey.map fun dropped => dropped.take 1 .comma true

/-- Whether a sign that opens a block may stand here; brackets open none. -/
def mayOpen (lexer : Lexer) : Bool := lexer.isFlow || lexer.opens

def readItem (lexer : Lexer) : Option Lexer :=
  if lexer.mayOpen then
    (lexer.openBlockHere .blockList).dropKey.map fun dropped => dropped.take 1 .item true
  else none

def readQuestion (lexer : Lexer) : Option Lexer :=
  if lexer.mayOpen then
    (lexer.openBlockHere .blockMap).dropKey.map fun dropped =>
      dropped.take 1 .key (!lexer.isFlow)
  else none

/-- A colon makes a key of what started one; otherwise its key has a sign of its own. -/
def readColon (lexer : Lexer) : Option Lexer :=
  match lexer.candidate with
  | some start =>
      let key := lexer.insert start.index .key
      let keyed := key.openBlock start.place.column start.index .blockMap
      some { keyed.take 1 .value false with candidate := none }
  | none =>
      if lexer.mayOpen then
        some ((lexer.openBlockHere .blockMap).take 1 .value (!lexer.isFlow))
      else none

def takeRead (lexer : Lexer) (read : Option (Token × Cursor)) : Option Lexer := do
  let noted ← lexer.noteKey
  let (token, after) ← read
  return { (noted.moveTo after).push token with opens := false }

def readAnchor (lexer : Lexer) (token : String → Token) : Option Lexer :=
  lexer.takeRead ((readName? (lexer.toCursor.skip 1)).map fun (name, after) => (token name, after))

/-- A plain or quoted scalar; behind its last line a key may start. -/
def takeScalar (lexer : Lexer) (style : Style) (read : Option Scanned) : Option Lexer := do
  let noted ← lexer.noteKey
  let scanned ← read
  return { (noted.moveTo scanned.after).push (.scalar style (String.ofList scanned.chars)) with
    opens := scanned.breaks }

def readBlock (lexer : Lexer) (style : Style) : Option Lexer := do
  let dropped ← lexer.dropKey
  let (chars, after) ←
    readBlockScalar (style = .folded) lexer.floor (lexer.toCursor.skip 1)
  return { (dropped.moveTo after).push (.scalar style (String.ofList chars)) with opens := true }

/-- Whether a sign of its own stands here: a gap follows it, or it is between brackets. -/
def isSign (lexer : Lexer) (rest : List Char) : Bool := lexer.isFlow || atGap rest

def readSign (lexer : Lexer) (c : Char) (rest : List Char) : Option Lexer :=
  if c = '[' then lexer.openBrackets .openList
  else if c = '\x7b' then lexer.openBrackets .openMap
  else if c = ']' then lexer.closeBrackets .closeList
  else if c = '\x7d' then lexer.closeBrackets .closeMap
  else if c = ',' then lexer.readComma
  else if c = '-' && atGap rest then lexer.readItem
  else if c = '?' && lexer.isSign rest then lexer.readQuestion
  else if c = ':' && lexer.isSign rest then lexer.readColon
  else if c = '*' then lexer.readAnchor .mention
  else if c = '&' then lexer.readAnchor .anchor
  else if c = '!' then lexer.takeRead (readTag? lexer.isFlow lexer.toCursor)
  else if c = '|' && !lexer.isFlow then lexer.readBlock .literal
  else if c = '>' && !lexer.isFlow then lexer.readBlock .folded
  else if c = '\'' then lexer.takeScalar .quoted (readQuoted false (lexer.toCursor.skip 1))
  else if c = '"' then lexer.takeScalar .quoted (readQuoted true (lexer.toCursor.skip 1))
  else if startsPlain lexer.isFlow (c :: rest) then
    lexer.takeScalar .plain (readPlain lexer.isFlow lexer.floor lexer.toCursor)
  else none

/-- Read the next sign, where one is left; the end of the text ends all blocks. -/
def next (lexer : Lexer) : Option Lexer := do
  let fresh ← lexer.skipGap.refreshKeys
  let placed := fresh.closeBlocks fresh.column
  match placed.rest with
  | [] => placed.endBlocks
  | c :: rest =>
      if placed.column = 0 && c = '%' then placed.readDirective
      else if placed.column = 0 && atDocumentStart placed.rest then placed.readMark .documentStart
      else if placed.column = 0 && atDocumentEnd placed.rest then placed.readMark .documentEnd
      else placed.readSign c rest

def readAll : Nat → Lexer → Option (List Token)
  | 0, _ => none
  | bound + 1, lexer =>
      lexer.next.bind fun after =>
        if after.rest.isEmpty then after.endBlocks.map fun ended => ended.tokens.toList
        else readAll bound after

end Lexer

/-- The tokens of a text, in which only allowed characters may stand. -/
def tokens? (text : String) : Option (List Token) :=
  let chars := text.toList
  if chars.all isAllowed then
    let unified := unifyBreaks chars
    Lexer.readAll (unified.length + 1) (.start unified)
  else none

end ShardControl.Yaml
