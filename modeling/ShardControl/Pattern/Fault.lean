import ShardControl.Text.Decimal
import ShardControl.Text.Split

/-!
# Faults of patterns

Why a text is no pattern.  A fault in the text is shown under the line that it
stands on, with a mark below each of its characters.
-/

namespace ShardControl.Pattern

/-- A stretch of a text: where it starts, and where what follows it starts. -/
structure Span where
  start : Nat
  stop : Nat
  deriving DecidableEq

def depthLimit : Nat := 250

inductive FaultKind where
  | classEscapeInvalid
  | classRangeInvalid
  | classRangeLiteral
  | classUnclosed
  | decimalEmpty
  | decimalInvalid
  | escapeHexEmpty
  | escapeHexInvalid
  | escapeHexInvalidDigit
  | escapeUnexpectedEnd
  | escapeUnrecognized
  | flagDanglingNegation
  | flagDuplicate
  | flagRepeatedNegation
  | flagUnexpectedEnd
  | flagUnrecognized
  | groupNameDuplicate
  | groupNameEmpty
  | groupNameInvalid
  | groupNameUnexpectedEnd
  | groupUnclosed
  | groupUnopened
  | repetitionCountInvalid
  | repetitionCountDecimalEmpty
  | repetitionCountUnclosed
  | repetitionMissing
  | tooDeep
  | wordBoundaryUnclosed
  | wordBoundaryUnrecognized
  | wordBoundaryUnexpectedEnd
  | unicodeClassInvalid
  | unsupportedBackreference
  | unsupportedLookAround
  | unicodeNotAllowed
  | invalidBytes
  | propertyNotFound
  | propertyValueNotFound
  | letterClassNotFound
  | caseUnavailable
  deriving DecidableEq

def FaultKind.text : FaultKind → String
  | classEscapeInvalid => "invalid escape sequence found in character class"
  | classRangeInvalid => "invalid character class range, the start must be <= the end"
  | classRangeLiteral => "invalid range boundary, must be a literal"
  | classUnclosed => "unclosed character class"
  | decimalEmpty => "decimal literal empty"
  | decimalInvalid => "decimal literal invalid"
  | escapeHexEmpty => "hexadecimal literal empty"
  | escapeHexInvalid => "hexadecimal literal is not a Unicode scalar value"
  | escapeHexInvalidDigit => "invalid hexadecimal digit"
  | escapeUnexpectedEnd => "incomplete escape sequence, reached end of pattern prematurely"
  | escapeUnrecognized => "unrecognized escape sequence"
  | flagDanglingNegation => "dangling flag negation operator"
  | flagDuplicate => "duplicate flag"
  | flagRepeatedNegation => "flag negation operator repeated"
  | flagUnexpectedEnd => "expected flag but got end of regex"
  | flagUnrecognized => "unrecognized flag"
  | groupNameDuplicate => "duplicate capture group name"
  | groupNameEmpty => "empty capture group name"
  | groupNameInvalid => "invalid capture group character"
  | groupNameUnexpectedEnd => "unclosed capture group name"
  | groupUnclosed => "unclosed group"
  | groupUnopened => "unopened group"
  | repetitionCountInvalid =>
      "invalid repetition count range, the start must be <= the end"
  | repetitionCountDecimalEmpty => "repetition quantifier expects a valid decimal"
  | repetitionCountUnclosed => "unclosed counted repetition"
  | repetitionMissing => "repetition operator missing expression"
  | tooDeep =>
      "exceed the maximum number of nested parentheses/brackets (" ++ Decimal.text depthLimit ++ ")"
  | wordBoundaryUnclosed =>
      "special word boundary assertion is either unclosed or contains an invalid character"
  | wordBoundaryUnrecognized =>
      "unrecognized special word boundary assertion, valid choices are: start, end, " ++
        "start-half or end-half"
  | wordBoundaryUnexpectedEnd =>
      "found either the beginning of a special word boundary or a bounded repetition on a \\b " ++
        "with an opening brace, but no closing brace"
  | unicodeClassInvalid => "invalid Unicode character class"
  | unsupportedBackreference => "backreferences are not supported"
  | unsupportedLookAround =>
      "look-around, including look-ahead and look-behind, is not supported"
  | unicodeNotAllowed => "Unicode not allowed here"
  | invalidBytes => "pattern can match invalid UTF-8"
  | propertyNotFound => "Unicode property not found"
  | propertyValueNotFound => "Unicode property value not found"
  | letterClassNotFound =>
      "Unicode-aware Perl class not found (make sure the unicode-perl feature is enabled)"
  | caseUnavailable =>
      "Unicode-aware case insensitivity matching is not available " ++
        "(make sure the unicode-case feature is enabled)"

structure Fault where
  kind : FaultKind
  span : Span
  related : Option Span
  deriving DecidableEq

namespace Fault

/-- A stretch of one line, by columns that count from zero. -/
structure Mark where
  line : Nat
  start : Nat
  width : Nat

def position (chars : List Char) (offset : Nat) : Nat × Nat :=
  let before := chars.take offset
  (before.count '\n', (before.reverse.takeWhile (· ≠ '\n')).length)

/-- The mark of a stretch that lies on one line; an empty one is as wide as a character. -/
def mark? (chars : List Char) (span : Span) : Option Mark :=
  let (line, column) := position chars span.start
  let (lastLine, lastColumn) := position chars span.stop
  if line = lastLine then some ⟨line, column, max 1 (lastColumn - column)⟩ else none

def rangeText (chars : List Char) (span : Span) : Option String :=
  let (line, column) := position chars span.start
  let (lastLine, lastColumn) := position chars span.stop
  if line = lastLine then none
  else
    some ("on line " ++ Decimal.text (line + 1) ++ " (column " ++ Decimal.text (column + 1) ++
      ") through line " ++ Decimal.text (lastLine + 1) ++ " (column " ++ Decimal.text lastColumn ++
      ")")

/-- Marks under a line, in order; each starts behind the one before it. -/
def underline : Nat → List Mark → List Char
  | _, [] => []
  | column, mark :: rest =>
      List.replicate (mark.start - column) ' ' ++ List.replicate mark.width '^' ++
        underline (max column mark.start + mark.width) rest

def ordered : List Mark → List Mark
  | [first, second] =>
      if second.start < first.start ||
          (second.start = first.start && second.width < first.width) then
        [second, first]
      else [first, second]
  | marks => marks

/-- A text with its lines numbered if there are several, and with marks under them. -/
def notated (chars : List Char) (marks : List Mark) : List String :=
  let lines := Text.lines chars
  let count := lines.length + if chars.getLast? = some '\n' then 1 else 0
  let width := if count ≤ 1 then 0 else (Decimal.numeral count).length
  let margin := if width = 0 then 4 else width + 2
  let number (index : Nat) : List Char :=
    let digits := Decimal.numeral (index + 1)
    if width = 0 then List.replicate 4 ' '
    else List.replicate (width - digits.length) ' ' ++ digits ++ [':', ' ']
  (lines.zipIdx.map fun (line, index) =>
    let here := ordered (marks.filter fun mark => mark.line = index)
    String.ofList (number index ++ line) ::
      if here.isEmpty then []
      else [String.ofList (List.replicate margin ' ' ++ underline 0 here)]).flatten

def report (fault : Fault) (chars : List Char) : String :=
  let spans := fault.span :: fault.related.toList
  let shown := notated chars (spans.filterMap (mark? chars))
  let divider := String.ofList (List.replicate 79 '~')
  let ranges := spans.filterMap (rangeText chars)
  let body :=
    if chars.contains '\n' then divider :: shown ++ divider :: ranges else shown
  "\n".intercalate ("regex parse error:" :: body ++ ["error: " ++ fault.kind.text])

end Fault

inductive Refusal where
  | fault (fault : Fault)
  /-- Where words begin and end is known for ASCII texts alone. -/
  | wordBoundary
  | tooLarge
  deriving DecidableEq

def costLimit : Nat := 10485760

def Refusal.report (refusal : Refusal) (chars : List Char) : String :=
  match refusal with
  | .fault found => found.report chars
  | .wordBoundary => "error building NFA"
  | .tooLarge => "Compiled regex exceeds size limit of " ++ Decimal.text costLimit ++ " bytes."

end ShardControl.Pattern
