/-!
# Texts without control sequences

A control sequence starts with an escape character and tells a terminal how to
show what follows.  A plain text keeps what is shown and the blanks that a
control character writes.  It leaves out all sequences, also one that never
ends.
-/

namespace ShardControl.Text

inductive ControlState where
  /-- Outside every sequence. -/
  | ground
  /-- Behind an escape character. -/
  | escape
  /-- Behind an escape character and the signs that say what the next one means. -/
  | escapeSigns
  /-- In a sequence that ends with a letter. -/
  | sequence
  /-- In front of the device that a string is for. -/
  | device
  /-- Among the numbers for that device. -/
  | deviceNumbers
  /-- Among the signs behind them. -/
  | deviceSigns
  /-- In a string for a device, up to the terminator of strings. -/
  | string
  /-- In a command for the system, up to the bell. -/
  | command
  deriving DecidableEq

namespace ControlState

def inRange (low high value : Nat) : Bool := decide (low ≤ value) && decide (value ≤ high)

/-- The state behind an escape character and another character. -/
def afterEscape (n : Nat) : ControlState :=
  if inRange 0x20 0x2F n then escapeSigns
  else if n = 0x5B then sequence
  else if n = 0x5D then command
  else if n = 0x50 then device
  else if n = 0x58 || n = 0x5E || n = 0x5F then string
  else if inRange 0x30 0x7E n then ground
  else escape

/--
Whether the bytes of a character hold the one that is the terminator of
strings when it stands alone.
-/
def holdsTerminator (c : Char) : Bool :=
  let n := c.toNat
  (0x80 ≤ n && n % 64 = 0x1C) || (0x800 ≤ n && n / 64 % 64 = 0x1C) ||
    (0x10000 ≤ n && n / 4096 % 64 = 0x1C)

def after (state : ControlState) (c : Char) : ControlState :=
  let n := c.toNat
  if n = 0x18 || n = 0x1A then ground
  else if n = 0x1B then escape
  else
    match state with
    | ground => ground
    | escape => afterEscape n
    | escapeSigns => if inRange 0x30 0x7E n then ground else escapeSigns
    | sequence => if inRange 0x40 0x7E n then ground else sequence
    | device =>
        if inRange 0x20 0x2F n then deviceSigns
        else if inRange 0x30 0x3F n then deviceNumbers
        else if inRange 0x40 0x7E n then string
        else device
    | deviceNumbers =>
        if inRange 0x20 0x2F n then deviceSigns
        else if inRange 0x3C 0x7E n then string
        else deviceNumbers
    | deviceSigns => if inRange 0x30 0x7E n then string else deviceSigns
    | string => if holdsTerminator c then ground else string
    | command => if n = 0x07 then ground else command

end ControlState

/-- Whether a control character writes a blank: a tab, or the end of a line or page. -/
def isControlBlank (c : Char) : Bool := c = '\t' || c = '\n' || c = '\x0c' || c = '\r'

def isShown (c : Char) : Bool := isControlBlank c || (' ' ≤ c && c ≠ '\x7f')

/-- Whether a character is shown in a state; within some sequences a blank is. -/
def ControlState.shows (state : ControlState) (c : Char) : Bool :=
  match state with
  | .ground => isShown c
  | .escape | .escapeSigns | .sequence => isControlBlank c
  | _ => false

/--
The plain text of what follows in a state.  Once a character is shown, all
characters are up to the next one that is not; a sequence that a blank has
broken off goes on there, unless a character beyond ASCII came between.
-/
def plainFrom (shown : Bool) (state : ControlState) : List Char → List Char
  | [] => []
  | c :: rest =>
      if (shown && isShown c) || state.shows c then
        c :: plainFrom true (if c.toNat < 0x80 then state else .ground) rest
      else plainFrom false (state.after c) rest

def plain (text : String) : String := String.ofList (plainFrom false .ground text.toList)

end ShardControl.Text
