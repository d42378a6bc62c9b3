import ShardControl.Pattern.Fault

/-!
# Machines

A pattern is looked for by a machine that goes from state to state.  What
counts of a machine is how much it takes: every state takes the same, and one
with several ways out takes something for each of them.
-/

namespace ShardControl.Pattern

structure Machine where
  states : Nat
  /-- The bytes that ways out of states take. -/
  ways : Nat
  deriving DecidableEq

namespace Machine

def size (machine : Machine) : Nat := 32 * machine.states + machine.ways

def isOver (machine : Machine) : Bool := costLimit < machine.size

def addStates (machine : Machine) (count : Nat) : Machine :=
  { machine with states := machine.states + count }

/-- Ways out of states where a machine may go on with any of several others. -/
def addForks (machine : Machine) (count : Nat) : Machine :=
  { machine with ways := machine.ways + 4 * count }

/-- A state that goes on by the range that the next byte is in. -/
def addSwitch (machine : Machine) (count : Nat) : Machine :=
  { machine with states := machine.states + 1, ways := machine.ways + 8 * count }

end Machine

/-- A machine up to the end of some part of a pattern. -/
structure Stage where
  machine : Machine
  /-- Whether its last state is a fork, to which a way onward adds. -/
  isFork : Bool

namespace Stage

/-- A stage whose last state has one way out. -/
def plain (machine : Machine) : Stage := ⟨machine, false⟩

def onward (stage : Stage) : Machine :=
  if stage.isFork then stage.machine.addForks 1 else stage.machine

end Stage

/-- How a machine goes on with a part of a pattern. -/
abbrev Growth := Machine → Stage

namespace Growth

def line (count : Nat) : Growth := fun machine => .plain (machine.addStates count)

def behind (first second : Growth) : Growth := fun machine => second (first machine).onward

/-- More copies of a part behind a stage. A machine that takes too much grows no more. -/
def copiesBehind (part : Growth) : Nat → Stage → Stage
  | 0, stage => stage
  | count + 1, stage =>
      if stage.machine.isOver then stage else copiesBehind part count (part stage.onward)

def copies (part : Growth) : Nat → Growth
  | 0, machine => line 1 machine
  | count + 1, machine => copiesBehind part count (part machine)

/-- More copies of a part behind a stage, each of which may be the last. -/
def choicesBehind (part : Growth) : Nat → Stage → Stage
  | 0, stage => stage
  | count + 1, stage =>
      if stage.machine.isOver then stage
      else choicesBehind part count (part ((stage.onward.addStates 1).addForks 2))

def optional (part : Growth) : Growth := fun machine =>
  let inner := part (machine.addStates 1)
  .plain ((inner.onward.addStates 1).addForks 2)

/-- A part any number of times; one that describes empty texts may not go round for ever. -/
def anyNumber (part : Growth) (filled : Bool) : Growth := fun machine =>
  if filled then ⟨(part (machine.addStates 1)).onward.addForks 1, true⟩
  else .plain (((part machine).onward.addStates 3).addForks 4)

def atLeast (part : Growth) (filled : Bool) : Nat → Growth
  | 0, machine => anyNumber part filled machine
  | count + 1, machine =>
      let last := if count = 0 then part machine else part (copies part count machine).onward
      ⟨(last.onward.addStates 1).addForks 1, true⟩

def upTo (part : Growth) (least most : Nat) : Growth := fun machine =>
  if least = most then copies part least machine
  else if least = 0 && most = 1 then optional part machine
  else
    let first := copies part least machine
    let last := choicesBehind part (most - least) ⟨first.machine.addStates 1, first.isFork⟩
    .plain last.onward

def either : List Growth → Growth
  | [], machine => .plain ((machine.addStates 1).addSwitch 0)
  | [part], machine => part machine
  | first :: second :: rest, machine =>
      let both := (second (first machine).onward).onward
      .plain (rest.foldl (fun grown part => (part grown).onward.addForks 1)
        ((both.addStates 2).addForks 2))

end Growth

end ShardControl.Pattern
