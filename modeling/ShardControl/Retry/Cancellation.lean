/-!
# Cancellation

A cancellation is shared by all who hold a token of it.  Once cancelled it
stays so, and whoever sleeps on it wakes up at once.
-/

namespace ShardControl

/-- Tokens, each for one of several cancellations. -/
structure Tokens where
  /-- The cancellation of every token. -/
  holders : List Nat
  /-- Whether each cancellation has happened. -/
  flags : List Bool
  deriving DecidableEq

namespace Tokens

def single : Tokens := ⟨[0], [false]⟩

def fresh (tokens : Tokens) : Nat × Tokens :=
  (tokens.holders.length, ⟨tokens.holders ++ [tokens.flags.length], tokens.flags ++ [false]⟩)

/-- Make a token for the cancellation of another; there is none for an unknown token. -/
def clone (tokens : Tokens) (token : Nat) : Option (Nat × Tokens) :=
  tokens.holders[token]?.map fun flag =>
    (tokens.holders.length, { tokens with holders := tokens.holders ++ [flag] })

def cancel (tokens : Tokens) (token : Nat) : Tokens :=
  match tokens.holders[token]? with
  | some flag => { tokens with flags := tokens.flags.set flag true }
  | none => tokens

def isCancelled (tokens : Tokens) (token : Nat) : Bool :=
  ((tokens.holders[token]?).bind fun flag => tokens.flags[flag]?).getD false

/-- Whether a sleep that nobody interrupts is cut short: only by an earlier cancellation. -/
def sleep (tokens : Tokens) (token : Nat) : Bool := tokens.isCancelled token

/-- A sleep that another holder cuts short. -/
def sleepUntilCancelled (tokens : Tokens) (token : Nat) : Bool × Tokens :=
  let cancelled := tokens.cancel token
  (cancelled.sleep token, cancelled)

end Tokens

end ShardControl
