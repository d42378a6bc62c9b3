import ShardControl.Pattern.Fault

/-!
# Nesting

Groups, sets, repetitions, alternatives, and parts side by side may stand in
one another.  What a pattern holds is known by its depths: for each depth,
where the first part at that depth stands.
-/

namespace ShardControl.Pattern

/-- Where the first of the parts at each depth stands. -/
abbrev Nesting := List Span

namespace Nesting

/-- Parts side by side. At a depth that both have, the first one comes first. -/
def beside (first second : Nesting) : Nesting := first ++ second.drop first.length

def within (span : Span) (inner : Nesting) : Nesting := span :: inner

def all (parts : List Nesting) : Nesting := parts.foldl beside []

/-- Parts side by side are a part of their own if there are several. -/
def gathered (span : Span) (parts : List Nesting) : Nesting :=
  match parts with
  | [] => []
  | [part] => part
  | parts => within span (all parts)

/-- The first part that stands in too many others. -/
def tooDeep? (nesting : Nesting) : Option Fault :=
  nesting[depthLimit]?.map fun span => ⟨.tooDeep, span, none⟩

end Nesting

end ShardControl.Pattern
