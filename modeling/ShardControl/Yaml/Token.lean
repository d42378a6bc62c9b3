import ShardControl.Yaml.Basic

/-!
# Tokens

The signs that configuration markup is made of.  Blocks, which the text shows
by indentation alone, have tokens for their beginning and their end.
-/

namespace ShardControl.Yaml

inductive Token where
  /-- The version that a document asks for. -/
  | version (major minor : Nat)
  /-- What the tags with a handle start with. -/
  | tagRule (handle : String) (head : Tag)
  | documentStart
  | documentEnd
  | blockList
  | blockMap
  | blockEnd
  /-- The hyphen before an item of a block. -/
  | item
  | openList
  | closeList
  | openMap
  | closeMap
  | comma
  | key
  | value
  | mention (name : String)
  | anchor (name : String)
  | tag (handle : String) (suffix : Tag)
  | scalar (style : Style) (text : String)
  deriving DecidableEq

end ShardControl.Yaml
