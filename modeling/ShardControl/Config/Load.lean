import ShardControl.Config.Reader
import ShardControl.Files.Tree

/-!
# Configuration files

A configuration in a file may name its document relative to the directory of
that file.
-/

namespace ShardControl.Config

def relativeTo (config : Config) (directory : String) : Config :=
  { config with documentPath := config.documentPath.map (Path.join directory) }

def textOf? (tree : FileTree) (path : String) : Option String :=
  (tree.read path).bind String.fromUTF8?

def load (tree : FileTree) (path : String) : Except ConfigError Config :=
  match textOf? tree path with
  | none => .error (.unreadable path)
  | some text =>
      match read text with
      | .error reason => .error reason
      | .ok config => .ok (config.relativeTo ((Path.parent? path).getD "."))

end ShardControl.Config
