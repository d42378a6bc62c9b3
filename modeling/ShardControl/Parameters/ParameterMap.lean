import ShardControl.KeyedMap.Basic
import ShardControl.Word

/-!
# Parameter maps

Flat named settings, the form in which storage-node agents take parameters.
They are listed by name.
-/

namespace ShardControl

structure Setting where
  name : String
  value : String
  deriving DecidableEq

instance : Keyed Setting String := ⟨Setting.name⟩

abbrev ParameterMap := KeyedMap Setting

namespace ParameterMap

def set (map : ParameterMap) (name value : String) : ParameterMap := map.insert ⟨name, value⟩

def get? (map : ParameterMap) (name : String) : Option String :=
  (map.find? name).map Setting.value

def getWord? (map : ParameterMap) (name : String) : Option UInt64 :=
  (map.get? name).bind Word.read64?

/-- The settings of both maps; those of the second win. -/
def merge (map other : ParameterMap) : ParameterMap := map.insertAll other.toList

def setAll (map : ParameterMap) (settings : List (String × String)) : ParameterMap :=
  map.insertAll (settings.map fun setting => ⟨setting.1, setting.2⟩)

end ParameterMap

end ShardControl
