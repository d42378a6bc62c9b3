import ShardControl.Document.Form
import ShardControl.Proofs.Json.Form

/-!
# Lawful forms of topology and parameters

Every domain type is read back from what is written for it, from the ids up to
whole topologies and parameters.  A record is read member by member, so each
member only needs a lawful form of its own.
-/

namespace ShardControl

open Json

/-! ## Ids -/

instance : LawfulForm DatacenterId where
  ofJson?_toJson id := congrArg (Option.map DatacenterId.mk) (ofJson?_toJson id.num)

instance : LawfulForm StorageNodeId where
  ofJson?_toJson id := congrArg (Option.map StorageNodeId.mk) (ofJson?_toJson id.num)

instance : LawfulForm ShardId where
  ofJson?_toJson id := congrArg (Option.map ShardId.mk) (ofJson?_toJson id.num)

instance : LawfulForm ReplicaId where
  ofJson?_toJson id := by
    rw [toJson, ofJson?, instJsonFormReplicaId]
    dsimp only
    rw [members?_record]
    · simp only [List.map, required_toJson]
      rfl
    · rfl
    · decide

instance : LawfulForm ArbiterId where
  ofJson?_toJson id := by
    rw [toJson, ofJson?, instJsonFormArbiterId]
    dsimp only
    rw [members?_record]
    · simp only [List.map, required_toJson]
      rfl
    · rfl
    · decide

/-! ## Topology -/

instance : LawfulForm DatacenterType where
  ofJson?_toJson kind := by cases kind <;> rfl

instance : LawfulForm Datacenter where
  ofJson?_toJson datacenter := by
    rw [toJson, ofJson?, instJsonFormDatacenter]
    dsimp only
    rw [members?_record]
    · simp only [List.map, required_toJson]
      rfl
    · rfl
    · decide

instance : LawfulForm StorageNode where
  ofJson?_toJson node := by
    rw [toJson, ofJson?, instJsonFormStorageNode]
    dsimp only
    rw [members?_record]
    · simp only [List.map, required_toJson]
      rfl
    · rfl
    · decide

instance : LawfulForm Replica where
  ofJson?_toJson replica := by
    rw [toJson, ofJson?, instJsonFormReplica]
    dsimp only
    rw [members?_record]
    · simp only [List.map, required_toJson]
      rfl
    · rfl
    · decide

instance : LawfulForm Arbiter where
  ofJson?_toJson arbiter := by
    rw [toJson, ofJson?, instJsonFormArbiter]
    dsimp only
    rw [members?_record]
    · simp only [List.map, required_toJson]
      rfl
    · rfl
    · decide

instance : LawfulForm Shard where
  ofJson?_toJson shard := by
    rw [toJson, ofJson?, instJsonFormShard]
    dsimp only
    rw [members?_record]
    · simp only [List.map, required_toJson]
      rfl
    · rfl
    · decide

instance : LawfulForm Topology where
  ofJson?_toJson topology := by
    rw [toJson, ofJson?, instJsonFormTopology]
    dsimp only
    rw [members?_record]
    · simp only [List.map, required_toJson]
      rfl
    · rfl
    · decide

/-! ## Parameters -/

instance : LawfulForm NodeType where
  ofJson?_toJson kind := by cases kind <;> rfl

instance : LawfulForm PortRange where
  ofJson?_toJson range := by
    rw [toJson, ofJson?, instJsonFormPortRange]
    dsimp only
    rw [members?_record]
    · simp only [List.map, required_toJson]
      rfl
    · rfl
    · decide

instance : LawfulForm Policies where
  ofJson?_toJson policies := by
    rw [toJson, ofJson?, instJsonFormPolicies]
    dsimp only
    rw [members?_record]
    · simp only [List.map, defaulted_toJson]
      rfl
    · rfl
    · decide

instance : LawfulForm StorageNodeParams where
  ofJson?_toJson params := by
    rw [toJson, ofJson?, instJsonFormStorageNodeParams]
    dsimp only
    rw [members?_record]
    · simp only [List.map, required_toJson, defaulted_toJson]
      rfl
    · rfl
    · decide

instance : LawfulForm StorageDirectory where
  ofJson?_toJson directory := by
    rw [toJson, ofJson?, instJsonFormStorageDirectory]
    dsimp only
    rw [members?_record]
    · simp only [List.map, required_toJson]
      rfl
    · rfl
    · decide

/-- A directory is written as an object, so it is told apart from none. -/
instance : LawfulForm (Option StorageDirectory) where
  ofJson?_toJson directory := ofJson?_option (fun _ written => by cases written) directory

theorem settings?_map (settings : List Setting) :
    settings? (settings.map fun setting => (some setting.name, .text setting.value)) =
      some settings := by
  induction settings with
  | nil => rfl
  | cons setting rest ih =>
      rw [List.map_cons, text, settings?, ih]
      rfl

instance : LawfulForm ParameterMap where
  ofJson?_toJson map := by
    change (settings? ((map.toList.map fun setting =>
      (setting.name, text setting.value)).map fun member => (some member.1, member.2))).map
        KeyedMap.ofList = _
    rw [List.map_map]
    exact (congrArg (Option.map KeyedMap.ofList) (settings?_map map.toList)).trans
      (congrArg some map.ofList_toList)

instance : LawfulForm ReplicaParams where
  ofJson?_toJson params := by
    rw [toJson, ofJson?, instJsonFormReplicaParams]
    dsimp only
    rw [members?_record]
    · simp only [List.map, required_toJson, defaulted_toJson]
      rfl
    · rfl
    · decide

instance : LawfulForm Parameters where
  ofJson?_toJson parameters := by
    rw [toJson, ofJson?, instJsonFormParameters]
    dsimp only
    rw [members?_record]
    · simp only [List.map, defaulted_toJson]
      rfl
    · rfl
    · decide

end ShardControl
