import ShardControl.Json.Form
import ShardControl.Parameters.Basic

/-!
# Written forms of topology and parameters

Every domain type as structured text: ids are numbers or pairs, choices are
names, and maps are lists that the ids of their entries order.
-/

namespace ShardControl

open Json

instance : JsonForm DatacenterId where
  toJson id := toJson id.num
  ofJson? value := (ofJson? value).map DatacenterId.mk

instance : JsonForm StorageNodeId where
  toJson id := toJson id.num
  ofJson? value := (ofJson? value).map StorageNodeId.mk

instance : JsonForm ShardId where
  toJson id := toJson id.num
  ofJson? value := (ofJson? value).map ShardId.mk

instance : JsonForm ReplicaId where
  toJson id := .record [("shard", toJson id.shard), ("node_num", toJson id.num)]
  ofJson? value :=
    match members? [member "shard", member "node_num"] value with
    | some [shard, number] => return { shard := ← required shard, num := ← required number }
    | _ => none

instance : JsonForm ArbiterId where
  toJson id := .record [("shard", toJson id.shard), ("node_num", toJson id.num)]
  ofJson? value :=
    match members? [member "shard", member "node_num"] value with
    | some [shard, number] => return { shard := ← required shard, num := ← required number }
    | _ => none

/-- A resource is an object of one member, which names its kind. -/
instance : JsonForm ResourceId where
  toJson
    | .storageNode id => .record [("StorageNode", toJson id)]
    | .replica id => .record [("ReplicaNode", toJson id)]
    | .arbiter id => .record [("ArbiterNode", toJson id)]
    | .admin number => .record [("Admin", toJson number)]
  ofJson?
    | .obj [(some "StorageNode", value)] => (ofJson? value).map .storageNode
    | .obj [(some "ReplicaNode", value)] => (ofJson? value).map .replica
    | .obj [(some "ArbiterNode", value)] => (ofJson? value).map .arbiter
    | .obj [(some "Admin", value)] => (ofJson? value).map .admin
    | _ => none

/-! ## Topology -/

instance : JsonForm DatacenterType where
  toJson
    | .primary => .text "Primary"
    | .secondary => .text "Secondary"
  ofJson? value :=
    match choice? value with
    | some "Primary" => some .primary
    | some "Secondary" => some .secondary
    | _ => none

instance : JsonForm Datacenter where
  toJson datacenter :=
    .record
      [("id", toJson datacenter.id), ("name", toJson datacenter.name),
       ("datacenter_type", toJson datacenter.kind)]
  ofJson? value :=
    match members? [member "id", member "name", member "datacenter_type"] value with
    | some [id, name, kind] =>
        return { id := ← required id, name := ← required name, kind := ← required kind }
    | _ => none

instance : JsonForm StorageNode where
  toJson node :=
    .record
      [("id", toJson node.id), ("datacenter", toJson node.datacenter),
       ("hostname", toJson node.hostname), ("registry_port", toJson node.registryPort)]
  ofJson? value :=
    match members? [member "id", member "datacenter", member "hostname", member "registry_port"]
        value with
    | some [id, datacenter, hostname, registryPort] =>
        return {
          id := ← required id
          datacenter := ← required datacenter
          hostname := ← required hostname
          registryPort := ← required registryPort }
    | _ => none

instance : JsonForm Replica where
  toJson replica :=
    .record [("id", toJson replica.id), ("storage_node", toJson replica.storageNode)]
  ofJson? value :=
    match members? [member "id", member "storage_node"] value with
    | some [id, storageNode] =>
        return { id := ← required id, storageNode := ← required storageNode }
    | _ => none

instance : JsonForm Arbiter where
  toJson arbiter :=
    .record [("id", toJson arbiter.id), ("storage_node", toJson arbiter.storageNode)]
  ofJson? value :=
    match members? [member "id", member "storage_node"] value with
    | some [id, storageNode] =>
        return { id := ← required id, storageNode := ← required storageNode }
    | _ => none

instance : JsonForm Shard where
  toJson shard :=
    .record
      [("id", toJson shard.id), ("replicas", toJson shard.replicas),
       ("arbiters", toJson shard.arbiters), ("next_node_num", toJson shard.nextNum)]
  ofJson? value :=
    match members? [member "id", member "replicas", member "arbiters", member "next_node_num"]
        value with
    | some [id, replicas, arbiters, nextNum] =>
        return {
          id := ← required id
          replicas := ← required replicas
          arbiters := ← required arbiters
          nextNum := ← required nextNum }
    | _ => none

instance : JsonForm Topology where
  toJson topology :=
    .record
      [("store_name", toJson topology.storeName), ("sequence", toJson topology.sequence),
       ("datacenters", toJson topology.datacenters),
       ("storage_nodes", toJson topology.storageNodes), ("shards", toJson topology.shards)]
  ofJson? value :=
    match members?
        [member "store_name", member "sequence", member "datacenters", member "storage_nodes",
         member "shards"] value with
    | some [storeName, sequence, datacenters, storageNodes, shards] =>
        return {
          storeName := ← required storeName
          sequence := ← required sequence
          datacenters := ← required datacenters
          storageNodes := ← required storageNodes
          shards := ← required shards }
    | _ => none

/-! ## Parameters -/

instance : JsonForm NodeType where
  toJson
    | .electable => .text "Electable"
    | .secondary => .text "Secondary"
  ofJson? value :=
    match choice? value with
    | some "Electable" => some .electable
    | some "Secondary" => some .secondary
    | _ => none

instance : JsonForm PortRange where
  toJson range := .record [("start", toJson range.first), ("end", toJson range.last)]
  ofJson? value :=
    match members? [member "start", member "end"] value with
    | some [first, last] => return { first := ← required first, last := ← required last }
    | _ => none

instance : JsonForm Policies where
  toJson policies :=
    .record
      [("new_node_retry_time_ms", toJson policies.newNodeRetryTime),
       ("cleanup_retry_delay_ms", toJson policies.cleanupRetryDelay),
       ("replica_cache_percent", toJson policies.replicaCachePercent),
       ("replica_heap_percent", toJson policies.replicaHeapPercent),
       ("arbiter_heap_mb", toJson policies.arbiterHeapMb),
       ("max_heap_mb", toJson policies.maxHeapMb)]
  ofJson? value :=
    match members?
        [member "new_node_retry_time_ms", member "cleanup_retry_delay_ms",
         member "replica_cache_percent", member "replica_heap_percent",
         member "arbiter_heap_mb", member "max_heap_mb"] value with
    | some [retryTime, retryDelay, cachePercent, heapPercent, arbiterHeap, maxHeap] =>
        return {
          newNodeRetryTime := ← defaulted Policies.standard.newNodeRetryTime retryTime
          cleanupRetryDelay := ← defaulted Policies.standard.cleanupRetryDelay retryDelay
          replicaCachePercent := ← defaulted Policies.standard.replicaCachePercent cachePercent
          replicaHeapPercent := ← defaulted Policies.standard.replicaHeapPercent heapPercent
          arbiterHeapMb := ← defaulted Policies.standard.arbiterHeapMb arbiterHeap
          maxHeapMb := ← defaulted Policies.standard.maxHeapMb maxHeap }
    | _ => none

instance : JsonForm StorageNodeParams where
  toJson params :=
    .record
      [("id", toJson params.id), ("ha_hostname", toJson params.haHostname),
       ("ha_port_range", toJson params.haPorts), ("memory_mb", toJson params.memoryMb),
       ("num_cpus", toJson params.numCpus), ("capacity", toJson params.capacity)]
  ofJson? value :=
    match members?
        [member "id", member "ha_hostname", member "ha_port_range", member "memory_mb",
         member "num_cpus", member "capacity"] value with
    | some [id, haHostname, haPorts, memoryMb, numCpus, capacity] =>
        return {
          id := ← required id
          haHostname := ← required haHostname
          haPorts := ← required haPorts
          memoryMb := ← defaulted 0 memoryMb
          numCpus := ← defaulted 0 numCpus
          capacity := ← defaulted 1 capacity }
    | _ => none

instance : JsonForm StorageDirectory where
  toJson directory :=
    .record [("path", toJson directory.path), ("size_bytes", toJson directory.size)]
  ofJson? value :=
    match members? [member "path", member "size_bytes"] value with
    | some [path, size] => return { path := ← required path, size := ← required size }
    | _ => none

def settings? : List (JsonText × Json) → Option (List Setting)
  | [] => some []
  | (some name, .str (some value)) :: rest => (settings? rest).map (⟨name, value⟩ :: ·)
  | _ :: _ => none

/-- A parameter map is an object; the last value of a repeated name counts. -/
instance : JsonForm ParameterMap where
  toJson map := .record (map.toList.map fun setting => (setting.name, .text setting.value))
  ofJson?
    | .obj listed => (settings? listed).map KeyedMap.ofList
    | _ => none

instance : JsonForm ReplicaParams where
  toJson params :=
    .record
      [("id", toJson params.id), ("storage_node", toJson params.storageNode),
       ("disabled", toJson params.disabled), ("ha_hostname", toJson params.haHostname),
       ("ha_port", toJson params.haPort), ("helper_hosts", toJson params.helperHosts),
       ("storage_directory", toJson params.directory), ("node_type", toJson params.nodeType),
       ("heap_mb", toJson params.heapMb), ("cache_bytes", toJson params.cacheBytes),
       ("cache_percent", toJson params.cachePercent), ("gc_threads", toJson params.gcThreads),
       ("policies", toJson params.policies)]
  ofJson? value :=
    match members?
        [member "id", member "storage_node", member "disabled", member "ha_hostname",
         member "ha_port", member "helper_hosts", nullable "storage_directory",
         member "node_type", member "heap_mb", member "cache_bytes", member "cache_percent",
         member "gc_threads", member "policies"] value with
    | some [id, storageNode, disabled, haHostname, haPort, helperHosts, directory, nodeType,
        heapMb, cacheBytes, cachePercent, gcThreads, policies] =>
        return {
          id := ← required id
          storageNode := ← required storageNode
          disabled := ← required disabled
          haHostname := ← required haHostname
          haPort := ← required haPort
          helperHosts := ← required helperHosts
          directory := ← required directory
          nodeType := ← required nodeType
          heapMb := ← required heapMb
          cacheBytes := ← required cacheBytes
          cachePercent := ← required cachePercent
          gcThreads := ← required gcThreads
          policies := ← defaulted ∅ policies }
    | _ => none

instance : JsonForm Parameters where
  toJson parameters :=
    .record
      [("policies", toJson parameters.policies),
       ("storage_nodes", toJson parameters.storageNodes),
       ("replicas", toJson parameters.replicas)]
  ofJson? value :=
    match members? [member "policies", member "storage_nodes", member "replicas"] value with
    | some [policies, storageNodes, replicas] =>
        return {
          policies := ← defaulted .standard policies
          storageNodes := ← defaulted ∅ storageNodes
          replicas := ← defaulted ∅ replicas }
    | _ => none

end ShardControl
