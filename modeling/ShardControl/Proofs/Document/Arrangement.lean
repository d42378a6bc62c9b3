import Mathlib.Logic.Relation
import ShardControl.Proofs.Document.RoundTrip
import ShardControl.Proofs.Json.Arrangement

/-!
# Rearranged documents

Every list of a document is read as a map that the ids of its entries order.
Two values of a document that differ in the arrangement of such lists are read
as the same document, so its digest is right for both or for none.  A document
that is read holds, under every id, the last entry listed with it, carries the
sequence and the digest of what it holds, and is written with every list in
the order of the ids.
-/

namespace ShardControl

open Json

/-! ## Values with rearranged lists -/

/-- One list of a shard is rearranged. -/
inductive Shard.Rearranged : Json → Json → Prop where
  | replicas {v w : Json} (changed : AtMember "replicas" 1 (Json.Rearranged Replica) v w) :
      Rearranged v w
  | arbiters {v w : Json} (changed : AtMember "arbiters" 2 (Json.Rearranged Arbiter) v w) :
      Rearranged v w

/-- One list of a topology is rearranged, or one of a shard that the topology lists. -/
inductive Topology.Rearranged : Json → Json → Prop where
  | datacenters {v w : Json}
      (changed : AtMember "datacenters" 2 (Json.Rearranged Datacenter) v w) : Rearranged v w
  | storageNodes {v w : Json}
      (changed : AtMember "storage_nodes" 3 (Json.Rearranged StorageNode) v w) : Rearranged v w
  | shards {v w : Json} (changed : AtMember "shards" 4 (Json.Rearranged Shard) v w) :
      Rearranged v w
  | shard {v w : Json} (changed : AtMember "shards" 4 (AtItem Shard.Rearranged) v w) :
      Rearranged v w

inductive Parameters.Rearranged : Json → Json → Prop where
  | storageNodes {v w : Json}
      (changed : AtMember "storage_nodes" 1 (Json.Rearranged StorageNodeParams) v w) :
      Rearranged v w
  | replicas {v w : Json} (changed : AtMember "replicas" 2 (Json.Rearranged ReplicaParams) v w) :
      Rearranged v w

inductive Document.Rearranged : Json → Json → Prop where
  | topology {v w : Json} (changed : AtMember "topology" 3 Topology.Rearranged v w) :
      Rearranged v w
  | parameters {v w : Json} (changed : AtMember "parameters" 4 Parameters.Rearranged v w) :
      Rearranged v w

/-- Lists in a document are rearranged one after the other, in any number. -/
def Document.Arranges : Json → Json → Prop := Relation.ReflTransGen Document.Rearranged

variable {v w : Json}

/-! ## They are read alike -/

theorem Shard.alike_of_member
    (changed : AtMember "replicas" 1 (Alike (KeyedMap Replica)) v w ∨
      AtMember "arbiters" 2 (Alike (KeyedMap Arbiter)) v w) : Alike Shard v w := by
  rw [Alike, ofJson?, instJsonFormShard]
  dsimp only
  rcases changed with changed | changed
  all_goals
    obtain ⟨missing, absent⟩ | ⟨values, old, new, alike, readV, readW⟩ :=
      changed.members?_cases [member "id", member "replicas", member "arbiters",
        member "next_node_num"] rfl (by decide)
    · rw [missing, absent]
    · rw [readV, readW]
      rcases values with _ | ⟨_, _ | ⟨_, _ | ⟨_, _ | ⟨_, _ | _⟩⟩⟩⟩ <;> try rfl
      simp only [List.set, alike.required]

theorem Topology.alike_of_member
    (changed : AtMember "datacenters" 2 (Alike (KeyedMap Datacenter)) v w ∨
      AtMember "storage_nodes" 3 (Alike (KeyedMap StorageNode)) v w ∨
      AtMember "shards" 4 (Alike (KeyedMap Shard)) v w) : Alike Topology v w := by
  rw [Alike, ofJson?, instJsonFormTopology]
  dsimp only
  rcases changed with changed | changed | changed
  all_goals
    obtain ⟨missing, absent⟩ | ⟨values, old, new, alike, readV, readW⟩ :=
      changed.members?_cases [member "store_name", member "sequence", member "datacenters",
        member "storage_nodes", member "shards"] rfl (by decide)
    · rw [missing, absent]
    · rw [readV, readW]
      rcases values with _ | ⟨_, _ | ⟨_, _ | ⟨_, _ | ⟨_, _ | ⟨_, _ | _⟩⟩⟩⟩⟩ <;> try rfl
      simp only [List.set, alike.required]

theorem Parameters.alike_of_member
    (changed : AtMember "storage_nodes" 1 (Alike (KeyedMap StorageNodeParams)) v w ∨
      AtMember "replicas" 2 (Alike (KeyedMap ReplicaParams)) v w) : Alike Parameters v w := by
  rw [Alike, ofJson?, instJsonFormParameters]
  dsimp only
  rcases changed with changed | changed
  all_goals
    obtain ⟨missing, absent⟩ | ⟨values, old, new, alike, readV, readW⟩ :=
      changed.members?_cases [member "policies", member "storage_nodes", member "replicas"] rfl
        (by decide)
    · rw [missing, absent]
    · rw [readV, readW]
      rcases values with _ | ⟨_, _ | ⟨_, _ | ⟨_, _ | _⟩⟩⟩ <;> try rfl
      simp only [List.set, alike.defaulted]

theorem Document.alike_of_member
    (changed : AtMember "topology" 3 (Alike Topology) v w ∨
      AtMember "parameters" 4 (Alike Parameters) v w) : Alike Document v w := by
  rw [Alike, ofJson?, Document.instJsonForm]
  dsimp only
  rcases changed with changed | changed
  all_goals
    obtain ⟨missing, absent⟩ | ⟨values, old, new, alike, readV, readW⟩ :=
      changed.members?_cases [member "schema_version", member "sequence", member "digest",
        member "topology", member "parameters"] rfl (by decide)
    · rw [missing, absent]
    · rw [readV, readW]
      rcases values with _ | ⟨_, _ | ⟨_, _ | ⟨_, _ | ⟨_, _ | ⟨_, _ | _⟩⟩⟩⟩⟩ <;> try rfl
      simp only [List.set, alike.required]

theorem Shard.Rearranged.alike (changed : Shard.Rearranged v w) : Alike Shard v w := by
  refine Shard.alike_of_member ?_
  cases changed with
  | replicas changed => exact .inl (changed.imp fun _ _ => Json.Rearranged.alike)
  | arbiters changed => exact .inr (changed.imp fun _ _ => Json.Rearranged.alike)

theorem Topology.Rearranged.alike (changed : Topology.Rearranged v w) : Alike Topology v w := by
  refine Topology.alike_of_member ?_
  cases changed with
  | datacenters changed => exact .inl (changed.imp fun _ _ => Json.Rearranged.alike)
  | storageNodes changed => exact .inr (.inl (changed.imp fun _ _ => Json.Rearranged.alike))
  | shards changed => exact .inr (.inr (changed.imp fun _ _ => Json.Rearranged.alike))
  | shard changed =>
      exact .inr (.inr (changed.imp fun _ _ item =>
        item.alike fun _ _ => Shard.Rearranged.alike))

theorem Parameters.Rearranged.alike (changed : Parameters.Rearranged v w) :
    Alike Parameters v w := by
  refine Parameters.alike_of_member ?_
  cases changed with
  | storageNodes changed => exact .inl (changed.imp fun _ _ => Json.Rearranged.alike)
  | replicas changed => exact .inr (changed.imp fun _ _ => Json.Rearranged.alike)

namespace Document

theorem Rearranged.alike (changed : Rearranged v w) : Alike Document v w := by
  refine alike_of_member ?_
  cases changed with
  | topology changed => exact .inl (changed.imp fun _ _ => Topology.Rearranged.alike)
  | parameters changed => exact .inr (changed.imp fun _ _ => Parameters.Rearranged.alike)

/-- The version is looked for before any list is, and not in one. -/
theorem Rearranged.version?_eq (changed : Rearranged v w) : version? v = version? w := by
  cases changed with
  | topology changed => rw [version?, version?, changed.members?_eq (by decide) (by decide)]
  | parameters changed => rw [version?, version?, changed.members?_eq (by decide) (by decide)]

/-- One rearranged list makes no difference to what is read, nor to why it is refused. -/
theorem Rearranged.ofValue_eq (changed : Rearranged v w) : ofValue v = ofValue w := by
  rw [ofValue, ofValue, changed.version?_eq, changed.alike]

theorem Arranges.ofValue_eq (arranges : Arranges v w) : ofValue v = ofValue w := by
  induction arranges with
  | refl => rfl
  | tail _ changed ih => exact ih.trans changed.ofValue_eq

end Document

/-! ## What is read -/

structure Shard.Collected (value : Json) (shard : Shard) : Prop where
  replicas : Collects Replica (entries (memberAt "replicas" 1 value)) shard.replicas
  arbiters : Collects Arbiter (entries (memberAt "arbiters" 2 value)) shard.arbiters

/-- The maps of a topology collect the lists in the value it was read from, and those of each of
its shards the lists in the last entry with its id. -/
structure Topology.Collected (value : Json) (topology : Topology) : Prop where
  datacenters :
    Collects Datacenter (entries (memberAt "datacenters" 2 value)) topology.datacenters
  storageNodes :
    Collects StorageNode (entries (memberAt "storage_nodes" 3 value)) topology.storageNodes
  shards : Collects Shard (entries (memberAt "shards" 4 value)) topology.shards
  members : ∀ shard ∈ topology.shards.toList, ∃ entry,
    last? Shard shard.id (entries (memberAt "shards" 4 value)) = some entry ∧
      shard.Collected entry

structure Parameters.Collected (value : Json) (parameters : Parameters) : Prop where
  storageNodes : Collects StorageNodeParams (entries (memberAt "storage_nodes" 1 value))
    parameters.storageNodes
  replicas : Collects ReplicaParams (entries (memberAt "replicas" 2 value)) parameters.replicas

structure Document.Collected (value : Json) (document : Document) : Prop where
  topology : ∃ member, memberAt "topology" 3 value = some member ∧
    document.topology.Collected member
  parameters : ∃ member, memberAt "parameters" 4 value = some member ∧
    document.parameters.Collected member

variable {value : Json}

theorem Shard.collected {shard : Shard} (read : ofJson? value = some shard) :
    shard.Collected value := by
  rw [ofJson?, instJsonFormShard] at read
  dsimp only at read
  split at read
  · rename_i id replicas arbiters nextNum members
    simp only [bind, Option.bind_eq_some_iff, pure, Option.some.injEq] at read
    obtain ⟨_, _, _, replicasRead, _, arbitersRead, _, _, rfl⟩ := read
    cases getElem?_members? "replicas" 1 rfl members
    cases getElem?_members? "arbiters" 2 rfl members
    exact ⟨collects_of_required replicasRead, collects_of_required arbitersRead⟩
  · cases read

theorem Topology.collected {topology : Topology} (read : ofJson? value = some topology) :
    topology.Collected value := by
  rw [ofJson?, instJsonFormTopology] at read
  dsimp only at read
  split at read
  · rename_i storeName sequence datacenters storageNodes shards members
    simp only [bind, Option.bind_eq_some_iff, pure, Option.some.injEq] at read
    obtain ⟨_, _, _, _, _, datacentersRead, _, storageNodesRead, _, shardsRead, rfl⟩ := read
    cases getElem?_members? "datacenters" 2 rfl members
    cases getElem?_members? "storage_nodes" 3 rfl members
    cases getElem?_members? "shards" 4 rfl members
    have collects := collects_of_required shardsRead
    refine ⟨collects_of_required datacentersRead, collects_of_required storageNodesRead,
      collects, fun shard stored => ?_⟩
    have found := KeyedMap.find?_eq_some_iff.mpr ⟨stored, rfl⟩
    rw [collects.last] at found
    obtain ⟨entry, last, shardRead⟩ := Option.bind_eq_some_iff.mp found
    exact ⟨entry, last, Shard.collected shardRead⟩
  · cases read

theorem Parameters.collected {parameters : Parameters} (read : ofJson? value = some parameters) :
    parameters.Collected value := by
  rw [ofJson?, instJsonFormParameters] at read
  dsimp only at read
  split at read
  · rename_i policies storageNodes replicas members
    simp only [bind, Option.bind_eq_some_iff, pure, Option.some.injEq] at read
    obtain ⟨_, _, _, storageNodesRead, _, replicasRead, rfl⟩ := read
    cases getElem?_members? "storage_nodes" 1 rfl members
    cases getElem?_members? "replicas" 2 rfl members
    exact ⟨collects_of_defaulted storageNodesRead, collects_of_defaulted replicasRead⟩
  · cases read

theorem Document.collected {document : Document} (read : ofJson? value = some document) :
    document.Collected value := by
  rw [ofJson?, Document.instJsonForm] at read
  dsimp only at read
  split at read
  · rename_i version sequence digest topology parameters members
    simp only [bind, Option.bind_eq_some_iff, pure, Option.some.injEq] at read
    obtain ⟨_, _, _, _, _, _, _, topologyRead, _, parametersRead, rfl⟩ := read
    cases getElem?_members? "topology" 3 rfl members
    cases getElem?_members? "parameters" 4 rfl members
    obtain ⟨member, listed, topologyRead⟩ := Option.bind_eq_some_iff.mp topologyRead
    obtain ⟨others, alsoListed, parametersRead⟩ := Option.bind_eq_some_iff.mp parametersRead
    exact ⟨⟨member, listed, Topology.collected topologyRead⟩,
      ⟨others, alsoListed, Parameters.collected parametersRead⟩⟩
  · cases read

/-! ## What is written -/

structure Shard.Ascending (value : Json) : Prop where
  replicas : Ascends ReplicaId (entries (memberAt "replicas" 1 value))
  arbiters : Ascends ArbiterId (entries (memberAt "arbiters" 2 value))

/-- The lists of a written topology are in the order of their ids. -/
structure Topology.Ascending (value : Json) : Prop where
  datacenters : Ascends DatacenterId (entries (memberAt "datacenters" 2 value))
  storageNodes : Ascends StorageNodeId (entries (memberAt "storage_nodes" 3 value))
  shards : Ascends ShardId (entries (memberAt "shards" 4 value))
  members : ∀ entry ∈ entries (memberAt "shards" 4 value), Shard.Ascending entry

structure Parameters.Ascending (value : Json) : Prop where
  storageNodes : Ascends StorageNodeId (entries (memberAt "storage_nodes" 1 value))
  replicas : Ascends ReplicaId (entries (memberAt "replicas" 2 value))

structure Document.Ascending (value : Json) : Prop where
  topology : ∃ member, memberAt "topology" 3 value = some member ∧ Topology.Ascending member
  parameters : ∃ member, memberAt "parameters" 4 value = some member ∧
    Parameters.Ascending member

theorem Shard.ascending_toJson (shard : Shard) : Shard.Ascending (toJson shard) where
  replicas := ascends_toList (fun replica => ofJson?_toJson replica.id) shard.replicas
  arbiters := ascends_toList (fun arbiter => ofJson?_toJson arbiter.id) shard.arbiters

theorem Topology.ascending_toJson (topology : Topology) :
    Topology.Ascending (toJson topology) where
  datacenters := ascends_toList (fun datacenter => ofJson?_toJson datacenter.id)
    topology.datacenters
  storageNodes := ascends_toList (fun node => ofJson?_toJson node.id) topology.storageNodes
  shards := ascends_toList (fun shard => ofJson?_toJson shard.id) topology.shards
  members := by
    intro entry listed
    obtain ⟨shard, _, rfl⟩ := List.mem_map.mp listed
    exact shard.ascending_toJson

theorem Parameters.ascending_toJson (parameters : Parameters) :
    Parameters.Ascending (toJson parameters) where
  storageNodes := ascends_toList (fun params => ofJson?_toJson params.id)
    parameters.storageNodes
  replicas := ascends_toList (fun params => ofJson?_toJson params.id) parameters.replicas

theorem Document.ascending_toJson (document : Document) :
    Document.Ascending (toJson document) where
  topology := ⟨_, rfl, document.topology.ascending_toJson⟩
  parameters := ⟨_, rfl, document.parameters.ascending_toJson⟩

/-! ## Decoding -/

namespace Document

theorem required_version {document : Document} (read : ofJson? value = some document) :
    required (memberAt "schema_version" 0 value) = some document.version := by
  rw [ofJson?, instJsonForm] at read
  dsimp only at read
  split at read
  · rename_i members
    simp only [bind, Option.bind_eq_some_iff, pure, Option.some.injEq] at read
    obtain ⟨_, versionRead, _, _, _, _, _, _, _, _, rfl⟩ := read
    cases getElem?_members? "schema_version" 0 rfl members
    exact versionRead
  · cases read

/-- The version that is checked is the one that the document then has. -/
theorem version_eq_of_version? {document : Document} {found : UInt16}
    (named : version? value = some found) (read : ofJson? value = some document) :
    document.version = found := by
  rw [version?] at named
  split at named
  · rename_i members
    cases getElem?_members? "schema_version" 0 rfl members
    rw [required_version read] at named
    exact Option.some.inj named
  · cases named

/-- A document of the format's version that agrees with itself is the one made of the topology and
the parameters that it holds. -/
theorem eq_make_of_verify {document other : Document} (version : document.version = formatVersion)
    (verified : (document.verify.map fun _ => document) = .ok other) :
    other = document ∧ document = make document.topology document.parameters := by
  rw [map_verify] at verified
  split at verified
  · cases verified
  · rename_i sequence
    split at verified
    · cases verified
    · rename_i digest
      cases verified
      obtain ⟨header, number, recorded, topology, parameters⟩ := document
      refine ⟨rfl, ?_⟩
      rw [make, Document.mk.injEq]
      exact ⟨version, not_not.mp sequence, (not_not.mp digest).symm, rfl, rfl⟩

/-- A document that is decoded was read from the value of its text, and is the one made of the
topology and the parameters that it holds. -/
theorem eq_make_of_decode {bytes : ByteArray} {document : Document}
    (decoded : decode bytes = .ok document) :
    ∃ value, ofBytes? bytes = some value ∧ ofJson? value = some document ∧
      document = make document.topology document.parameters := by
  rw [decode] at decoded
  split at decoded
  · cases decoded
  · rename_i value text
    rw [ofValue] at decoded
    split at decoded
    · cases decoded
    · rename_i found named
      split at decoded
      · cases decoded
      · rename_i supported
        split at decoded
        · cases decoded
        · rename_i other read
          have version := (version_eq_of_version? named read).trans (not_not.mp supported)
          obtain ⟨rfl, made⟩ := eq_make_of_verify version decoded
          exact ⟨value, text, read, made⟩

/-- What a decoded document has to do with the text it was decoded from, and with the text it is
written as. -/
structure Settled (bytes : ByteArray) (document : Document) : Prop where
  collected : ∃ value, ofBytes? bytes = some value ∧ document.Collected value
  made : document = make document.topology document.parameters
  written : ∃ value, ofBytes? document.encode.toUTF8 = some value ∧ Ascending value
  stable : decode document.encode.toUTF8 = .ok document

/-- Decoding is canonical. Texts that differ in the arrangement of their lists are decoded alike,
or refused for the same reason; and a decoded document is settled. -/
theorem decodes_arranged :
    (∀ {v w : Json} {bytes others : ByteArray}, Arranges v w → ofBytes? bytes = some v →
      ofBytes? others = some w → decode others = decode bytes) ∧
    (∀ {bytes : ByteArray} {document : Document}, decode bytes = .ok document →
      document.Settled bytes) := by
  constructor
  · intro v w bytes others arranges text otherText
    rw [decode, decode, text, otherText]
    exact arranges.ofValue_eq.symm
  · intro bytes document decoded
    obtain ⟨value, text, read, made⟩ := eq_make_of_decode decoded
    refine ⟨⟨value, text, collected read⟩, made, ?_, ?_⟩
    · exact ⟨toJson document, ofBytes?_indented _, document.ascending_toJson⟩
    · rw [made]
      exact decode_encode_make document.topology document.parameters

/-- The value of a document with other entries in the list of its datacenters. -/
def listing (document : Document) (datacenters : List Json) : Json :=
  .record
    [("schema_version", toJson document.version), ("sequence", toJson document.sequence),
     ("digest", toJson document.digest),
     ("topology", .record
       [("store_name", toJson document.topology.storeName),
        ("sequence", toJson document.topology.sequence), ("datacenters", .arr datacenters),
        ("storage_nodes", toJson document.topology.storageNodes),
        ("shards", toJson document.topology.shards)]),
     ("parameters", toJson document.parameters)]

theorem arranges_listing (document : Document) {listed arranged : List Json}
    (rearranges : Rearranges Datacenter listed arranged) :
    Arranges (document.listing listed) (document.listing arranged) :=
  .single (.topology (.named [_, _, _] [_]
    (.datacenters (.named [_, _] [_, _] (.list rearranges)))))

def east : Datacenter := ⟨⟨1⟩, "east", .primary⟩
def west : Datacenter := ⟨⟨2⟩, "west", .secondary⟩

def twoSided : Document :=
  make { Topology.named "store" with datacenters := KeyedMap.ofList [east, west] }
    (.ofPolicies .standard)

/-- The document is decoded from a text that lists its datacenters in the other order, below an
earlier entry of one of them, and it is settled. -/
theorem decodes_swapped :
    let text := (twoSided.listing
      [toJson { west with name := "far west" }, toJson west, toJson east]).compact.toUTF8
    Arranges (toJson twoSided) (twoSided.listing
      [toJson { west with name := "far west" }, toJson west, toJson east]) ∧
    decode text = .ok twoSided ∧ twoSided.Settled text := by
  have carried (datacenter : Datacenter) :
      keyOf? Datacenter (toJson datacenter) = some datacenter.id := by
    rw [keyOf?, ofJson?_toJson]
    rfl
  have swapped : Rearranges Datacenter [toJson east, toJson west] [toJson west, toJson east] := by
    refine .of_swapped [] [] fun k first second => ?_
    rw [carried] at first second
    exact absurd (Option.some.inj (first.trans second.symm)) (by decide)
  have shadowed : Rearranges Datacenter [toJson west, toJson east]
      [toJson { west with name := "far west" }, toJson west, toJson east] :=
    .of_shadowed [] (carried _) ⟨toJson west, List.mem_cons_self, carried west⟩
  have arranges := (arranges_listing twoSided swapped).trans (arranges_listing twoSided shadowed)
  have decoded := (decodes_arranged.1 arranges (ofBytes?_indented _) (ofBytes?_compact _)).trans
    (decode_encode_make _ _)
  exact ⟨arranges, decoded, decodes_arranged.2 decoded⟩

end Document

end ShardControl
