import ShardControl.Proofs.Port.Ledger

/-!
# Ports in the order of requests

However requests for ports are mixed, each storage node gives out its free
ports from the lowest to the highest and refuses every request after that.
What a ledger answers for one storage node does not depend on the requests for
others.
-/

namespace ShardControl

namespace PortUse

variable {use : PortUse} {range : PortRange} {port : UInt16}

def free (use : PortUse) (range : PortRange) : List UInt16 :=
  range.ports.filter fun port => !use.taken.contains port

theorem lowestFree?_eq_head? (use : PortUse) (range : PortRange) :
    use.lowestFree? range = (use.free range).head? :=
  List.head?_filter.symm

theorem pairwise_free (use : PortUse) (range : PortRange) : (use.free range).Pairwise (· < ·) :=
  range.pairwise_ports.filter _

theorem mem_free_iff :
    port ∈ use.free range ↔ range.contains port = true ∧ use.taken.contains port = false := by
  rw [free, List.mem_filter, PortRange.mem_ports_iff, Bool.not_eq_true']

theorem contains_take (use : PortUse) (port other : UInt16) :
    (use.take port).taken.contains other = (decide (port = other) || use.taken.contains other) := by
  rw [take, KeyedMap.contains, KeyedMap.find?_insert]
  change (if port = other then _ else _ : Option UInt16).isSome = _
  by_cases same : port = other
  · rw [if_pos same, decide_eq_true same]
    rfl
  · rw [if_neg same, decide_eq_false same]
    rfl

/-- A port that is taken is free no more, and nothing else changes. -/
theorem free_take {rest : List UInt16} (lowest : use.free range = port :: rest) :
    (use.take port).free range = rest := by
  have ordered := use.pairwise_free range
  rw [lowest, List.pairwise_cons] at ordered
  have narrowed : (use.take port).free range =
      (use.free range).filter fun other => port ≠ other := by
    rw [free, free, List.filter_filter]
    refine List.filter_congr fun other _ => ?_
    rw [contains_take, Bool.not_or, decide_not]
  rw [narrowed, lowest, List.filter_cons_of_neg (by simp)]
  exact List.filter_eq_self.mpr fun other member =>
    decide_eq_true (UInt16.ne_of_lt (ordered.1 other member))

end PortUse

namespace PortLedger

/-! ## Requests -/

/-- Answer a request; one that is refused leaves the ledger as it is. -/
def serve (ledger : PortLedger) (node : StorageNodeId) : Except PortError UInt16 × PortLedger :=
  match ledger.next node with
  | .ok (port, after) => (.ok port, after)
  | .error reason => (.error reason, ledger)

abbrev Reply : Type := StorageNodeId × Except PortError UInt16

def serveAll (ledger : PortLedger) : List StorageNodeId → List Reply × PortLedger
  | [] => ([], ledger)
  | node :: rest =>
      let later := (ledger.serve node).2.serveAll rest
      ((node, (ledger.serve node).1) :: later.1, later.2)

/-- The ports that were given out on a storage node, in the order of the requests. -/
def granted (replies : List Reply) (node : StorageNodeId) : List UInt16 :=
  replies.filterMap fun reply => if reply.1 = node then reply.2.toOption else none

structure Stock where
  range : PortRange
  /-- What nobody holds, the lowest port first. -/
  free : List UInt16

def stock? (ledger : PortLedger) (node : StorageNodeId) : Option Stock :=
  (ledger.find? node).bind fun use => use.range.map fun range => ⟨range, use.free range⟩

def answer (node : StorageNodeId) : Option Stock → Except PortError UInt16
  | none => .error (.unknownStorageNode node)
  | some ⟨range, []⟩ => .error (.exhausted node range)
  | some ⟨_, port :: _⟩ => .ok port

variable {ledger other : PortLedger} {node place : StorageNodeId}

/-- Everything that a request can do. -/
theorem serve_cases (ledger : PortLedger) (node : StorageNodeId) :
    ledger.stock? node = none ∧ ledger.serve node = (.error (.unknownStorageNode node), ledger) ∨
    (∃ range, ledger.stock? node = some ⟨range, []⟩ ∧
      ledger.serve node = (.error (.exhausted node range), ledger)) ∨
    ∃ use range port rest, ledger.find? node = some use ∧ use.range = some range ∧
      use.free range = port :: rest ∧
        ledger.serve node = (.ok port, ledger.insert (use.take port)) := by
  cases found : ledger.find? node with
  | none => exact .inl ⟨by simp [stock?, found], by simp [serve, next, found]⟩
  | some use =>
      cases ranged : use.range with
      | none => exact .inl ⟨by simp [stock?, found, ranged], by simp [serve, next, found, ranged]⟩
      | some range =>
          have lowest := use.lowestFree?_eq_head? range
          cases free : use.free range with
          | nil =>
              rw [free, List.head?_nil] at lowest
              exact .inr (.inl ⟨range, by simp [stock?, found, ranged, free],
                by simp [serve, next, found, ranged, lowest]⟩)
          | cons port rest =>
              rw [free, List.head?_cons] at lowest
              exact .inr (.inr ⟨use, range, port, rest, rfl, ranged, free,
                by simp [serve, next, found, ranged, lowest]⟩)

theorem serve_answer (ledger : PortLedger) (node : StorageNodeId) :
    (ledger.serve node).1 = answer node (ledger.stock? node) := by
  obtain ⟨stock, served⟩ | ⟨range, stock, served⟩ | ⟨use, range, port, rest, found, ranged, free,
    served⟩ := ledger.serve_cases node
  · rw [served, stock]
    rfl
  · rw [served, stock]
    rfl
  · rw [served, stock?, found, Option.bind_some, ranged, Option.map_some, free]
    rfl

theorem serve_of_refused {reason : PortError} (refused : (ledger.serve node).1 = .error reason) :
    ledger.serve node = (.error reason, ledger) := by
  obtain ⟨_, served⟩ | ⟨_, _, served⟩ | ⟨_, _, _, _, _, _, _, served⟩ := ledger.serve_cases node
  · rw [served] at refused ⊢
    cases refused
    rfl
  · rw [served] at refused ⊢
    cases refused
    rfl
  · rw [served] at refused
    cases refused

/-- A request takes the lowest port of its storage node and nothing else. -/
theorem stock?_serve (ledger : PortLedger) (node place : StorageNodeId) :
    (ledger.serve node).2.stock? place =
      if node = place then
        (ledger.stock? place).map fun stock => { stock with free := stock.free.tail }
      else ledger.stock? place := by
  obtain ⟨stock, served⟩ | ⟨range, stock, served⟩ | ⟨use, range, port, rest, found, ranged, free,
    served⟩ := ledger.serve_cases node
  · rw [served]
    split
    · rename_i same
      rw [← same, stock]
      rfl
    · rfl
  · rw [served]
    split
    · rename_i same
      rw [← same, stock]
      rfl
    · rfl
  · have named : use.node = node := KeyedMap.key_of_find? found
    have looked : (ledger.insert (use.take port)).find? place =
        if node = place then some (use.take port) else ledger.find? place :=
      named ▸ KeyedMap.find?_insert ledger (use.take port) place
    rw [served, stock?, looked]
    split
    · rename_i same
      have kept : (use.take port).range = some range := ranged
      rw [← same, stock?, found, Option.bind_some, Option.bind_some, ranged, kept,
        Option.map_some, Option.map_some, Option.map_some, PortUse.free_take free, free,
        List.tail_cons]
    · rfl

/-! ## Sequences of requests -/

theorem serveAll_append (ledger : PortLedger) (before after : List StorageNodeId) :
    ledger.serveAll (before ++ after) =
      ((ledger.serveAll before).1 ++ ((ledger.serveAll before).2.serveAll after).1,
       ((ledger.serveAll before).2.serveAll after).2) := by
  induction before generalizing ledger with
  | nil => rfl
  | cons node rest ih => rw [List.cons_append, serveAll, ih]; rfl

theorem map_fst_serveAll (ledger : PortLedger) (requests : List StorageNodeId) :
    (ledger.serveAll requests).1.map Prod.fst = requests := by
  induction requests generalizing ledger with
  | nil => rfl
  | cons node rest ih => exact congrArg (node :: ·) (ih _)

/-- Every request for a storage node takes one port of its stock. -/
theorem stock?_serveAll (ledger : PortLedger) (requests : List StorageNodeId)
    (place : StorageNodeId) :
    (ledger.serveAll requests).2.stock? place = (ledger.stock? place).map fun stock =>
      { stock with free := stock.free.drop (requests.count place) } := by
  induction requests generalizing ledger with
  | nil => simp [serveAll]
  | cons node rest ih =>
      rw [serveAll, ih, stock?_serve]
      by_cases same : node = place
      · subst same
        simp [Function.comp_def]
      · rw [if_neg same, List.count_cons_of_ne same]

theorem granted_cons (reply : Reply) (replies : List Reply) (place : StorageNodeId) :
    granted (reply :: replies) place =
      (if reply.1 = place then reply.2.toOption.toList else []) ++ granted replies place := by
  rw [granted, List.filterMap_cons]
  split
  · split <;> simp_all [granted]
  · split <;> simp_all [granted]

/-- A storage node gives out the first ports of its stock. -/
theorem granted_serveAll (ledger : PortLedger) (requests : List StorageNodeId)
    (place : StorageNodeId) :
    granted (ledger.serveAll requests).1 place =
      ((ledger.stock? place).elim [] Stock.free).take (requests.count place) := by
  induction requests generalizing ledger with
  | nil => rfl
  | cons node rest ih =>
      rw [serveAll, granted_cons, ih, stock?_serve]
      by_cases same : node = place
      · subst same
        rw [if_pos rfl, if_pos rfl, serve_answer, List.count_cons_self]
        cases ledger.stock? node with
        | none => simp [answer, Except.toOption]
        | some stock =>
            obtain ⟨range, free⟩ := stock
            cases free <;> simp [answer, Except.toOption]
      · rw [if_neg same, if_neg same, List.count_cons_of_ne same]
        rfl

/-- What is answered for a storage node depends on its stock and on the requests for it. -/
theorem filter_serveAll (requests : List StorageNodeId)
    (same : ledger.stock? place = other.stock? place) :
    (ledger.serveAll requests).1.filter (fun reply => reply.1 = place) =
      (other.serveAll (requests.filter fun node => node = place)).1 := by
  induction requests generalizing ledger other with
  | nil => rfl
  | cons node rest ih =>
      by_cases own : node = place
      · subst own
        rw [serveAll, List.filter_cons_of_pos (by simp), List.filter_cons_of_pos (by simp),
          serveAll, serve_answer, serve_answer, same]
        refine congrArg _ (ih ?_)
        rw [stock?_serve, stock?_serve, same]
      · rw [serveAll, List.filter_cons_of_neg (by simpa using own),
          List.filter_cons_of_neg (by simpa using own)]
        refine ih ?_
        rw [stock?_serve, if_neg own, same]

/-! ## Ledgers of topologies -/

section

variable (topology : Topology) (parameters : Parameters)

/-- The topology lists the storage node, and the parameters describe it. -/
structure Hosts (node : StorageNodeId) (host : StorageNodeParams) : Prop where
  listed : topology.storageNodes.contains node = true
  described : parameters.storageNode? node = some host

/-- A port in the range of the storage node that no replica placed there is stored with. -/
structure Offers (node : StorageNodeId) (port : UInt16) : Prop where
  inRange : ∃ host, Hosts topology parameters node host ∧ host.haPorts.contains port = true
  free : ∀ replica ∈ topology.replicas, replica.storageNode = node →
    ∀ params, parameters.replica? replica.id = some params → params.haPort ≠ port

/-- What a storage node answers after earlier requests: the lowest port that it offers and has not
given out, or why there is none. -/
def Answers (earlier : List Reply) (node : StorageNodeId) : Except PortError UInt16 → Prop
  | .ok port => Offers topology parameters node port ∧ port ∉ granted earlier node ∧
      ∀ other, Offers topology parameters node other → other ∉ granted earlier node → port ≤ other
  | .error (.exhausted named range) => named = node ∧
      (∃ host, Hosts topology parameters node host ∧ range = host.haPorts) ∧
      ∀ port, Offers topology parameters node port → port ∈ granted earlier node
  | .error (.unknownStorageNode named) => named = node ∧
      ∀ host, ¬ Hosts topology parameters node host

structure Allots (requests : List StorageNodeId) : Prop where
  /-- Every request is answered in its turn. -/
  answered : ((ofTopology topology parameters).serveAll requests).1.map Prod.fst = requests
  answers : ∀ earlier node answer later,
    ((ofTopology topology parameters).serveAll requests).1 = earlier ++ (node, answer) :: later →
      Answers topology parameters earlier node answer
  increasing : ∀ node,
    (granted ((ofTopology topology parameters).serveAll requests).1 node).Pairwise (· < ·)
  /-- As many requests succeed as there are free ports, if as many are made. -/
  length_granted : ∀ node (free : List UInt16), free.Nodup →
    (∀ port, port ∈ free ↔ Offers topology parameters node port) →
      (granted ((ofTopology topology parameters).serveAll requests).1 node).length =
        min (requests.count node) free.length
  /-- After that every request is refused, and the ledger stays as it is. -/
  exhausted : ∀ node host (free : List UInt16), Hosts topology parameters node host → free.Nodup →
    (∀ port, port ∈ free ↔ Offers topology parameters node port) →
      free.length ≤ requests.count node →
        ((ofTopology topology parameters).serveAll requests).2.serve node =
          (.error (.exhausted node host.haPorts),
            ((ofTopology topology parameters).serveAll requests).2)
  unknown : ∀ node, (∀ host, ¬ Hosts topology parameters node host) →
    ((ofTopology topology parameters).serveAll requests).2.serve node =
      (.error (.unknownStorageNode node), ((ofTopology topology parameters).serveAll requests).2)
  /-- Requests for other storage nodes make no difference. -/
  apart : ∀ node,
    ((ofTopology topology parameters).serveAll requests).1.filter (fun reply => reply.1 = node) =
      ((ofTopology topology parameters).serveAll (requests.filter fun other => other = node)).1

end

variable {topology : Topology} {parameters : Parameters} {host : StorageNodeParams}

theorem find?_ofTopology_of_unlisted (unlisted : topology.storageNodes.contains node = false) :
    (ofTopology topology parameters).find? node = none := by
  cases found : (ofTopology topology parameters).find? node with
  | none => rfl
  | some use =>
      have known : (ofTopology topology parameters).contains node = true := by
        rw [KeyedMap.contains, found]
        rfl
      obtain ⟨_, member, named⟩ := KeyedMap.contains_ofList_iff.mp known
      obtain ⟨place, present, rfl⟩ := List.mem_map.mp member
      have listed : topology.storageNodes.contains node = true :=
        Option.isSome_iff_exists.mpr ⟨place, KeyedMap.find?_eq_some_iff.mpr ⟨present, named⟩⟩
      rw [unlisted] at listed
      cases listed

/-- Who is not listed or not described has no ports. -/
theorem stock?_eq_none_of_not_hosts (unknown : ∀ host, ¬ Hosts topology parameters node host) :
    (ofTopology topology parameters).stock? node = none := by
  rw [stock?]
  cases listed : topology.storageNodes.contains node with
  | false => rw [find?_ofTopology_of_unlisted listed, Option.bind_none]
  | true =>
      have undescribed : parameters.storageNode? node = none :=
        Option.eq_none_iff_forall_ne_some.mpr fun host described => unknown host ⟨listed, described⟩
      rw [find?_ofTopology_of_listed parameters listed, Option.bind_some, PortUse.ofStorageNode,
        undescribed]
      rfl

/-- The stock of a storage node is what it offers, in increasing order. -/
theorem Hosts.stock (hosts : Hosts topology parameters node host) :
    ∃ free, (ofTopology topology parameters).stock? node = some ⟨host.haPorts, free⟩ ∧
      free.Pairwise (· < ·) ∧ ∀ port, port ∈ free ↔ Offers topology parameters node port := by
  refine ⟨(PortUse.ofStorageNode topology parameters node).free host.haPorts, ?_,
    PortUse.pairwise_free _ _, fun port => ?_⟩
  · rw [stock?, find?_ofTopology_of_listed parameters hosts.listed, Option.bind_some,
      PortUse.ofStorageNode, hosts.described]
    rfl
  · rw [PortUse.mem_free_iff, Bool.eq_false_iff, ne_eq, PortUse.taken_contains_iff]
    constructor
    · rintro ⟨inRange, untaken⟩
      refine ⟨⟨host, hosts, inRange⟩, fun replica member here params stored same => untaken ?_⟩
      exact ⟨replica.id, List.mem_map_of_mem (List.mem_filter.mpr ⟨member, decide_eq_true here⟩),
        params, stored, same⟩
    · rintro ⟨⟨other, otherHosts, inRange⟩, free⟩
      obtain rfl : host = other :=
        Option.some.inj (hosts.described.symm.trans otherHosts.described)
      refine ⟨inRange, ?_⟩
      rintro ⟨_, hosted, params, stored, same⟩
      obtain ⟨replica, placed, rfl⟩ := List.mem_map.mp hosted
      obtain ⟨member, here⟩ := List.mem_filter.mp placed
      exact free replica member (of_decide_eq_true here) params stored same

theorem length_free {free offered : List UInt16} (ordered : free.Pairwise (· < ·))
    (members : ∀ port, port ∈ free ↔ Offers topology parameters node port)
    (distinct : offered.Nodup)
    (offers : ∀ port, port ∈ offered ↔ Offers topology parameters node port) :
    free.length = offered.length :=
  ((List.perm_ext_iff_of_nodup (ordered.imp UInt16.ne_of_lt) distinct).mpr fun port =>
    (members port).trans (offers port).symm).length_eq

/-- The first ports that a storage node offers are given out, and the next one is answered. -/
theorem answers_serve (topology : Topology) (parameters : Parameters)
    (requests : List StorageNodeId) (node : StorageNodeId) :
    Answers topology parameters ((ofTopology topology parameters).serveAll requests).1 node
      (((ofTopology topology parameters).serveAll requests).2.serve node).1 := by
  rw [serve_answer, stock?_serveAll]
  by_cases known : ∃ host, Hosts topology parameters node host
  · obtain ⟨host, hosts⟩ := known
    obtain ⟨free, stock, ordered, offered⟩ := hosts.stock
    have given : granted ((ofTopology topology parameters).serveAll requests).1 node =
        free.take (requests.count node) := by
      rw [granted_serveAll, stock]
      rfl
    have split := List.take_append_drop (requests.count node) free
    rw [stock, Option.map_some]
    cases left : free.drop (requests.count node) with
    | nil =>
        refine ⟨rfl, ⟨host, hosts, rfl⟩, fun port offers => ?_⟩
        rw [left, List.append_nil] at split
        rw [given, split]
        exact (offered port).mpr offers
    | cons port rest =>
        rw [left] at split
        rw [← split, List.pairwise_append, List.pairwise_cons] at ordered
        obtain ⟨_, ⟨above, _⟩, below⟩ := ordered
        have inFree : port ∈ free := split ▸ List.mem_append_right _ List.mem_cons_self
        refine ⟨(offered port).mp inFree, ?_, fun other offers ungranted => ?_⟩
        · rw [given]
          exact fun earlier => UInt16.lt_irrefl _ (below port earlier port List.mem_cons_self)
        · rw [given] at ungranted
          have member := (offered other).mpr offers
          rw [← split, List.mem_append, List.mem_cons] at member
          rcases member with earlier | rfl | later
          · exact absurd earlier ungranted
          · exact UInt16.le_refl _
          · exact UInt16.le_of_lt (above other later)
  · have unknown : ∀ host, ¬ Hosts topology parameters node host :=
      fun host hosts => known ⟨host, hosts⟩
    rw [stock?_eq_none_of_not_hosts unknown]
    exact ⟨rfl, unknown⟩

/-- A reply is what the ledger answers after the requests before it. -/
theorem reply_of_serveAll {ledger : PortLedger} {requests : List StorageNodeId}
    {earlier later : List Reply} {answer : Except PortError UInt16}
    (served : (ledger.serveAll requests).1 = earlier ++ (node, answer) :: later) :
    ∃ before, (ledger.serveAll before).1 = earlier ∧
      ((ledger.serveAll before).2.serve node).1 = answer := by
  have asked := ledger.map_fst_serveAll requests
  rw [served, List.map_append, List.map_cons] at asked
  refine ⟨earlier.map Prod.fst, ?_⟩
  rw [← asked, serveAll_append, serveAll] at served
  have same : (ledger.serveAll (earlier.map Prod.fst)).1.length = earlier.length := by
    rw [← List.length_map Prod.fst, map_fst_serveAll, List.length_map]
  obtain ⟨front, back⟩ := List.append_inj served same
  exact ⟨front, congrArg Prod.snd (List.cons.inj back).1⟩

/-- Each storage node of a topology gives out the ports that it offers from the lowest to the
highest, and refuses every request after that. -/
theorem allots_offered_ports (topology : Topology) (parameters : Parameters)
    (requests : List StorageNodeId) : Allots topology parameters requests where
  answered := map_fst_serveAll _ requests
  answers := by
    intro earlier node answer later served
    obtain ⟨before, rfl, rfl⟩ := reply_of_serveAll served
    exact answers_serve topology parameters before node
  increasing := by
    intro node
    rw [granted_serveAll]
    by_cases known : ∃ host, Hosts topology parameters node host
    · obtain ⟨host, hosts⟩ := known
      obtain ⟨free, stock, ordered, _⟩ := hosts.stock
      rw [stock]
      exact ordered.sublist (List.take_sublist _ _)
    · rw [stock?_eq_none_of_not_hosts fun host hosts => known ⟨host, hosts⟩, Option.elim_none,
        List.take_nil]
      exact .nil
  length_granted := by
    intro node offered distinct offers
    rw [granted_serveAll]
    by_cases known : ∃ host, Hosts topology parameters node host
    · obtain ⟨host, hosts⟩ := known
      obtain ⟨free, stock, ordered, members⟩ := hosts.stock
      rw [stock, Option.elim_some, List.length_take, length_free ordered members distinct offers]
    · have none : offered = [] := List.eq_nil_iff_forall_not_mem.mpr fun port member =>
        have ⟨host, hosts, _⟩ := ((offers port).mp member).inRange
        known ⟨host, hosts⟩
      rw [stock?_eq_none_of_not_hosts fun host hosts => known ⟨host, hosts⟩, none]
      simp
  exhausted := by
    intro node host offered hosts distinct offers enough
    obtain ⟨free, stock, ordered, members⟩ := hosts.stock
    rw [← length_free ordered members distinct offers] at enough
    apply serve_of_refused
    rw [serve_answer, stock?_serveAll, stock, Option.map_some, List.drop_of_length_le enough]
    rfl
  unknown := by
    intro node unknown
    apply serve_of_refused
    rw [serve_answer, stock?_serveAll, stock?_eq_none_of_not_hosts unknown]
    rfl
  apart node := filter_serveAll requests rfl

end PortLedger

end ShardControl
