import Mathlib.Data.List.Induction
import ShardControl.Proofs.Topology.Integrity

/-!
# Numbers that shards give out

Replicas and arbiters of a shard are numbered by one counter, which stops at
the largest number.  Whatever changes are made to a new topology, the first
number of a shard is one and every later one is the next, until the counter
has stopped; before that, no number comes twice and nobody is overwritten.
-/

namespace ShardControl

def Shard.numbers (shard : Shard) : List UInt32 :=
  shard.replicas.toList.map (fun replica => replica.id.num) ++
    shard.arbiters.toList.map fun arbiter => arbiter.id.num

namespace Shard

variable {shard : Shard} {node : StorageNodeId} {num : UInt32}

theorem mem_numbers_iff : num ∈ shard.numbers ↔
    (∃ replica ∈ shard.replicas.toList, replica.id.num = num) ∨
      ∃ arbiter ∈ shard.arbiters.toList, arbiter.id.num = num := by
  rw [numbers, List.mem_append, List.mem_map, List.mem_map]

theorem mem_numbers_addReplica (member : num ∈ (shard.addReplica node).2.numbers) :
    num = shard.nextNum ∨ num ∈ shard.numbers := by
  rcases mem_numbers_iff.mp member with ⟨replica, inGrown, rfl⟩ | arbiter
  · rcases mem_addReplica_iff.mp inGrown with rfl | ⟨old, _⟩
    · exact .inl rfl
    · exact .inr (mem_numbers_iff.mpr (.inl ⟨replica, old, rfl⟩))
  · exact .inr (mem_numbers_iff.mpr (.inr arbiter))

theorem mem_numbers_addArbiter (member : num ∈ (shard.addArbiter node).2.numbers) :
    num = shard.nextNum ∨ num ∈ shard.numbers := by
  rcases mem_numbers_iff.mp member with replica | ⟨arbiter, inGrown, rfl⟩
  · exact .inr (mem_numbers_iff.mpr (.inl replica))
  · rcases mem_addArbiter_iff.mp inGrown with rfl | ⟨old, _⟩
    · exact .inl rfl
    · exact .inr (mem_numbers_iff.mpr (.inr ⟨arbiter, old, rfl⟩))

theorem mem_numbers_without {id : ReplicaId} (member : num ∈ (shard.without id).numbers) :
    num ∈ shard.numbers := by
  rcases mem_numbers_iff.mp member with ⟨replica, left, rfl⟩ | arbiter
  · exact mem_numbers_iff.mpr (.inl ⟨replica, (mem_without_iff.mp left).1, rfl⟩)
  · exact mem_numbers_iff.mpr (.inr arbiter)

end Shard

/-- Nobody leaves a topology if everyone stays in the shard that is written. -/
theorem MemberKind.members_subset_putShard {ν κ : Type} [Keyed ν κ] [KeyOrder κ]
    (kind : MemberKind ν) {topology : Topology} {shard written : Shard}
    (present : topology.shard? shard.id = some shard) (same : written.id = shard.id)
    (stay : (kind.listed shard).toList ⊆ (kind.listed written).toList) :
    kind.members topology ⊆ kind.members (topology.putShard written) := by
  intro member listed
  obtain ⟨other, inTopology, inOther⟩ := mem_members_iff.mp listed
  by_cases own : other.id = shard.id
  · have inShard := (Topology.shard?_eq_some_iff.mp present).1
    obtain rfl := KeyedMap.eq_of_key_eq inTopology inShard own
    exact mem_members_iff.mpr ⟨written, Topology.mem_putShard_iff.mpr (.inl rfl), stay inOther⟩
  · exact mem_members_iff.mpr
      ⟨other, Topology.mem_putShard_iff.mpr (.inr ⟨inTopology, same ▸ own⟩), inOther⟩

namespace Change

abbrev Reply : Type := Change × Except TopologyError Answer

def replies (topology : Topology) : List Change → List Reply
  | [] => []
  | change :: rest =>
      (change, (change.perform topology).1) :: replies (change.perform topology).2 rest

/-- The number that a reply gives out in a shard, be it to a replica or to an arbiter. -/
def Reply.number? (shard : ShardId) : Reply → Option UInt32
  | (.addReplica id _, .ok (.replica made)) => if id = shard then some made.num else none
  | (.addArbiter id _, .ok (.arbiter made)) => if id = shard then some made.num else none
  | _ => none

theorem Reply.number?_error (shard : ShardId) (change : Change) (reason : TopologyError) :
    Reply.number? shard (change, .error reason) = none := by
  cases change <;> rfl

/-- The numbers that are given out in a shard, in the order of the changes. -/
def issued (topology : Topology) (changes : List Change) (shard : ShardId) : List UInt32 :=
  (replies topology changes).filterMap (Reply.number? shard)

def next? (topology : Topology) (change : Change) (shard : ShardId) : Option UInt32 :=
  Reply.number? shard (change, (change.perform topology).1)

theorem replies_append_singleton (topology : Topology) (changes : List Change) (change : Change) :
    replies topology (changes ++ [change]) = replies topology changes ++
      [(change, (change.perform (performAll topology changes)).1)] := by
  induction changes generalizing topology with
  | nil => rfl
  | cons first rest ih => exact congrArg _ (ih (first.perform topology).2)

theorem issued_append_singleton (topology : Topology) (changes : List Change) (change : Change)
    (shard : ShardId) :
    issued topology (changes ++ [change]) shard = issued topology changes shard ++
      (next? (performAll topology changes) change shard).toList := by
  rw [issued, replies_append_singleton, List.filterMap_append, List.filterMap_cons,
    List.filterMap_nil, issued, next?]
  cases Reply.number? shard (change, (change.perform (performAll topology changes)).1) <;> rfl

end Change

/-! ## Counters -/

/-- Every shard counts the numbers that it gives out, up to the largest number, and its members
have some of them. -/
structure Topology.Counts (topology : Topology) (count : ShardId → Nat) : Prop where
  next : ∀ shard ∈ topology.shards.toList,
    shard.nextNum.toNat = min (count shard.id + 1) (UInt32.size - 1)
  numbers : ∀ shard ∈ topology.shards.toList, ∀ num ∈ shard.numbers, num.toNat ≤ count shard.id
  absent : ∀ id, topology.shard? id = none → count id = 0

namespace Topology.Counts

open Change

variable {topology changed : Topology} {count more : ShardId → Nat} {shard : Shard}
  {change : Change} {answer : Except TopologyError Answer}

theorem putShard (counts : topology.Counts count)
    (others : ∀ id, id ≠ shard.id → more id = count id)
    (next : shard.nextNum.toNat = min (more shard.id + 1) (UInt32.size - 1))
    (numbers : ∀ num ∈ shard.numbers, num.toNat ≤ more shard.id) :
    (topology.putShard shard).Counts more where
  next other member := by
    rcases mem_putShard_iff.mp member with rfl | ⟨old, differ⟩
    · exact next
    · rw [others _ differ]
      exact counts.next other old
  numbers other member := by
    rcases mem_putShard_iff.mp member with rfl | ⟨old, differ⟩
    · exact numbers
    · rw [others _ differ]
      exact counts.numbers other old
  absent id missing := by
    rw [shard?_putShard] at missing
    split at missing
    · cases missing
    · rename_i differ
      rw [others id fun same => differ same.symm]
      exact counts.absent id missing

/-- A shard that gives a number out counts one more. -/
theorem issue {grown : Shard} (counts : topology.Counts count)
    (present : topology.shard? shard.id = some shard) (same : grown.id = shard.id)
    (next : grown.nextNum = Word.succSat shard.nextNum)
    (numbers : ∀ num ∈ grown.numbers, num = shard.nextNum ∨ num ∈ shard.numbers)
    (counted : more shard.id = count shard.id + 1)
    (others : ∀ id, id ≠ shard.id → more id = count id) :
    (topology.putShard grown).Counts more := by
  have member := (shard?_eq_some_iff.mp present).1
  have before := counts.next shard member
  refine counts.putShard (by rwa [same]) ?_ fun num inGrown => ?_
  · rw [next, Word.toNat_succSat, before, same, counted]
    omega
  · rw [same, counted]
    rcases numbers num inGrown with rfl | old
    · omega
    · have := counts.numbers shard member num old
      omega

/-- A shard that gives no number out counts as before. -/
theorem rewrite {written : Shard} (counts : topology.Counts count)
    (present : topology.shard? shard.id = some shard) (same : written.id = shard.id)
    (next : written.nextNum = shard.nextNum)
    (numbers : ∀ num ∈ written.numbers, num ∈ shard.numbers) :
    (topology.putShard written).Counts count := by
  have member := (shard?_eq_some_iff.mp present).1
  refine counts.putShard (fun _ _ => rfl) ?_ fun num inWritten => ?_
  · rw [next, same]
    exact counts.next shard member
  · rw [same]
    exact counts.numbers shard member num (numbers num inWritten)

/-- A change counts the number that it gives out. -/
theorem effect (counts : topology.Counts count) (made : Effect topology change answer changed) :
    changed.Counts fun id => count id + (Reply.number? id (change, answer)).toList.length := by
  cases made with
  | refused reason =>
      simp only [Reply.number?_error]
      exact counts
  | datacenter datacenter => exact ⟨counts.next, counts.numbers, counts.absent⟩
  | storageNode housed => exact ⟨counts.next, counts.numbers, counts.absent⟩
  | present present => exact counts
  | @shard id absent =>
      refine counts.putShard (fun _ _ => rfl) ?_ nofun
      have first : count id = 0 := counts.absent id absent
      change (1 : UInt32).toNat = min (count id + 1) (UInt32.size - 1)
      rw [first]
      rfl
  | @replica shard node listed present =>
      refine counts.issue present rfl rfl (fun num => Shard.mem_numbers_addReplica) ?_ ?_
      · simp [Reply.number?]
      · intro id differ
        simp [Reply.number?, differ.symm]
  | @arbiter shard node listed present =>
      refine counts.issue present rfl rfl (fun num => Shard.mem_numbers_addArbiter) ?_ ?_
      · simp [Reply.number?]
      · intro id differ
        simp [Reply.number?, differ.symm]
  | removal named present member =>
      exact counts.rewrite present rfl rfl fun num => Shard.mem_numbers_without

/-- The number that a change gives out is the next one of its shard. -/
theorem number (counts : topology.Counts count) (made : Effect topology change answer changed)
    {id : ShardId} {num : UInt32} (given : Reply.number? id (change, answer) = some num) :
    num.toNat = min (count id + 1) (UInt32.size - 1) := by
  cases made with
  | refused reason =>
      rw [Reply.number?_error] at given
      cases given
  | datacenter => cases given
  | storageNode => cases given
  | present => cases given
  | shard => cases given
  | @replica shard node listed present =>
      obtain ⟨rfl, same⟩ := Option.ite_none_right_eq_some.mp given
      cases same
      exact counts.next shard (shard?_eq_some_iff.mp present).1
  | @arbiter shard node listed present =>
      obtain ⟨rfl, same⟩ := Option.ite_none_right_eq_some.mp given
      cases same
      exact counts.next shard (shard?_eq_some_iff.mp present).1
  | removal => cases given

/-- Until its counter stops, a shard gives out a number that none of its members has. -/
theorem not_mem_numbers (counts : topology.Counts count)
    (made : Effect topology change answer changed) {id : ShardId} {num : UInt32}
    (given : Reply.number? id (change, answer) = some num) (early : count id < UInt32.size - 1)
    (present : topology.shard? id = some shard) : num ∉ shard.numbers := by
  intro taken
  obtain ⟨member, rfl⟩ := shard?_eq_some_iff.mp present
  have issued := counts.number made given
  have below := counts.numbers shard member num taken
  omega

/-- So the new member overwrites nobody. -/
theorem subset_of_given (counts : topology.Counts count)
    (made : Effect topology change answer changed) {id : ShardId} {num : UInt32}
    (given : Reply.number? id (change, answer) = some num) (early : count id < UInt32.size - 1) :
    topology.replicas ⊆ changed.replicas ∧ topology.arbiters ⊆ changed.arbiters := by
  have fresh : ∀ home, topology.shard? id = some home → num ∉ home.numbers :=
    fun _ present => counts.not_mem_numbers made given early present
  cases made with
  | refused reason =>
      rw [Reply.number?_error] at given
      cases given
  | datacenter => cases given
  | storageNode => cases given
  | present => cases given
  | shard => cases given
  | @replica shard node listed present =>
      obtain ⟨rfl, same⟩ := Option.ite_none_right_eq_some.mp given
      cases same
      refine ⟨MemberKind.replica.members_subset_putShard present rfl fun replica old => ?_,
        MemberKind.arbiter.members_subset_putShard present rfl fun _ old => old⟩
      refine Shard.mem_addReplica_iff.mpr (.inr ⟨old, fun taken => fresh shard present ?_⟩)
      exact Shard.mem_numbers_iff.mpr (.inl ⟨replica, old, congrArg ReplicaId.num taken⟩)
  | @arbiter shard node listed present =>
      obtain ⟨rfl, same⟩ := Option.ite_none_right_eq_some.mp given
      cases same
      refine ⟨MemberKind.replica.members_subset_putShard present rfl fun _ old => old,
        MemberKind.arbiter.members_subset_putShard present rfl fun arbiter old => ?_⟩
      refine Shard.mem_addArbiter_iff.mpr (.inr ⟨old, fun taken => fresh shard present ?_⟩)
      exact Shard.mem_numbers_iff.mpr (.inr ⟨arbiter, old, congrArg ArbiterId.num taken⟩)
  | removal => cases given

theorem named (name : String) : (Topology.named name).Counts fun _ => 0 where
  next _ member := nomatch member
  numbers _ member := nomatch member
  absent _ _ := rfl

/-- After any changes, a shard has counted the numbers that it has given out. -/
theorem performAll (name : String) (changes : List Change) :
    (Change.performAll (Topology.named name) changes).Counts fun id =>
      (issued (Topology.named name) changes id).length := by
  induction changes using List.reverseRecOn with
  | nil => exact Counts.named name
  | append_singleton before change ih =>
      have counts := ih.effect (effect_perform _ change)
      simp only [issued_append_singleton, performAll_append_singleton, List.length_append]
      exact counts

end Topology.Counts

/-! ## Numbers -/

namespace Change

open ShardControl.Topology (named)

/-- How a shard of a new topology has numbered its members after changes, and numbers the next. -/
structure Numbers (name : String) (changes : List Change) (shard : ShardId) : Prop where
  counted : ∀ k num, (issued (named name) changes shard)[k]? = some num →
    num.toNat = min (k + 1) (UInt32.size - 1)
  /-- Every replica and every arbiter that is added gets a number. -/
  given : ∀ node, ∀ change ∈ [addReplica shard node, addArbiter shard node], ∀ answer,
    (change.perform (performAll (named name) changes)).1 = .ok answer →
      (next? (performAll (named name) changes) change shard).isSome
  nodup : (issued (named name) changes shard).length ≤ UInt32.size - 1 →
    (issued (named name) changes shard).Nodup
  /-- Until the numbers run out, the next one belongs to nobody, and nobody is overwritten. -/
  fresh : (issued (named name) changes shard).length < UInt32.size - 1 → ∀ change num,
    next? (performAll (named name) changes) change shard = some num →
      num ∉ issued (named name) changes shard ∧
      (∀ home, (performAll (named name) changes).shard? shard = some home → num ∉ home.numbers) ∧
      (performAll (named name) changes).replicas ⊆
        (change.perform (performAll (named name) changes)).2.replicas ∧
      (performAll (named name) changes).arbiters ⊆
        (change.perform (performAll (named name) changes)).2.arbiters

variable {name : String} {changes : List Change} {shard : ShardId}

theorem toNat_issued {k : Nat} {num : UInt32}
    (listed : (issued (named name) changes shard)[k]? = some num) :
    num.toNat = min (k + 1) (UInt32.size - 1) := by
  induction changes using List.reverseRecOn with
  | nil => cases listed
  | append_singleton before change ih =>
      rw [issued_append_singleton] at listed
      rcases Nat.lt_or_ge k (issued (named name) before shard).length with earlier | last
      · rw [List.getElem?_append_left earlier] at listed
        exact ih listed
      · rw [List.getElem?_append_right last] at listed
        cases given : next? (performAll (named name) before) change shard with
        | none =>
            rw [given] at listed
            cases listed
        | some number =>
            rw [given] at listed
            obtain ⟨inside, rfl⟩ := List.getElem?_eq_some_iff.mp listed
            have place : k = (issued (named name) before shard).length := by
              simp only [Option.toList_some, List.length_singleton] at inside
              omega
            have counts := Topology.Counts.performAll name before
            have number := counts.number (effect_perform _ change) given
            simpa [place] using number

/-- Numbers do not come twice as long as there are enough of them. -/
theorem nodup_issued (enough : (issued (named name) changes shard).length ≤ UInt32.size - 1) :
    (issued (named name) changes shard).Nodup := by
  refine List.pairwise_iff_getElem.mpr fun i j first second before same => ?_
  have earlier := toNat_issued (List.getElem?_eq_getElem first)
  have later := toNat_issued (List.getElem?_eq_getElem second)
  rw [same, later] at earlier
  omega

theorem isSome_next? (topology : Topology) {node : StorageNodeId} {change : Change}
    {answer : Answer}
    (adds : change ∈ [addReplica shard node, addArbiter shard node])
    (done : (change.perform topology).1 = .ok answer) : (next? topology change shard).isSome := by
  have made := effect_perform topology change
  rw [next?, done]
  rw [done] at made
  generalize (change.perform topology).2 = changed at made
  rcases List.mem_pair.mp adds with rfl | rfl
  · cases made with
    | replica => simp [Reply.number?]
  · cases made with
    | arbiter => simp [Reply.number?]

theorem numbers_of_changes (name : String) (changes : List Change) (shard : ShardId) :
    Numbers name changes shard where
  counted _ _ := toNat_issued
  given _ _ adds _ := isSome_next? _ adds
  nodup := nodup_issued
  fresh := by
    intro early change num given
    have counts := Topology.Counts.performAll name changes
    have made := effect_perform (performAll (named name) changes) change
    refine ⟨?_, fun home present => counts.not_mem_numbers made given early present,
      counts.subset_of_given made given early⟩
    have longer : (issued (named name) (changes ++ [change]) shard).Nodup := by
      apply nodup_issued
      rw [issued_append_singleton, given, List.length_append]
      exact early
    rw [issued_append_singleton, given] at longer
    exact fun old => (List.disjoint_of_nodup_append longer) old (List.mem_singleton.mpr rfl)

-- The arbiter does not get the number of the replica that left.
example :
    issued (named "store")
      [.addDatacenter ⟨⟨1⟩, "north", .primary⟩, .addStorageNode ⟨⟨1⟩, ⟨1⟩, "sn1", 5000⟩,
        .addShard ⟨1⟩, .addReplica ⟨1⟩ ⟨1⟩, .removeReplica ⟨⟨1⟩, 1⟩, .addArbiter ⟨1⟩ ⟨1⟩]
      ⟨1⟩ = [1, 2] := by decide

end Change

end ShardControl
