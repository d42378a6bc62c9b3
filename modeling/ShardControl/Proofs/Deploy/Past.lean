import ShardControl.Proofs.Deploy.Conduct

/-!
# What a past tells

Which commits were accepted, what the last reading or commit left, to which
replica a task resolved, and whether agents or the monitor heard of anything.
-/

namespace ShardControl

namespace Moment

def commits : Moment → Bool
  | ⟨_, .store (.commit _), .ok _⟩ => true
  | _ => false

/-- Whether an agent or the monitor was asked for anything. -/
def contacts : Moment → Bool
  | ⟨_, .findAgent .., _⟩ => true
  | ⟨_, .createReplica .., _⟩ => true
  | ⟨_, .register .., _⟩ => true
  | _ => false

def creates : Moment → Bool
  | ⟨_, .createReplica .., .ok _⟩ => true
  | _ => false

def registers : Moment → Bool
  | ⟨_, .register .., _⟩ => true
  | _ => false

/-- The store as a reading of the topology or a commit left it. -/
def settles? : Moment → Option Store
  | ⟨found, .store .topology, _⟩ => some found
  | ⟨found, .store (.commit update), _⟩ => some (found.respond (.commit update)).2
  | _ => none

def resolves? (key : TaskKey) : Moment → Option ReplicaId
  | ⟨_, .resolve task id, _⟩ => if task = key then some id else none
  | _ => none

def notes? (slot : Nat) : Moment → Option (Option ShardId)
  | ⟨_, .shard asked, answer⟩ => if asked = slot then some answer else none
  | _ => none

end Moment

namespace Moment

theorem leads_left (moment : Moment) : moment.found.Leads moment.left := by
  obtain ⟨found, call, answer⟩ := moment
  cases call with
  | store call => exact found.leads_respond call
  | _ => exact Store.Leads.refl found

/-- What is answered as the store is counts as a commit exactly if the store counts it. -/
theorem commits_left {world : World} {found : Store} {call : ControlCall} {answer : call.Answer}
    (allowed : world.Allows call found answer) :
    (Moment.mk found call answer).left.commits =
      found.commits + if (Moment.mk found call answer).commits then 1 else 0 := by
  cases call with
  | store call =>
      obtain rfl : answer = (found.respond call).1 := allowed
      cases call with
      | commit update =>
          by_cases same : update.expected = found.sequence
          · simp [left, commits, Store.respond_commit_of_eq same]
          · simp [left, commits, Store.respond_commit_of_ne same]
      | _ => rfl
  | _ => rfl

end Moment

/-- The store as the last reading of the topology or the last commit left it. -/
def settled? (past : List Moment) : Option Store := past.findSome? Moment.settles?

/-- Nobody else wrote since the program last read the topology or committed. -/
def Undisturbed (past : List Moment) (store : Store) : Prop := settled? past = some store

def resolved? (past : List Moment) (key : TaskKey) : Option ReplicaId :=
  past.findSome? (Moment.resolves? key)

def ShardTarget.shard? (target : ShardTarget) (past : List Moment) : Option ShardId :=
  match target with
  | .existing shard => some shard
  | .slot index => (past.findSome? (Moment.notes? index)).join

/-- Nothing is committed, and nobody else was asked for anything. -/
def Undecided (past : List Moment) : Prop :=
  ∀ moment ∈ past, moment.commits = false ∧ moment.contacts = false

theorem Undecided.nil : Undecided [] := by
  intro moment member
  cases member

theorem Undecided.cons {past : List Moment} {moment : Moment} (undecided : Undecided past)
    (uncommitted : moment.commits = false) (silent : moment.contacts = false) :
    Undecided (moment :: past) :=
  List.forall_mem_cons.mpr ⟨⟨uncommitted, silent⟩, undecided⟩

theorem Undecided.countP_eq_zero {past : List Moment} (undecided : Undecided past) :
    past.countP Moment.commits = 0 :=
  List.countP_eq_zero.mpr fun moment member => by simp [(undecided moment member).1]

theorem settled?_cons (past : List Moment) (moment : Moment) :
    settled? (moment :: past) = moment.settles?.or (settled? past) := by
  rw [settled?, List.findSome?_cons]
  cases moment.settles? <;> rfl

theorem resolved?_resolve (past : List Moment) (found : Store) (key : TaskKey) (id : ReplicaId) :
    resolved? (⟨found, .resolve key id, ()⟩ :: past) key = some id := by
  simp [resolved?, Moment.resolves?]

end ShardControl
