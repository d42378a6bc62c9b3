import ShardControl.Proofs.Deploy.Conflict
import ShardControl.Proofs.Retry.Course

/-!
# Passes of a preparation

Every pass of a preparation reads anew what it goes by, and commits at most
once.  Passes are made until one of them is not overtaken, whatever else it
comes to, or until there were as many as the plan allows.
-/

namespace ShardControl

namespace Control

/-- A question of a plan's program with its answer. -/
def said (call : ControlCall) (answer : call.Answer) : Exchange Control := ⟨call, answer⟩

def commit? : Exchange Control → Option (Except MetadataError UInt64)
  | ⟨ControlCall.store (.commit _), answer⟩ => some answer
  | _ => none

/-- A commit is accepted, or the replica of a task is noted. -/
def writes : Exchange Control → Bool
  | ⟨ControlCall.store (.commit _), Except.ok _⟩ => true
  | ⟨ControlCall.resolve .., _⟩ => true
  | _ => false

/-- A mere reading is refused as a commit that comes too late would be. -/
def misreads : Exchange Control → Bool
  | ⟨ControlCall.store .topology, Except.error reason⟩ => reason.isConflict
  | ⟨ControlCall.store .parameters, Except.error reason⟩ => reason.isConflict
  | ⟨ControlCall.store (.replicaParams _), Except.error reason⟩ => reason.isConflict
  | _ => false

end Control

def isRefused : Except MetadataError UInt64 → Bool
  | .error reason => reason.isConflict
  | .ok _ => false

def isOvertaken : Except DeployError Draft → Bool
  | .error (.metadata reason) => reason.isConflict
  | _ => false

theorem isOvertaken_iff {result : Except DeployError Draft} :
    isOvertaken result = true ↔
      ∃ expected actual, result = .error (.metadata (.conflict expected actual)) := by
  constructor
  · intro late
    match result with
    | .error (.metadata (.conflict expected actual)) => exact ⟨expected, actual, rfl⟩
  · rintro ⟨expected, actual, rfl⟩
    rfl

theorem DeployError.IsOwn.not_overtaken {reason : DeployError} (own : reason.IsOwn) :
    isOvertaken (.error reason) = false := by
  cases reason with
  | metadata reason => exact own.elim
  | _ => rfl

open Control

/-! ## Questions of a deployment -/

namespace Deploying

variable {told : List (Exchange Control)}

theorem ask_cases {call : ControlCall} {result : Except DeployError call.Answer}
    (dialogue : Dialogue (ask call).run told result) :
    ∃ answer, told = [said call answer] ∧ result = .ok answer := by
  obtain ⟨answer, rest, rfl, ended⟩ := Dialogue.ask_bind_iff.mp dialogue
  obtain ⟨rfl, rfl⟩ := Dialogue.done_iff.mp ended
  exact ⟨answer, rfl, rfl⟩

theorem log_cases {event : Event} {result : Except DeployError Unit}
    (dialogue : Dialogue (log event).run told result) :
    told = [said (.log event) ()] ∧ result = .ok () := by
  obtain ⟨answer, rest, rfl, ended⟩ := Dialogue.ask_bind_iff.mp dialogue
  obtain ⟨rfl, rfl⟩ := Dialogue.done_iff.mp ended
  exact ⟨rfl, rfl⟩

theorem askStore_cases {call : StoreCall} {result : Except DeployError call.Value}
    (dialogue : Dialogue (askStore call).run told result) :
    ∃ answer : call.Answer, told = [said (.store call) answer] ∧
      result = answer.mapError .metadata := by
  obtain ⟨answer, rest, rfl, ended⟩ := Dialogue.ask_bind_iff.mp dialogue
  obtain ⟨rfl, rfl⟩ := Dialogue.done_iff.mp ended
  exact ⟨answer, rfl, rfl⟩

theorem askStore_ok {call : StoreCall} {value : call.Value}
    (dialogue : Dialogue (askStore call).run told (.ok value)) :
    told = [said (.store call) (.ok value)] := by
  obtain ⟨answer, rfl, same⟩ := askStore_cases dialogue
  cases answer with
  | error reason => cases same
  | ok found =>
      cases same
      rfl

theorem askStore_error {call : StoreCall} {reason : DeployError}
    (dialogue : Dialogue (askStore call).run told (.error reason)) :
    ∃ other, told = [said (.store call) (.error other)] ∧ reason = .metadata other := by
  obtain ⟨answer, rfl, same⟩ := askStore_cases dialogue
  cases answer with
  | error other =>
      cases same
      exact ⟨other, rfl, rfl⟩
  | ok found => cases same

end Deploying

/-! ## One pass -/

namespace DeployTask

variable {task : DeployTask} {told : List (Exchange Control)}

/-- The topology is read, and then the shard of the task is looked up. -/
inductive Locates (task : DeployTask) (topology : Topology) :
    List (Exchange Control) → Except DeployError ShardId → Prop where
  | existing {id : ShardId} (target : task.target = .existing id) :
      Locates task topology [said (.store .topology) (.ok topology)] (.ok id)
  | noted {slot : Nat} {id : ShardId} (target : task.target = .slot slot) :
      Locates task topology
        [said (.store .topology) (.ok topology), said (.shard slot) (some id)] (.ok id)
  | unnoted {slot : Nat} (target : task.target = .slot slot) :
      Locates task topology
        [said (.store .topology) (.ok topology), said (.shard slot) none]
        (.error (.unresolvedShard slot))

/-- The topology that was read lists the shard without a replica on the storage node. -/
structure Lacks (task : DeployTask) (topology : Topology) (shard : Shard)
    (opening : List (Exchange Control)) : Prop where
  located : ∃ id, task.Locates topology opening (.ok id) ∧ topology.shard? id = some shard
  absent : shard.replicaOn task.storageNode = none

/-- How a pass goes. What it commits it works out from readings of its own. -/
inductive Passes (task : DeployTask) :
    List (Exchange Control) → Except DeployError Draft → Prop where
  | unread (reason : MetadataError) :
      Passes task [said (.store .topology) (.error reason)] (.error (.metadata reason))
  | unplaced {topology : Topology} {opening : List (Exchange Control)} {reason : DeployError}
      (locates : task.Locates topology opening (.error reason)) :
      Passes task opening (.error reason)
  | missing {topology : Topology} {opening : List (Exchange Control)} {id : ShardId}
      (locates : task.Locates topology opening (.ok id)) (absent : topology.shard? id = none) :
      Passes task opening (.error (.shardNotFound id))
  | adopts {topology : Topology} {opening : List (Exchange Control)} {id : ShardId} {shard : Shard}
      {replica : Replica} (locates : task.Locates topology opening (.ok id))
      (present : topology.shard? id = some shard)
      (here : shard.replicaOn task.storageNode = some replica) (event : Event)
      (stored : Except MetadataError (Option ReplicaParams)) :
      Passes task
        (opening ++ [said (.resolve task.key replica.id) (), said (.log event) (),
          said (.store (.replicaParams replica.id)) stored])
        (stored.mapError .metadata >>= Draft.ofStored topology replica.id)
  | unparametered {topology : Topology} {shard : Shard} {opening : List (Exchange Control)}
      (lacks : task.Lacks topology shard opening) (reason : MetadataError) :
      Passes task (opening ++ [said (.store .parameters) (.error reason)])
        (.error (.metadata reason))
  | undrafted {topology : Topology} {shard : Shard} {opening : List (Exchange Control)}
      {parameters : Parameters} {reason : DeployError}
      (lacks : task.Lacks topology shard opening)
      (failed : Draft.ofNewReplica topology parameters shard task.storageNode task.directory =
        .error reason) :
      Passes task (opening ++ [said (.store .parameters) (.ok parameters)]) (.error reason)
  | refused {topology : Topology} {shard : Shard} {opening : List (Exchange Control)}
      {parameters : Parameters} {draft : Draft} (lacks : task.Lacks topology shard opening)
      (drafted : Draft.ofNewReplica topology parameters shard task.storageNode task.directory =
        .ok draft) (reason : MetadataError) :
      Passes task
        (opening ++ [said (.store .parameters) (.ok parameters),
          said (.store (.commit ⟨topology.sequence, some draft.topology, [draft.params], []⟩))
            (.error reason)])
        (.error (.metadata reason))
  | commits {topology : Topology} {shard : Shard} {opening : List (Exchange Control)}
      {parameters : Parameters} {draft : Draft} (lacks : task.Lacks topology shard opening)
      (drafted : Draft.ofNewReplica topology parameters shard task.storageNode task.directory =
        .ok draft) (sequence : UInt64) (event : Event) :
      Passes task
        (opening ++ [said (.store .parameters) (.ok parameters),
          said (.store (.commit ⟨topology.sequence, some draft.topology, [draft.params], []⟩))
            (.ok sequence),
          said (.resolve task.key draft.params.id) (), said (.log event) ()])
        (.ok { draft with topology := draft.topology.withSequence sequence })

theorem locates_of_shard {topology : Topology} {found : Except DeployError ShardId}
    (dialogue : Dialogue task.shard.run told found) :
    task.Locates topology (said (.store .topology) (.ok topology) :: told) found := by
  rw [shard] at dialogue
  cases target : task.target with
  | existing id =>
      rw [target] at dialogue
      obtain ⟨rfl, rfl⟩ := Dialogue.done_iff.mp dialogue
      exact .existing target
  | slot slot =>
      rw [target] at dialogue
      obtain ⟨_, _, never⟩ | ⟨front, back, noted, rfl, asked, further⟩ :=
        Dialogue.bindExcept_iff.mp dialogue
      · obtain ⟨_, _, never⟩ := Deploying.ask_cases never
        cases never
      · obtain ⟨_, rfl, same⟩ := Deploying.ask_cases asked
        cases same
        cases noted with
        | none =>
            obtain ⟨rfl, rfl⟩ := Dialogue.done_iff.mp further
            exact .unnoted target
        | some id =>
            obtain ⟨rfl, rfl⟩ := Dialogue.done_iff.mp further
            exact .noted target

theorem passes_of_adopt {topology : Topology} {opening : List (Exchange Control)} {id : ShardId}
    {shard : Shard} {replica : Replica} {result : Except DeployError Draft}
    (locates : task.Locates topology opening (.ok id))
    (present : topology.shard? id = some shard)
    (here : shard.replicaOn task.storageNode = some replica)
    (dialogue : Dialogue (task.adopt topology replica).run told result) :
    task.Passes (opening ++ told) result := by
  rw [adopt] at dialogue
  obtain ⟨_, _, never⟩ | ⟨_, second, _, rfl, resolved, further⟩ :=
    Dialogue.bindExcept_iff.mp dialogue
  · cases (Deploying.ask_cases never).choose_spec.2
  obtain ⟨_, rfl, same⟩ := Deploying.ask_cases resolved
  obtain ⟨_, _, never⟩ | ⟨_, third, _, rfl, logged, onward⟩ := Dialogue.bindExcept_iff.mp further
  · cases (Deploying.log_cases never).2
  obtain ⟨rfl, _⟩ := Deploying.log_cases logged
  have pass := Passes.adopts locates present here
  obtain ⟨reason, rfl, failed⟩ | ⟨_, last, stored, rfl, read, ended⟩ :=
    Dialogue.bindExcept_iff.mp onward
  · obtain ⟨other, rfl, rfl⟩ := Deploying.askStore_error failed
    exact pass _ (.error other)
  · obtain rfl := Deploying.askStore_ok read
    obtain ⟨rfl, rfl⟩ := Dialogue.done_iff.mp ended
    exact pass _ (.ok stored)

theorem passes_of_create {topology : Topology} {shard : Shard} {opening : List (Exchange Control)}
    {result : Except DeployError Draft} (lacks : task.Lacks topology shard opening)
    (dialogue : Dialogue (task.create topology shard).run told result) :
    task.Passes (opening ++ told) result := by
  rw [create] at dialogue
  obtain ⟨_, rfl, failed⟩ | ⟨_, second, parameters, rfl, read, further⟩ :=
    Dialogue.bindExcept_iff.mp dialogue
  · obtain ⟨other, rfl, rfl⟩ := Deploying.askStore_error failed
    exact .unparametered lacks other
  obtain rfl := Deploying.askStore_ok read
  obtain ⟨_, rfl, failed⟩ | ⟨_, third, draft, rfl, worked, toCommit⟩ :=
    Dialogue.bindExcept_iff.mp further
  · obtain ⟨rfl, same⟩ := Dialogue.done_iff.mp failed
    exact .undrafted lacks same.symm
  obtain ⟨rfl, same⟩ := Dialogue.done_iff.mp worked
  obtain ⟨_, rfl, failed⟩ | ⟨_, fourth, sequence, rfl, committed, toResolve⟩ :=
    Dialogue.bindExcept_iff.mp toCommit
  · obtain ⟨other, rfl, rfl⟩ := Deploying.askStore_error failed
    exact .refused lacks same.symm other
  obtain rfl := Deploying.askStore_ok committed
  obtain ⟨_, _, never⟩ | ⟨_, fifth, _, rfl, resolved, toLog⟩ := Dialogue.bindExcept_iff.mp toResolve
  · cases (Deploying.ask_cases never).choose_spec.2
  obtain ⟨_, rfl, _⟩ := Deploying.ask_cases resolved
  obtain ⟨_, _, never⟩ | ⟨_, last, _, rfl, logged, ended⟩ := Dialogue.bindExcept_iff.mp toLog
  · cases (Deploying.log_cases never).2
  obtain ⟨rfl, _⟩ := Deploying.log_cases logged
  obtain ⟨rfl, rfl⟩ := Dialogue.done_iff.mp ended
  exact .commits lacks same.symm sequence _

theorem passes_of_prepare {result : Except DeployError Draft}
    (dialogue : Dialogue task.prepare.run told result) : task.Passes told result := by
  rw [prepare] at dialogue
  obtain ⟨_, rfl, failed⟩ | ⟨_, second, topology, rfl, read, further⟩ :=
    Dialogue.bindExcept_iff.mp dialogue
  · obtain ⟨other, rfl, rfl⟩ := Deploying.askStore_error failed
    exact .unread other
  obtain rfl := Deploying.askStore_ok read
  obtain ⟨_, rfl, failed⟩ | ⟨front, third, id, rfl, found, onward⟩ :=
    Dialogue.bindExcept_iff.mp further
  · exact .unplaced (locates_of_shard failed)
  have locates : task.Locates topology _ _ := locates_of_shard found
  rw [adoptOrCreate] at onward
  cases present : topology.shard? id with
  | none =>
      rw [present] at onward
      obtain ⟨rfl, rfl⟩ := Dialogue.done_iff.mp onward
      rw [List.append_nil]
      exact .missing locates present
  | some shard =>
      rw [present] at onward
      cases here : shard.replicaOn task.storageNode with
      | some replica =>
          simp only [here] at onward
          change task.Passes ((said (.store .topology) (.ok topology) :: front) ++ third) result
          exact passes_of_adopt locates present here onward
      | none =>
          simp only [here] at onward
          change task.Passes ((said (.store .topology) (.ok topology) :: front) ++ third) result
          exact passes_of_create ⟨⟨id, locates, present⟩, here⟩ onward

/-! ## What a pass tells -/

section Tells

variable {topology : Topology} {shard : Shard} {opening : List (Exchange Control)}
  {result : Except DeployError Draft}

theorem Locates.reads {found : Except DeployError ShardId}
    (locates : task.Locates topology opening found) :
    opening.filterMap commit? = [] ∧ ∀ exchange ∈ opening, writes exchange = false := by
  cases locates with
  | existing target => exact ⟨rfl, List.forall_mem_singleton.mpr rfl⟩
  | _ => exact ⟨rfl, List.forall_mem_cons.mpr ⟨rfl, List.forall_mem_singleton.mpr rfl⟩⟩

theorem Locates.isOwn {reason : DeployError}
    (locates : task.Locates topology opening (.error reason)) : reason.IsOwn := by
  cases locates
  trivial

theorem Lacks.reads (lacks : task.Lacks topology shard opening) :
    opening.filterMap commit? = [] ∧ ∀ exchange ∈ opening, writes exchange = false := by
  obtain ⟨_, locates, _⟩ := lacks.located
  exact locates.reads

/-- A pass commits at most once, and is overtaken if this commit comes too late. -/
theorem Passes.committed (passes : task.Passes told result) :
    told.filterMap commit? = [] ∨
      ∃ answer, told.filterMap commit? = [answer] ∧ isRefused answer = isOvertaken result := by
  cases passes with
  | unread reason => exact .inl rfl
  | unplaced locates | missing locates absent => exact .inl locates.reads.1
  | adopts locates present here event stored =>
      rw [List.filterMap_append, locates.reads.1]
      exact .inl rfl
  | unparametered lacks reason =>
      rw [List.filterMap_append, lacks.reads.1]
      exact .inl rfl
  | undrafted lacks failed =>
      rw [List.filterMap_append, lacks.reads.1]
      exact .inl rfl
  | refused lacks drafted reason =>
      rw [List.filterMap_append, lacks.reads.1]
      exact .inr ⟨.error reason, rfl, rfl⟩
  | commits lacks drafted sequence event =>
      rw [List.filterMap_append, lacks.reads.1]
      exact .inr ⟨.ok sequence, rfl, rfl⟩

/-- Unless readings are refused, an overtaken pass has tried to commit and written nothing. -/
theorem Passes.refused_of_overtaken (passes : task.Passes told result)
    (overtaken : isOvertaken result = true)
    (honest : ∀ exchange ∈ told, misreads exchange = false) :
    (∃ answer, told.filterMap commit? = [answer] ∧ isRefused answer = true) ∧
      ∀ exchange ∈ told, writes exchange = false := by
  have own {reason : DeployError} (own : reason.IsOwn) : isOvertaken (.error reason) ≠ true :=
    Bool.eq_false_iff.mp own.not_overtaken
  cases passes with
  | unread reason =>
      have read := honest (said (.store .topology) (.error reason)) (by simp)
      cases read.symm.trans overtaken
  | unplaced locates => exact absurd overtaken (own locates.isOwn)
  | missing locates absent => cases overtaken
  | @adopts topology opening id shard replica locates present here event stored =>
      have read := honest (said (.store (.replicaParams replica.id)) stored) (by simp)
      cases stored with
      | error reason => cases read.symm.trans overtaken
      | ok params => cases params <;> cases overtaken
  | unparametered lacks reason =>
      have read := honest (said (.store .parameters) (.error reason)) (by simp)
      cases read.symm.trans overtaken
  | undrafted lacks failed => exact absurd overtaken (own (Draft.isOwn_of_ofNewReplica failed))
  | refused lacks drafted reason =>
      refine ⟨⟨.error reason, ?_, overtaken⟩, ?_⟩
      · rw [List.filterMap_append, lacks.reads.1]
        rfl
      · exact List.forall_mem_append.mpr ⟨lacks.reads.2,
          List.forall_mem_cons.mpr ⟨rfl, List.forall_mem_singleton.mpr rfl⟩⟩
  | commits lacks drafted sequence event => cases overtaken

/-- A pass does not count passes. -/
theorem Passes.ne_commitConflict (passes : task.Passes told result) (attempts : Nat) :
    result ≠ .error (.commitConflict attempts) := by
  rintro rfl
  generalize failed : Except.error _ = result at passes
  cases passes with
  | unplaced locates =>
      cases failed
      exact locates.isOwn
  | undrafted lacks drafted =>
      cases failed
      exact Draft.isOwn_of_ofNewReplica drafted
  | adopts locates present here event stored =>
      match stored with
      | .error reason => cases failed
      | .ok none => cases failed
      | .ok (some params) => cases failed
  | _ => cases failed

end Tells

/-! ## Passes one after the other -/

structure Pass where
  told : List (Exchange Control)
  result : Except DeployError Draft

/-- Passes with nothing between them but a warning and a pause. -/
inductive Weaves (task : DeployTask) : List Pass → List (Exchange Control) → Prop where
  | last (pass : Pass) : Weaves task [pass] pass.told
  | again (pass : Pass) {passes : List Pass} {asking later : List (Exchange Control)}
      (idle : ∀ exchange ∈ asking, ∃ call answer, exchange = said (.clock call) answer)
      (resolved : Option ReplicaId) (event : Event) (pause : Nat)
      (further : Weaves task passes later) :
      Weaves task (pass :: passes)
        (pass.told ++ (asking ++ ([said (.resolved task.key) resolved, said (.log event) (),
          said (.rest pause) ()] ++ later)))

/-- Passes are made until one is not overtaken, or up to a limit that is then reported. -/
structure Persists (task : DeployTask) (limit reported : Nat) (passes : List Pass)
    (told : List (Exchange Control)) (result : Except DeployError Draft) : Prop where
  woven : task.Weaves passes told
  goes : ∀ pass ∈ passes, task.Passes pass.told pass.result
  bounded : passes.length ≤ limit
  overtaken : ∀ pass ∈ passes.dropLast, isOvertaken pass.result = true
  ends : ∃ last, passes.getLast? = some last ∧
    if isOvertaken last.result then
      passes.length = limit ∧ result = .error (.commitConflict reported)
    else result = last.result

/-- The passes are overtaken or not as the others of the same number are. -/
def Agree (passes others : List Pass) : Prop :=
  ∀ (index : Nat) (pass other : Pass), passes[index]? = some pass → others[index]? = some other →
    isOvertaken pass.result = isOvertaken other.result

/-- Nothing is written to the store, and no replica is noted for a task. -/
structure Unwritten {σ : Type} (answer : (call : ControlCall) → σ → call.Answer × σ)
    (told : List (Exchange Control)) (first last : σ) : Prop where
  silent : ∀ exchange ∈ told, writes exchange = false
  store : ∀ exchange ∈ told, ∀ store,
    World.crowd.Allows exchange.question store exchange.answer →
      (Moment.mk store exchange.question exchange.answer).left = store
  /-- What only a writing can change is as it was. -/
  kept : ∀ {γ : Type} (view : σ → γ),
    (∀ call state, writes (said call (answer call state).1) = false →
      view (answer call state).2 = view state) → view last = view first

theorem pass_cases {found : MetadataError ⊕ Except DeployError Draft}
    (dialogue : Dialogue task.preparation.pass told found) :
    ∃ result, task.Passes told result ∧
      ((isOvertaken result = true ∧ ∃ reason, found = .inl reason) ∨
        isOvertaken result = false ∧ found = .inr result) := by
  obtain ⟨_, back, result, rfl, prepared, further⟩ := Dialogue.bind_iff.mp dialogue
  refine ⟨result, ?_⟩
  split at further
  · obtain ⟨rfl, rfl⟩ := Dialogue.done_iff.mp further
    rw [List.append_nil]
    exact ⟨passes_of_prepare prepared, .inl ⟨rfl, _, rfl⟩⟩
  · next other =>
      obtain ⟨rfl, rfl⟩ := Dialogue.done_iff.mp further
      rw [List.append_nil]
      refine ⟨passes_of_prepare prepared, .inr ⟨?_, rfl⟩⟩
      refine Bool.eq_false_iff.mpr fun late => ?_
      obtain ⟨expected, actual, same⟩ := isOvertaken_iff.mp late
      exact other expected actual same

theorem rest_cases {reason : MetadataError} {pause : Nat}
    {found : Option (Except DeployError Draft)}
    (dialogue : Dialogue (task.preparation.rest reason pause) told found) :
    found = none ∧ ∃ resolved event, told = [said (.resolved task.key) resolved,
      said (.log event) (), said (.rest pause) ()] := by
  obtain ⟨resolved, _, rfl, toLog⟩ := Dialogue.ask_bind_iff.mp dialogue
  obtain ⟨_, _, rfl, toRest⟩ := Dialogue.ask_bind_iff.mp toLog
  obtain ⟨_, _, rfl, ended⟩ := Dialogue.ask_bind_iff.mp toRest
  obtain ⟨rfl, rfl⟩ := Dialogue.done_iff.mp ended
  exact ⟨rfl, resolved, _, rfl⟩

theorem clock_said (call : ClockCall) :
    (Clocked.clock (I := Control) call).Keeps fun exchange =>
      ∃ call answer, exchange = said (.clock call) answer :=
  .ask fun answer => ⟨call, answer, rfl⟩

/-- Without a deadline a preparation persists as long as its schedule lets it. -/
theorem Persists.of_course {schedule : RetrySchedule} {result : Except DeployError Draft}
    (unlimited : schedule.deadline = none)
    (limit : schedule.left + 1 ≤ schedule.policy.maxAttempts)
    (course : Repeated.Course task.preparation schedule told result) :
    ∃ passes, task.Persists (schedule.left + 1) schedule.policy.maxAttempts passes told result := by
  induction course with
  | @settled schedule told value passed =>
      obtain ⟨found, goes, ⟨_, _, never⟩ | ⟨settled, same⟩⟩ := pass_cases passed
      · cases never
      · cases same
        refine ⟨[⟨told, value⟩], .last _, List.forall_mem_singleton.mpr goes,
          Nat.succ_le_succ (Nat.zero_le _), List.forall_mem_nil _, ⟨told, value⟩, rfl, ?_⟩
        rw [settled]
        rfl
  | @refused schedule told asking last reason value passed asked ended =>
      obtain ⟨none, rfl⟩ := RetrySchedule.exhausted_of_refused unlimited asked
      obtain ⟨rfl, rfl⟩ := Dialogue.done_iff.mp ended
      obtain ⟨found, goes, ⟨late, _⟩ | ⟨_, never⟩⟩ := pass_cases passed
      · rw [List.append_nil, List.append_nil]
        refine ⟨[⟨told, found⟩], .last _, List.forall_mem_singleton.mpr goes,
          Nat.succ_le_succ (Nat.zero_le _), List.forall_mem_nil _, ⟨told, found⟩, rfl, ?_⟩
        have number : schedule.granted + 1 = schedule.policy.maxAttempts := by
          rw [RetrySchedule.granted, none]
          omega
        rw [if_pos late, none, number]
        exact ⟨rfl, rfl⟩
      · cases never
  | stopped passed asked rested => cases (rest_cases rested).1
  | @again schedule after told asking resting later reason pause value passed asked rested further
      ih =>
      obtain ⟨_, resolved, event, rfl⟩ := rest_cases rested
      obtain ⟨never, _⟩ | ⟨_, _, left, same, _⟩ := RetrySchedule.next_cases asked
      · cases never
      obtain ⟨found, goes, ⟨late, _⟩ | ⟨_, never⟩⟩ := pass_cases passed
      · have policy : after.policy = schedule.policy := by rw [same]
        have deadline : after.deadline = schedule.deadline := by rw [same]
        obtain ⟨passes, persists⟩ := ih (deadline.trans unlimited) (by rw [policy]; omega)
        obtain ⟨last, here, ends⟩ := persists.ends
        have idle := schedule.keeps_next clock_said _ _ asked
        have some : passes ≠ [] := by
          rintro rfl
          cases here
        refine ⟨⟨told, found⟩ :: passes, .again ⟨told, found⟩ idle resolved event _ persists.woven,
          List.forall_mem_cons.mpr ⟨goes, persists.goes⟩, ?_, ?_, last, ?_, ?_⟩
        · rw [List.length_cons, left]
          exact Nat.succ_le_succ persists.bounded
        · rw [List.dropLast_cons_of_ne_nil some]
          exact List.forall_mem_cons.mpr ⟨late, persists.overtaken⟩
        · rw [List.getLast?_cons, here]
          rfl
        · rw [List.length_cons, left, ← policy, Nat.succ_inj]
          exact ends
      · cases never

section Limits

variable {limit reported : Nat} {passes : List Pass} {result : Except DeployError Draft}

theorem Weaves.commits (woven : task.Weaves passes told) :
    told.filterMap commit? = passes.flatMap fun pass => pass.told.filterMap commit? := by
  induction woven with
  | last pass => exact (List.append_nil _).symm
  | again pass idle resolved event pause further ih =>
      rename_i asking later
      have none : asking.filterMap commit? = [] := by
        refine List.filterMap_eq_nil_iff.mpr fun exchange member => ?_
        obtain ⟨call, answer, rfl⟩ := idle exchange member
        rfl
      rw [List.filterMap_append, List.filterMap_append, none, List.flatMap_cons, ← ih]
      rfl

theorem Weaves.writes_eq_false (woven : task.Weaves passes told)
    (silent : ∀ pass ∈ passes, ∀ exchange ∈ pass.told, writes exchange = false) :
    ∀ exchange ∈ told, writes exchange = false := by
  induction woven with
  | last pass => exact silent pass List.mem_cons_self
  | again pass idle resolved event pause further ih =>
      obtain ⟨first, rest⟩ := List.forall_mem_cons.mp silent
      simp only [List.forall_mem_append, List.forall_mem_cons]
      refine ⟨first, fun exchange member => ?_, ⟨rfl, rfl, rfl, List.forall_mem_nil _⟩, ih rest⟩
      obtain ⟨call, answer, rfl⟩ := idle exchange member
      rfl

theorem Weaves.mem (woven : task.Weaves passes told) {pass : Pass} (member : pass ∈ passes)
    {exchange : Exchange Control} (inside : exchange ∈ pass.told) : exchange ∈ told := by
  induction woven with
  | last only =>
      rw [List.mem_singleton] at member
      exact member ▸ inside
  | again first idle resolved event pause further ih =>
      rcases List.mem_cons.mp member with rfl | later
      · exact List.mem_append_left _ inside
      · simp only [List.mem_append]
        exact .inr (.inr (.inr (ih later)))

theorem length_commits_le (goes : ∀ pass ∈ passes, task.Passes pass.told pass.result) :
    (passes.flatMap fun pass => pass.told.filterMap commit?).length ≤ passes.length := by
  induction passes with
  | nil => exact Nat.le_refl 0
  | cons pass rest ih =>
      obtain ⟨first, further⟩ := List.forall_mem_cons.mp goes
      have once : (pass.told.filterMap commit?).length ≤ 1 := by
        rcases first.committed with none | ⟨answer, only, _⟩
        · rw [none]
          exact Nat.zero_le 1
        · rw [only]
          exact Nat.le_refl 1
      rw [List.flatMap_cons, List.length_append, List.length_cons]
      have others := ih further
      omega

namespace Persists

/-- Giving up means that all the passes were overtaken. -/
theorem all_overtaken (persists : task.Persists limit reported passes told result) {attempts : Nat}
    (gaveUp : result = .error (.commitConflict attempts)) :
    attempts = reported ∧ passes.length = limit ∧
      ∀ pass ∈ passes, isOvertaken pass.result = true := by
  obtain ⟨last, here, ends⟩ := persists.ends
  have member := List.mem_of_getLast? here
  split at ends
  · next late =>
      obtain ⟨length, same⟩ := ends
      cases gaveUp.symm.trans same
      refine ⟨rfl, length, fun pass among => ?_⟩
      rw [List.getLast?_eq_some_iff] at here
      obtain ⟨earlier, rfl⟩ := here
      rcases List.mem_append.mp among with before | final
      · exact persists.overtaken pass (by rwa [List.dropLast_concat])
      · exact List.mem_singleton.mp final ▸ late
  · exact absurd (ends.symm.trans gaveUp) ((persists.goes last member).ne_commitConflict attempts)

/-- Unless readings are refused, each pass of a preparation that gives up has a commit that comes
too late, and none of them writes. -/
theorem refused (persists : task.Persists limit reported passes told result)
    (honest : ∀ exchange ∈ told, misreads exchange = false) {attempts : Nat}
    (gaveUp : result = .error (.commitConflict attempts)) :
    ∀ pass ∈ passes,
      (∃ answer, pass.told.filterMap commit? = [answer] ∧ isRefused answer = true) ∧
        ∀ exchange ∈ pass.told, writes exchange = false :=
  fun pass member => (persists.goes pass member).refused_of_overtaken
    ((persists.all_overtaken gaveUp).2.2 pass member)
    fun exchange inside => honest exchange (persists.woven.mem member inside)

theorem gives_up_iff (persists : task.Persists limit reported passes told result)
    (honest : ∀ exchange ∈ told, misreads exchange = false) (attempts : Nat) :
    result = .error (.commitConflict attempts) ↔
      attempts = reported ∧ (told.filterMap commit?).length = limit ∧
        ∀ answer ∈ told.filterMap commit?, isRefused answer = true := by
  rw [persists.woven.commits]
  constructor
  · intro gaveUp
    obtain ⟨number, length, _⟩ := persists.all_overtaken gaveUp
    have refused := persists.refused honest gaveUp
    refine ⟨number, ?_, fun answer among => ?_⟩
    · have single : ∀ pass ∈ passes, (pass.told.filterMap commit?).length = 1 := by
        intro pass member
        obtain ⟨⟨answer, same, _⟩, _⟩ := refused pass member
        rw [same]
        rfl
      rw [List.length_flatMap, List.map_congr_left single, List.map_const', List.sum_replicate_nat,
        Nat.mul_one, length]
    · obtain ⟨pass, member, inside⟩ := List.mem_flatMap.mp among
      obtain ⟨⟨other, same, late⟩, _⟩ := refused pass member
      rw [same] at inside
      exact List.mem_singleton.mp inside ▸ late
  · rintro ⟨rfl, length, refused⟩
    obtain ⟨last, here, ends⟩ := persists.ends
    obtain ⟨earlier, rfl⟩ := List.getLast?_eq_some_iff.mp here
    cases late : isOvertaken last.result with
    | true =>
        rw [if_pos late] at ends
        exact ends.2
    | false =>
        -- The last pass has no commit then, and the others are too few.
        obtain ⟨before, goes⟩ := List.forall_mem_append.mp persists.goes
        have none : last.told.filterMap commit? = [] := by
          refine (goes last List.mem_cons_self).committed.resolve_right ?_
          rintro ⟨answer, only, same⟩
          have among : answer ∈ (earlier ++ [last]).flatMap fun pass =>
              pass.told.filterMap commit? :=
            List.mem_flatMap.mpr ⟨last, by simp, by simp [only]⟩
          cases (refused answer among).symm.trans (same.trans late)
        have few := length_commits_le before
        have bounded := persists.bounded
        simp only [List.flatMap_append, List.flatMap_singleton, none, List.append_nil] at length
        simp only [List.length_append, List.length_singleton] at bounded
        omega

/-- How many passes there are depends on nothing but which of them are overtaken. -/
theorem length_le {others : List Pass} {otherReported : Nat} {otherTold : List (Exchange Control)}
    {otherResult : Except DeployError Draft}
    (persists : task.Persists limit reported passes told result)
    (other : task.Persists limit otherReported others otherTold otherResult)
    (agree : Agree passes others) : others.length ≤ passes.length := by
  by_contra more
  obtain ⟨last, here, ends⟩ := persists.ends
  rw [List.getLast?_eq_getElem?] at here
  have index : passes.length - 1 < passes.length := (List.getElem?_eq_some_iff.mp here).1
  have earlier : others.dropLast[passes.length - 1]? = others[passes.length - 1]? :=
    List.getElem?_dropLast .. |>.trans (if_pos (by omega))
  obtain ⟨_, found⟩ : ∃ next, others[passes.length - 1]? = some next :=
    ⟨_, List.getElem?_eq_getElem (by omega)⟩
  have late := other.overtaken _ (List.mem_of_getElem? (earlier.trans found))
  rw [if_pos ((agree _ _ _ here found).trans late)] at ends
  have bounded := other.bounded
  omega

end Persists

end Limits

/-! ## Preparations in any surroundings -/

theorem left_eq_of_writes {exchange : Exchange Control} (unwritten : writes exchange = false)
    {store : Store} (allowed : World.crowd.Allows exchange.question store exchange.answer) :
    (Moment.mk store exchange.question exchange.answer).left = store := by
  obtain ⟨call, found⟩ := exchange
  change ControlCall at call
  cases call with
  | store call =>
      obtain rfl : found = (store.respond call).1 := allowed
      cases call with
      | commit update =>
          by_cases same : update.expected = store.sequence
          · rw [Store.respond_commit_of_eq same] at unwritten
            cases unwritten
          · change (store.respond (.commit update)).2 = store
            rw [Store.respond_commit_of_ne same]
      | _ => rfl
  | _ => rfl

theorem under_persists {σ : Type} (task : DeployTask)
    (answer : (call : ControlCall) → σ → call.Answer × σ) (state : σ) (attempts delay : Nat)
    (fraction : Rat) :
    let program := task.preparation.under ((RetryPolicy.fixed attempts delay).withJitter fraction)
    ∃ passes, task.Persists (max attempts 1) (max attempts 1) passes
      (program.record answer state) (program.run answer state).1 := by
  intro program
  have dialogue := Dialogue.record answer program state
  obtain ⟨opening, deadline, rest, told, started, course⟩ := Repeated.Course.of_under dialogue
  rw [RetryPolicy.deadline_eq_none rfl] at started
  obtain ⟨rfl, rfl⟩ := Dialogue.done_iff.mp started
  have positive : max attempts 1 - 1 + 1 = max attempts 1 :=
    Nat.sub_add_cancel (Nat.le_max_right ..)
  obtain ⟨passes, persists⟩ := Persists.of_course rfl (Nat.le_of_eq positive) course
  refine ⟨passes, ?_⟩
  rw [told]
  have limited : task.Persists (max attempts 1 - 1 + 1) (max attempts 1) passes rest _ := persists
  rw [positive] at limited
  exact limited

/-- In whatever surroundings a preparation makes passes until one is not overtaken, and gives up
only after as many as the plan allows, with nothing written. How the pauses are spread makes no
difference to their number. -/
theorem prepareWithRetry_persists {σ : Type} (task : DeployTask)
    (answer : (call : ControlCall) → σ → call.Answer × σ) (state : σ) :
    let limit := max task.plan.settings.commitAttempts 1
    let told := task.prepareWithRetry.run.record answer state
    let result := (task.prepareWithRetry.run.run answer state).1
    let last := (task.prepareWithRetry.run.run answer state).2
    ∃ passes, task.Persists limit limit passes told result ∧
      ((∀ exchange ∈ told, misreads exchange = false) → ∀ attempts,
        (result = .error (.commitConflict attempts) ↔
          attempts = limit ∧ (told.filterMap commit?).length = limit ∧
            ∀ answer ∈ told.filterMap commit?, isRefused answer = true) ∧
        (result = .error (.commitConflict attempts) → Unwritten answer told state last)) ∧
      ∀ (τ : Type) (other : (call : ControlCall) → τ → call.Answer × τ) (start : τ) (delay : Nat)
        (fraction : Rat),
        let program := task.preparation.under
          ((RetryPolicy.fixed task.plan.settings.commitAttempts delay).withJitter fraction)
        ∃ others, task.Persists limit limit others (program.record other start)
            (program.run other start).1 ∧
          (Agree passes others → others.length = passes.length) := by
  intro limit told result last
  obtain ⟨passes, persists⟩ := under_persists task answer state task.plan.settings.commitAttempts
    DeploySettings.conflictPause (1 / 2)
  have persists : task.Persists limit limit passes told result := persists
  refine ⟨passes, persists, fun honest attempts => ⟨persists.gives_up_iff honest attempts, ?_⟩, ?_⟩
  · intro gaveUp
    have silent := persists.woven.writes_eq_false fun pass member =>
      (persists.refused honest gaveUp pass member).2
    refine ⟨silent, fun exchange member store => left_eq_of_writes (silent exchange member), ?_⟩
    intro γ view kept
    refine Program.run_untouched (fun exchange => writes exchange = true) ?_ _ _ ?_
    · exact fun call state unwritten => kept call state (Bool.eq_false_iff.mpr unwritten)
    · exact fun exchange member => Bool.eq_false_iff.mp (silent exchange member)
  · intro τ other start delay fraction
    obtain ⟨others, also⟩ := under_persists task other start task.plan.settings.commitAttempts
      delay fraction
    refine ⟨others, also, fun agree => Nat.le_antisymm (persists.length_le also agree) ?_⟩
    exact also.length_le persists fun index pass other here there =>
      (agree index other pass there here).symm

/-- Surroundings in which the store is read as it is and every commit comes too late. -/
def outpacing (store : Store) : (call : ControlCall) → Unit → call.Answer × Unit
  | .store (.commit update), _ => (.error (.conflict update.expected (store.sequence + 1)), ())
  | .store call, _ => ((store.respond call).1, ())
  | other, _ => (Scene.obliging other, ())

/-- A task that is always overtaken gives up after three commits, and nothing is written. -/
theorem prepareWithRetry_outpaced :
    let program := DeployTask.small.prepareWithRetry.run
    let told := program.record (outpacing .small) ()
    (program.run (outpacing .small) ()).1 = .error (.commitConflict 3) ∧
      (told.filterMap commit?).length = 3 ∧ Unwritten (outpacing .small) told () () := by
  obtain ⟨passes, persists, gives, _⟩ := prepareWithRetry_persists .small (outpacing .small) ()
  have gaveUp : (DeployTask.small.prepareWithRetry.run.run (outpacing .small) ()).1 =
      .error (.commitConflict 3) := by
    decide +kernel
  have honest : ∀ exchange ∈ DeployTask.small.prepareWithRetry.run.record (outpacing .small) (),
      misreads exchange = false := by
    decide +kernel
  obtain ⟨counts, unwritten⟩ := gives honest 3
  exact ⟨gaveUp, (counts.mp gaveUp).2.1, unwritten gaveUp⟩

end DeployTask

end ShardControl
