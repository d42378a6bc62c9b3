import ShardControl.Proofs.Deploy.Choice

/-!
# Deployments that stop on their way

A task can fail before it commits a replica, and then it has left no trace, or
after it, and then the task has resolved to the replica and the runner asks for
a thread that runs a cleanup job for it.  The outcome has the job if there is
such a thread, and the log says if there is none.  Only failures of the first
kind cancel the plan.
-/

namespace ShardControl

namespace DeployTask

/-- What an execution that fails leaves: the store as it was, or the next replica of a shard, to
which the task resolved. -/
inductive Abandons (task : DeployTask) (slots : ShardSlots) (store : Store) (reason : DeployError)
    (last : Scene) : Prop where
  | nothing (same : last.store = store)
  | replica {shard : Shard} {draft : Draft} (fresh : task.Fresh slots store shard draft)
      (founded : task.Founded draft store last) (cleans : reason.policy ≠ .planCancel)

variable {task : DeployTask} {slots : ShardSlots} {store : Store} {scene last : Scene}
  {assume : List Moment → Moment → Prop} {holds : Scene → Prop} {reason : DeployError}

/-! ## Preparations -/

theorem Contacted.keeps {draft : Draft} {result : Except DeployError TaskState}
    (contacted : task.Contacted draft scene result last) (stays : task.Stays holds)
    (before : holds scene) (same : last.store = scene.store) :
    holds last ∧ ∀ reason, result = .error reason → reason.policy ≠ .planCancel := by
  have found {answer : Except RemoteError Unit} {first left : Store} (kept : left = scene.store) :
      holds ⟨left, task.pastFound draft scene first answer⟩ := stays before kept rfl
  have created {answer : Except RemoteError Bool} {first second left : Store}
      (kept : left = scene.store) :
      holds ⟨left, task.pastCreated draft scene first second answer⟩ := stays (found rfl) kept rfl
  have logged {answer : Bool} {first second third left : Store} (kept : left = scene.store) :
      holds ⟨left, task.pastLogged draft scene first second third answer⟩ :=
    stays (created rfl) kept rfl
  cases contacted with
  | lost reason =>
      refine ⟨found same, fun other isError => ?_⟩
      exact Except.error.inj isError ▸ DeployError.policy_ofRemote reason
  | refused reason =>
      refine ⟨created same, fun other isError => ?_⟩
      exact Except.error.inj isError ▸ DeployError.policy_ofRemote reason
  | unlisted absent =>
      refine ⟨logged same, fun other isError => ?_⟩
      cases isError
      nofun
  | registered present => exact ⟨stays (logged rfl) same rfl, nofun⟩

theorem contact_keeps (stays : task.Stays holds) (before : holds scene) (draft : Draft) :
    Ensures slots assume
      (fun result last => holds last ∧ ∀ reason, result = .error reason →
        reason.policy ≠ .planCancel)
      (task.contact draft).run scene := by
  have contacts : Obeys (.alone slots) _ _ (task.contact draft).run scene := contact_obeys
  refine (Ensures.of_obeys contacts).mono ?_
  rintro result last ⟨same, contacted⟩
  exact contacted.keeps stays before (Eq.symm same)

/-- What a preparation comes to is kept to the end. -/
theorem execute_keeps (stays : task.Stays holds)
    (prepares : Ensures slots assume (fun _ last => holds last) task.prepareWithRetry.run scene) :
    Ensures slots assume (fun _ last => holds last) task.execute scene := by
  rw [execute, deploy]
  apply Ensures.bindExcept
  refine prepares.mono ?_
  rintro (reason | draft) last kept
  · exact kept
  · exact (contact_keeps stays kept draft).mono fun _ _ => And.left

theorem stays_store (task : DeployTask) (store : Store) :
    task.Stays fun scene => scene.store = store :=
  fun same kept _ => kept.trans same

theorem execute_abandons {past : List Moment} (unresolved : resolved? past task.key = none) :
    Ensures slots assume
      (fun result last => ∀ reason, result = .error reason →
        task.Abandons slots store reason last)
      task.execute ⟨store, past⟩ := by
  have reaches : task.Reaches store none (sent past) ⟨store, past⟩ := ⟨rfl, unresolved, rfl⟩
  have yields : Ensures slots assume _ task.prepareWithRetry.run ⟨store, past⟩ :=
    prepareWithRetry_yields reaches
  cases chosen : task.choice slots store with
  | fails _ | adopts _ _ =>
      rw [chosen] at yields
      have keeps := execute_keeps (task.stays_store store)
        (yields.mono fun _ _ settled => settled.2.store_eq)
      exact keeps.mono fun _ _ same _ _ => .nothing same
  | adds shard params =>
      rw [execute, deploy]
      apply Ensures.bindExcept
      obtain ⟨located, present, absent, draft, made, _⟩ := drafted_of_choice chosen
      have fresh : task.Fresh slots store shard draft :=
        ⟨ShardTarget.located_eq_ok_iff.mp located, present, absent, made⟩
      refine (prepareWithRetry_founds fresh past).mono ?_
      rintro _ last ⟨⟨prepared, rfl⟩, founded⟩
      refine (contact_keeps Founded.stays founded prepared).mono ?_
      rintro result last ⟨founded, cleans⟩
      exact fun reason isError => .replica fresh founded (cleans reason isError)

/-! ## The runner -/

theorem Abandons.stays : task.Stays (task.Abandons slots store reason) := by
  rintro scene moment left (same | ⟨fresh, founded, cleans⟩) kept other
  · exact .nothing (kept.trans same)
  · exact .replica fresh (founded.cons kept other) cleans

/-- Where the plan is cancelled nothing was committed. -/
theorem Abandons.store_eq (abandons : task.Abandons slots store reason last)
    (cancels : reason.policy = .planCancel) : last.store = store := by
  cases abandons with
  | nothing same => exact same
  | replica fresh founded cleans => exact absurd cancels cleans

end DeployTask

end ShardControl
