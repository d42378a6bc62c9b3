import ShardControl.Proofs.Telemetry.Calls
import ShardControl.Proofs.Telemetry.Repository

/-!
# Repositories among others

The repository of a handle does what it would do alone with the additions
through the handle and the collections of the resource that has it.  So no
measurement gets lost, and none is told twice.
-/

namespace ShardControl

/-! ## Measurements told and pending -/

/-- How many measurements a snapshot tells of, as they are or in the aggregate. -/
def Snapshot.told (snapshot : Snapshot) : Nat :=
  snapshot.measurements.length + (snapshot.pruned.map Pruned.count).getD 0

theorem Snapshot.Covers.told_eq {capacity : Nat} {batch : List Measurement} {snapshot : Snapshot}
    (covers : snapshot.Covers capacity batch) : snapshot.told = batch.length := by
  rw [told, covers.measurements, List.length_drop]
  cases held : snapshot.pruned with
  | none =>
      have fits := covers.absent_iff.mp held
      simp only [Option.map_none, Option.getD_none]
      omega
  | some pruned =>
      rw [Option.map_some, Option.getD_some, (covers.aggregate pruned held).count,
        List.length_take]
      omega

namespace Repository

/-- How many measurements a repository has not told of yet. -/
def pending (repository : Repository) : Nat := repository.size + repository.pruned.count

theorem Keeps.pending_length {repository : Repository} {dropped pending : List Measurement}
    (keeps : repository.Keeps dropped pending) : repository.pending = pending.length := by
  rw [Repository.pending, keeps.pruned.count, keeps.pending_eq, List.length_append, size,
    Ring.size_eq_length, Nat.add_comm]

theorem size_drain (repository : Repository) : repository.drain.2.size = 0 := rfl

theorem serve_append (repository : Repository) (first second : List Call) :
    repository.serve (first ++ second) =
      ((repository.serve first).1 ++ ((repository.serve first).2.serve second).1,
        ((repository.serve first).2.serve second).2) := by
  induction first generalizing repository with
  | nil => rfl
  | cons call rest ih =>
      cases call with
      | add measurement => exact ih (repository.add measurement)
      | drain =>
          rw [List.cons_append, serve, ih repository.drain.2]
          rfl

/-- What is added to a new repository is told by the snapshots taken from it, or pending. -/
theorem told_serve_fresh (resource : Option ResourceId) (capacity : Nat) (calls : List Call) :
    (calls.filterMap Call.measurement?).length =
      (((fresh resource capacity).serve calls).1.map Snapshot.told).sum +
        ((fresh resource capacity).serve calls).2.pending := by
  obtain ⟨⟨dropped, keeps⟩, taken⟩ := (keeps_fresh resource capacity).serve calls
  have sum := sum_eq_countP_flatten (taken.imp fun _ _ covers =>
    covers.told_eq.trans (congrFun List.countP_true _).symm)
  rw [sum, List.countP_true, keeps.pending_length, ← List.length_append, flatten_batches,
    List.nil_append]

end Repository

namespace Monitor

/-! ## Each repository by itself -/

def Call.asks (monitor : Monitor) (handle : RepositoryHandle) : Call → List Repository.Call
  | add used measurement => if used = handle then [.add measurement] else []
  | collect resource => if monitor.leads resource handle then [.drain] else []
  | collectAll =>
      if monitor.registrations.toList.any (fun found => found.handle = handle) then [.drain]
      else []
  | register .. | unregister _ | look _ => []

theorem Call.measurements_asks (monitor : Monitor) (handle : RepositoryHandle) (call : Call) :
    (call.asks monitor handle).filterMap Repository.Call.measurement? = call.added handle := by
  cases call with
  | add used measurement =>
      rw [asks, added]
      split <;> rfl
  | collect resource =>
      rw [asks]
      split <;> rfl
  | collectAll =>
      rw [asks]
      split <;> rfl
  | register | unregister | look => rfl

theorem serve_ite_drain (repository : Repository) (drains : Bool) :
    repository.serve (if drains then [.drain] else []) =
      (if drains then [repository.drain.1] else [],
        if drains then repository.drain.2 else repository) := by
  cases drains <;> rfl

/-- Of registrations with different handles at most one has a given handle. -/
theorem map_filter_of_apart {α : Type} {listed : List Registration}
    (apart : listed.Pairwise fun first second => first.handle ≠ second.handle)
    (handle : RepositoryHandle) (value : RepositoryHandle → α) :
    (listed.filter fun found => found.handle = handle).map (fun found => value found.handle) =
      if listed.any (fun found => found.handle = handle) then [value handle] else [] := by
  induction listed with
  | nil => rfl
  | cons found rest ih =>
      obtain ⟨first, others⟩ := List.pairwise_cons.mp apart
      by_cases same : found.handle = handle
      · have absent : rest.filter (fun other => other.handle = handle) = [] :=
          List.filter_eq_nil_iff.mpr fun other member isSame =>
            first other member (same.trans (of_decide_eq_true isSame).symm)
        simp [same, absent]
      · simp [same, ih others]

theorem leads_of_mem {monitor : Monitor} {found : Registration}
    (member : found ∈ monitor.registrations.toList) (handle : RepositoryHandle) :
    monitor.leads found.resource handle = decide (found.handle = handle) := by
  rw [leads, registration?_eq_some_iff.mpr ⟨member, rfl⟩]
  rfl

theorem repository_register (monitor : Monitor) (host : String) (port : UInt16)
    (resource : ResourceId) {handle : RepositoryHandle} (given : handle < monitor.issued) :
    (monitor.register host port resource).2.repository handle = monitor.repository handle := by
  rw [register]
  split
  · rfl
  · exact (repository_putRepository _ _ _ _).trans (if_neg (Nat.ne_of_gt given))

/-- The repository of a handle does what it would do alone. -/
theorem Sound.serve_asks {monitor : Monitor} (sound : monitor.Sound) {handle : RepositoryHandle}
    (given : handle < monitor.issued) (call : Call) :
    (monitor.repository handle).serve (call.asks monitor handle) =
      ((monitor.step call).taken handle, (monitor.serve call).2.repository handle) := by
  cases call with
  | register host port resource =>
      exact Prod.ext rfl (repository_register monitor host port resource given).symm
  | unregister resource => rfl
  | look resource => rfl
  | add used measurement =>
      refine Prod.ext ?_ ?_
      · rw [Call.asks]
        split <;> rfl
      · refine Eq.trans ?_ (repository_add monitor used handle measurement).symm
        rw [Call.asks]
        split <;> rfl
  | collect resource =>
      rw [Call.asks, serve_ite_drain]
      cases listed : monitor.registration? resource with
      | none =>
          have absent : monitor.leads resource handle = false := by rw [leads, listed]; rfl
          refine Prod.ext ?_ ?_
          · simp [Step.taken, Step.snapshots, step, Monitor.serve, collect, listed, absent]
          · simp [Monitor.serve, collect, listed, absent]
      | some found =>
          have leads : monitor.leads resource handle = decide (found.handle = handle) := by
            rw [leads, listed]; rfl
          refine Prod.ext ?_ ?_
          · by_cases same : found.handle = handle
            · simp [Step.taken, Step.snapshots, step, Monitor.serve, collect, listed, leads, same,
                drain]
            · simp [Step.taken, Step.snapshots, step, Monitor.serve, collect, listed, leads, same]
          · simp only [Monitor.serve, collect, listed, leads, repository_drain, decide_eq_true_eq]
  | collectAll =>
      obtain ⟨answers, repositories⟩ := monitor.collectEach_of_apart sound.pairwise
      rw [Call.asks, serve_ite_drain]
      refine Prod.ext ?_ (repositories handle).symm
      refine (map_filter_of_apart sound.pairwise handle
        fun handle => (monitor.repository handle).drain.1).symm.trans ?_
      change _ = ((monitor.collectEach monitor.registrations.toList).1.filter
        fun entry => monitor.leads entry.1 handle).map Prod.snd
      rw [answers, List.filter_map, List.map_map]
      refine congrArg _ (List.filter_congr ?_)
      intro found member
      exact (leads_of_mem member handle).symm

/-! ## Runs -/

theorem issued_le_serve (monitor : Monitor) (call : Call) :
    monitor.issued ≤ (monitor.serve call).2.issued := by
  cases call with
  | register host port resource =>
      rw [serve, register]
      split
      · exact Nat.le_refl _
      · exact Nat.le_succ _
  | collect resource =>
      rw [serve, collect]
      split <;> exact Nat.le_refl _
  | collectAll => exact Nat.le_of_eq (issued_collectEach _ _).symm
  | unregister | look | add => exact Nat.le_refl _

theorem issued_le_serveAll (monitor : Monitor) (calls : List Call) :
    monitor.issued ≤ (monitor.serveAll calls).issued := by
  induction calls generalizing monitor with
  | nil => exact Nat.le_refl _
  | cons call rest ih => exact Nat.le_trans (monitor.issued_le_serve call) (ih _)

theorem capacity_serve (monitor : Monitor) (call : Call) :
    (monitor.serve call).2.capacity = monitor.capacity := by
  cases call with
  | register host port resource =>
      rw [serve, register]
      split <;> rfl
  | collect resource =>
      rw [serve, collect]
      split <;> rfl
  | collectAll => exact capacity_collectEach _ _
  | unregister | look | add => rfl

theorem capacity_serveAll (monitor : Monitor) (calls : List Call) :
    (monitor.serveAll calls).capacity = monitor.capacity := by
  induction calls generalizing monitor with
  | nil => rfl
  | cons call rest ih => exact (ih _).trans (monitor.capacity_serve call)

theorem Sound.serveAll {monitor : Monitor} (sound : monitor.Sound) (calls : List Call) :
    (monitor.serveAll calls).Sound := by
  induction calls generalizing monitor with
  | nil => exact sound
  | cons call rest ih => exact ih (sound.serve call)

def asked (monitor : Monitor) (handle : RepositoryHandle) (calls : List Call) :
    List Repository.Call :=
  (monitor.steps calls).flatMap fun step => step.call.asks step.before handle

def taken (monitor : Monitor) (handle : RepositoryHandle) (calls : List Call) : List Snapshot :=
  (monitor.steps calls).flatMap (Step.taken handle)

theorem asked_cons (monitor : Monitor) (handle : RepositoryHandle) (call : Call)
    (rest : List Call) : monitor.asked handle (call :: rest) =
      call.asks monitor handle ++ (monitor.serve call).2.asked handle rest :=
  List.flatMap_cons

theorem taken_cons (monitor : Monitor) (handle : RepositoryHandle) (call : Call)
    (rest : List Call) : monitor.taken handle (call :: rest) =
      (monitor.step call).taken handle ++ (monitor.serve call).2.taken handle rest :=
  List.flatMap_cons

theorem measurements_asked (monitor : Monitor) (handle : RepositoryHandle) (calls : List Call) :
    (monitor.asked handle calls).filterMap Repository.Call.measurement? =
      calls.flatMap (Call.added handle) := by
  induction calls generalizing monitor with
  | nil => rfl
  | cons call rest ih =>
      rw [asked_cons, List.filterMap_append, call.measurements_asks, ih, List.flatMap_cons]

theorem Sound.serve_asked {monitor : Monitor} (sound : monitor.Sound) {handle : RepositoryHandle}
    (given : handle < monitor.issued) (calls : List Call) :
    (monitor.repository handle).serve (monitor.asked handle calls) =
      (monitor.taken handle calls, (monitor.serveAll calls).repository handle) := by
  induction calls generalizing monitor with
  | nil => rfl
  | cons call rest ih =>
      have later := ih (sound.serve call) (Nat.lt_of_lt_of_le given (monitor.issued_le_serve call))
      rw [asked_cons, Repository.serve_append, sound.serve_asks given call, later, taken_cons]
      rfl

/-- A handle that is not given out yet is not used, and nothing is collected under it. -/
theorem Sound.asks_of_unissued {monitor : Monitor} (sound : monitor.Sound)
    {held : List RepositoryHandle} (known : ∀ handle ∈ held, handle < monitor.issued) {call : Call}
    (uses : ∀ handle ∈ call.uses, handle ∈ held) {handle : RepositoryHandle}
    (unissued : monitor.issued ≤ handle) :
    call.asks monitor handle = [] ∧ (monitor.step call).taken handle = [] := by
  constructor
  · cases call with
    | add used measurement =>
        have given := known used (uses used List.mem_cons_self)
        exact if_neg (Nat.ne_of_lt (Nat.lt_of_lt_of_le given unissued))
    | collect resource =>
        rw [Call.asks, sound.leads_eq_false unissued]
        rfl
    | collectAll =>
        refine if_neg ?_
        rw [Bool.not_eq_true, List.any_eq_false]
        intro found member same
        have given := sound.given found member
        rw [of_decide_eq_true same] at given
        exact Nat.not_lt.mpr unissued given
    | register | unregister | look => rfl
  · refine List.map_eq_nil_iff.mpr (List.filter_eq_nil_iff.mpr fun entry _ => ?_)
    rw [show (monitor.step call).before = monitor from rfl, sound.leads_eq_false unissued]
    exact Bool.false_ne_true

theorem Sound.gives_lt {monitor : Monitor} (sound : monitor.Sound) (call : Call) :
    ∀ handle ∈ (monitor.serve call).1.gives, handle < (monitor.serve call).2.issued := by
  have listed {resource : ResourceId} {handle : RepositoryHandle}
      (gives : handle ∈ (Answer.registration (monitor.registration? resource)).gives) :
      handle < monitor.issued := by
    obtain ⟨found, inAnswer, rfl⟩ := Option.map_eq_some_iff.mp (Option.mem_toList.mp gives)
    exact sound.given found (registration?_eq_some_iff.mp inAnswer).1
  intro handle gives
  cases call with
  | register host port resource =>
      obtain rfl := List.mem_singleton.mp gives
      rw [Monitor.serve, Monitor.register]
      split
      · rename_i found registered
        exact sound.given found (registration?_eq_some_iff.mp registered).1
      · exact Nat.lt_succ_self _
  | unregister resource => exact listed gives
  | look resource => exact listed gives
  | add | collect | collectAll => cases gives

/-- A call that gives a new handle out makes an empty repository for it. -/
theorem serve_of_new (monitor : Monitor) {call : Call} {handle : RepositoryHandle}
    (unissued : monitor.issued ≤ handle) (given : handle < (monitor.serve call).2.issued) :
    ∃ resource, (monitor.serve call).2.repository handle =
      .fresh (some resource) monitor.capacity := by
  cases call with
  | register host port resource =>
      rw [serve, register] at given ⊢
      cases listed : monitor.registration? resource with
      | some found =>
          rw [listed] at given
          exact absurd given (Nat.not_lt.mpr unissued)
      | none =>
          rw [listed] at given
          obtain rfl : monitor.issued = handle :=
            Nat.le_antisymm unissued (Nat.lt_succ_iff.mp given)
          exact ⟨resource, (repository_putRepository _ _ _ _).trans (if_pos rfl)⟩
  | collect resource =>
      rw [serve, collect] at given
      split at given <;> exact absurd given (Nat.not_lt.mpr unissued)
  | collectAll =>
      exact absurd given (Nat.not_lt.mpr (Nat.le_trans
        (Nat.le_of_eq (issued_collectEach monitor monitor.registrations.toList)) unissued))
  | unregister | look | add => exact absurd given (Nat.not_lt.mpr unissued)

/-- From the call on that makes it, a repository does what a new one would do alone. -/
theorem Sound.exists_fresh {monitor : Monitor} (sound : monitor.Sound)
    {held : List RepositoryHandle} (known : ∀ handle ∈ held, handle < monitor.issued)
    {calls : List Call} (proper : Proper held (monitor.steps calls)) {handle : RepositoryHandle}
    (unissued : monitor.issued ≤ handle) (given : handle < (monitor.serveAll calls).issued) :
    ∃ resource, (Repository.fresh (some resource) monitor.capacity).serve
        (monitor.asked handle calls) =
      (monitor.taken handle calls, (monitor.serveAll calls).repository handle) := by
  induction calls generalizing monitor held with
  | nil => exact absurd given (Nat.not_lt.mpr unissued)
  | cons call rest ih =>
      have uses : ∀ handle ∈ call.uses, handle ∈ held := proper.1
      obtain ⟨asks, takes⟩ := sound.asks_of_unissued known uses unissued
      rw [asked_cons, taken_cons, asks, takes, List.nil_append, List.nil_append]
      rcases Nat.lt_or_ge handle (monitor.serve call).2.issued with now | later
      · obtain ⟨resource, made⟩ := monitor.serve_of_new unissued now
        refine ⟨resource, ?_⟩
        rw [← made]
        exact (sound.serve call).serve_asked now rest
      · have knownAfter : ∀ handle ∈ held ++ (monitor.serve call).1.gives,
            handle < (monitor.serve call).2.issued := by
          intro handle member
          rcases List.mem_append.mp member with before | new
          · exact Nat.lt_of_lt_of_le (known handle before) (monitor.issued_le_serve call)
          · exact sound.gives_lt call handle new
        have rests := ih (sound.serve call) knownAfter proper.2 later given
        rwa [capacity_serve] at rests

end Monitor

end ShardControl
