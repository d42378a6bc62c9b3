import ShardControl.Proofs.Deploy.Conflict
import Mathlib.Data.List.Perm.Subperm

/-!
# Races of tasks

Tasks are executed on one store, one question at a time in any order, and
nobody else writes.  Each of them commits at most once, and a pass is refused
only after a commit of another task, so no task is refused as often as there
are tasks.
-/

namespace ShardControl

/-- A store with the tasks that are executed on it, and who asked what, the latest first. -/
structure Race where
  store : Store
  clients : List (Program Control (Except DeployError TaskState))
  journal : List (Nat × Moment)

namespace Race

def start (store : Store) (tasks : List DeployTask) : Race :=
  ⟨store, tasks.map DeployTask.execute, []⟩

inductive Step (race : Race) : Race → Prop where
  | ask (index : Nat) {call : ControlCall}
      {next : call.Answer → Program Control (Except DeployError TaskState)} {answer : call.Answer}
      (asks : race.clients[index]? = some (.call call next))
      (allowed : World.crowd.Allows call race.store answer) :
      Step race
        { store := (Moment.mk race.store call answer).left
          clients := race.clients.set index (next answer)
          journal := (index, ⟨race.store, call, answer⟩) :: race.journal }

/-- Any interleaving of the questions, up to any moment. -/
def Reaches : Race → Race → Prop := Relation.ReflTransGen Step

/-! ## The past of one task -/

def own (index : Nat) (journal : List (Nat × Moment)) : List Moment :=
  journal.filterMap fun entry => if entry.1 = index then some entry.2 else none

theorem own_cons_self (index : Nat) (moment : Moment) (journal : List (Nat × Moment)) :
    own index ((index, moment) :: journal) = moment :: own index journal := by
  simp [own]

theorem own_cons_of_ne {index other : Nat} (differ : other ≠ index) (moment : Moment)
    (journal : List (Nat × Moment)) :
    own index ((other, moment) :: journal) = own index journal := by
  simp [own, differ]

theorem own_append (index : Nat) (newer older : List (Nat × Moment)) :
    own index (newer ++ older) = own index newer ++ own index older :=
  List.filterMap_append

theorem mem_own_iff {index : Nat} {moment : Moment} {journal : List (Nat × Moment)} :
    moment ∈ own index journal ↔ (index, moment) ∈ journal := by
  simp [own]

/-- A split of what one task asked is a split of what was asked by all. -/
theorem exists_of_own_eq_append {index : Nat} {journal : List (Nat × Moment)}
    {newer older : List Moment} {moment : Moment}
    (split : own index journal = newer ++ moment :: older) :
    ∃ since before, journal = since ++ (index, moment) :: before ∧ own index since = newer := by
  obtain ⟨first, rest, rfl, since, onward⟩ := List.filterMap_eq_append_iff.mp split
  obtain ⟨skipped, ⟨asker, asked⟩, before, rfl, others, same, -⟩ :=
    List.filterMap_eq_cons_iff.mp onward
  have here : asker = index ∧ asked = moment := by simpa using same
  obtain ⟨rfl, rfl⟩ := here
  refine ⟨first ++ skipped, before, by simp, ?_⟩
  rw [own_append, show own asker skipped = [] from List.filterMap_eq_nil_iff.mpr others,
    List.append_nil]
  exact since

/-! ## Commits in the journal -/

def accepted (journal : List (Nat × Moment)) : Nat := journal.countP fun entry => entry.2.commits

def committers (journal : List (Nat × Moment)) : List Nat :=
  (journal.filter fun entry => entry.2.commits).map Prod.fst

theorem length_committers (journal : List (Nat × Moment)) :
    (committers journal).length = accepted journal := by
  rw [committers, List.length_map, accepted, List.countP_eq_length_filter]

theorem mem_committers_iff {index : Nat} {journal : List (Nat × Moment)} :
    index ∈ committers journal ↔ ∃ moment, (index, moment) ∈ journal ∧ moment.commits = true := by
  simp [committers]

/-! ## What every race keeps -/

/-- The journal counts the commits, and every task goes on soundly whatever happens. -/
structure Invariant (store : Store) (tasks : List DeployTask) (attempts : Nat) (race : Race) :
    Prop where
  counted : race.store.commits = store.commits + accepted race.journal
  /-- Every question found the store with the commits before it. -/
  dated : ∀ newer index moment older, race.journal = newer ++ (index, moment) :: older →
    moment.found.commits = store.commits + accepted older
  listed : ∀ index moment, (index, moment) ∈ race.journal → index < tasks.length
  length_eq : race.clients.length = tasks.length
  follows : ∀ index, Follows Races (own index race.journal)
  clients : ∀ index client, race.clients[index]? = some client →
    Obeys .crowd Races (DeployTask.Loses store.commits attempts) client
      ⟨race.store, own index race.journal⟩

variable {store : Store} {tasks : List DeployTask} {attempts : Nat} {race next last : Race}

theorem invariant_start (enough : ∀ task ∈ tasks, attempts ≤ task.plan.settings.commitAttempts) :
    Invariant store tasks attempts (.start store tasks) where
  counted := rfl
  dated newer index moment older split := by
    have never : [] ≠ newer ++ (index, moment) :: older := by simp
    exact absurd split never
  listed index moment member := absurd member List.not_mem_nil
  length_eq := List.length_map _
  follows _ := trivial
  clients index client here := by
    obtain ⟨task, there, rfl⟩ := Option.map_eq_some_iff.mp ((List.getElem?_map ..).symm.trans here)
    have member : task ∈ tasks := List.mem_of_getElem? there
    have waiting : DeployTask.Behind store.commits 0 ⟨store, []⟩ :=
      ⟨Undecided.nil, Nat.le_refl store.commits⟩
    refine (DeployTask.execute_races waiting).mono (fun _ _ _ => id) fun _ _ loses tries same => ?_
    have behind := loses tries same
    exact ⟨behind.undecided, Nat.le_trans (Nat.add_le_add_left (enough task member) _) behind.paid⟩

theorem Invariant.step (invariant : Invariant store tasks attempts race) (step : Step race next) :
    Invariant store tasks attempts next := by
  cases step with
  | @ask index call onwards answer asks allowed =>
      have obeys := invariant.clients index _ asks
      obtain ⟨kept, further⟩ := obeys race.store (.refl _) trivial answer allowed
      have onward := Moment.leads_left ⟨race.store, call, answer⟩
      refine ⟨?_, ?_, ?_, ?_, ?_, ?_⟩
      · change (Moment.mk race.store call answer).left.commits = _
        rw [Moment.commits_left allowed, invariant.counted, accepted, accepted, List.countP_cons,
          Nat.add_assoc]
      · intro newer other moment older split
        cases newer with
        | nil =>
            obtain ⟨same, rfl⟩ := List.cons.inj split
            cases same
            exact invariant.counted
        | cons entry newer =>
            exact invariant.dated newer other moment older (List.cons.inj split).2
      · intro other moment member
        rcases List.mem_cons.mp member with same | old
        · cases same
          rw [← invariant.length_eq]
          exact (List.getElem?_eq_some_iff.mp asks).1
        · exact invariant.listed other moment old
      · rw [List.length_set]
        exact invariant.length_eq
      · intro other
        by_cases same : index = other
        · subst same
          rw [own_cons_self]
          exact ⟨kept, invariant.follows index⟩
        · rw [own_cons_of_ne same]
          exact invariant.follows other
      · -- The task that asked goes on from its answer, and to the others it was a rival.
        intro other client here
        by_cases same : index = other
        · subst same
          rw [List.getElem?_set_self (List.getElem?_eq_some_iff.mp asks).1] at here
          cases here
          change Obeys _ _ _ _ ⟨_, own index ((index, _) :: race.journal)⟩
          rw [own_cons_self]
          exact further
        · rw [List.getElem?_set_ne same] at here
          change Obeys _ _ _ _ ⟨_, own other ((index, _) :: race.journal)⟩
          rw [own_cons_of_ne same]
          refine (invariant.clients other client here).later ?_ onward
          intro result scene changed loses reached tries same
          exact (loses tries same).later reached

theorem Invariant.of_reaches
    (enough : ∀ task ∈ tasks, attempts ≤ task.plan.settings.commitAttempts)
    (run : Reaches (.start store tasks) last) : Invariant store tasks attempts last := by
  induction run with
  | refl => exact invariant_start enough
  | tail _ step ih => exact ih.step step

/-! ## Refused commits -/

/-- Between the reading of a pass and its commit another task has committed. -/
def Overtaken (index : Nat) (expected : UInt64) (older : List (Nat × Moment)) : Prop :=
  ∃ since first before, older = since ++ (index, ⟨first, .store .topology, .ok first.topology⟩) ::
      before ∧
    expected = first.sequence ∧ (∀ moment, (index, moment) ∈ since → moment.settles? = none) ∧
    ∃ rival moment, (rival, moment) ∈ since ∧ rival ≠ index ∧ moment.commits = true

theorem Invariant.overtaken (invariant : Invariant store tasks attempts race)
    {newer older : List (Nat × Moment)} {index : Nat} {found : Store} {update : Update}
    {reason : MetadataError}
    (split : race.journal =
      newer ++ (index, ⟨found, .store (.commit update), .error reason⟩) :: older) :
    Overtaken index update.expected older := by
  have follows := invariant.follows index
  rw [split, own_append, own_cons_self] at follows
  obtain ⟨undecided, first, ⟨unsettled, before, read, settled⟩, based, overtaken⟩ := follows.at
  obtain ⟨since, before, rfl, same⟩ := exists_of_own_eq_append read
  have mine {moment : Moment} (member : (index, moment) ∈ since) : moment ∈ unsettled := by
    rw [← same]
    exact mem_own_iff.mpr member
  refine ⟨since, first, before, rfl, based, fun moment member => settled moment (mine member), ?_⟩
  -- The journal dates the reading and the commit, and somebody has committed in between.
  have reading := invariant.dated (newer ++ (index, _) :: since) index
    ⟨first, .store .topology, .ok first.topology⟩ before (by rw [split, List.append_assoc]; rfl)
  have commit := invariant.dated newer index _ _ split
  have counted : accepted (since ++ (index, ⟨first, .store .topology, .ok first.topology⟩) ::
      before) = accepted since + accepted before := by
    rw [accepted, List.countP_append, List.countP_cons]
    rfl
  rw [counted] at commit
  have some : 0 < accepted since := by
    change first.commits = _ at reading
    change found.commits = _ at commit
    omega
  obtain ⟨⟨rival, moment⟩, member, commits⟩ := List.countP_pos_iff.mp some
  refine ⟨rival, moment, member, ?_, commits⟩
  rintro rfl
  have never := (undecided moment (mem_own_iff.mpr (List.mem_append_left _ member))).1
  rw [commits] at never
  cases never

/-! ## Tasks that give up -/

/-- Nobody commits twice. -/
theorem nodup_committers {journal : List (Nat × Moment)}
    (follows : ∀ index, Follows Races (own index journal)) : (committers journal).Nodup := by
  induction journal with
  | nil => exact List.nodup_nil
  | cons entry rest ih =>
      obtain ⟨index, moment⟩ := entry
      have before : ∀ other, Follows Races (own other rest) := by
        intro other
        have now := follows other
        by_cases same : index = other
        · subst same
          rw [own_cons_self] at now
          exact now.2
        · rwa [own_cons_of_ne same] at now
      have rules := follows index
      rw [own_cons_self] at rules
      rw [committers, List.filter_cons]
      split
      · next commits =>
          rw [List.map_cons, List.nodup_cons]
          refine ⟨?_, ih before⟩
          intro again
          obtain ⟨earlier, member, committed⟩ := mem_committers_iff.mp again
          have undecided : Undecided (own index rest) := by
            obtain ⟨found, call, answer⟩ := moment
            cases call with
            | store call =>
                cases call with
                | commit update =>
                    cases answer with
                    | error reason => cases commits
                    | ok sequence => exact rules.1
                | _ => cases commits
            | _ => cases commits
          have never := (undecided earlier (mem_own_iff.mpr member)).1
          rw [committed] at never
          cases never
      · exact ih before

/-- While a task has not committed, fewer commits were accepted than there are tasks. -/
theorem Invariant.accepted_lt (invariant : Invariant store tasks attempts race) {index : Nat}
    (inside : index < tasks.length) (undecided : Undecided (own index race.journal)) :
    accepted race.journal < tasks.length := by
  have absent : index ∉ committers race.journal := by
    intro committed
    obtain ⟨moment, member, commits⟩ := mem_committers_iff.mp committed
    have never := (undecided moment (mem_own_iff.mpr member)).1
    rw [commits] at never
    cases never
  have nodup : (index :: committers race.journal).Nodup :=
    List.nodup_cons.mpr ⟨absent, nodup_committers invariant.follows⟩
  have inRange : index :: committers race.journal ⊆ List.range tasks.length := by
    intro other member
    rw [List.mem_range]
    rcases List.mem_cons.mp member with rfl | committed
    · exact inside
    · obtain ⟨moment, asked, _⟩ := mem_committers_iff.mp committed
      exact invariant.listed other moment asked
  have few := (List.subperm_of_subset nodup inRange).length_le
  rw [List.length_cons, length_committers, List.length_range] at few
  omega

/-- With at least as many attempts as there are tasks no task gives up, and whatever is refused was
overtaken by another task. -/
theorem not_commitConflict_of_reaches (run : Reaches (.start store tasks) last) :
    ((∀ task ∈ tasks, tasks.length ≤ task.plan.settings.commitAttempts) →
        ∀ tries, .done (.error (.commitConflict tries)) ∉ last.clients) ∧
      ∀ newer index found update reason older,
        last.journal = newer ++ (index, ⟨found, .store (.commit update), .error reason⟩) :: older →
          Overtaken index update.expected older := by
  constructor
  · intro enough tries member
    have invariant := Invariant.of_reaches enough run
    obtain ⟨index, inside, here⟩ := List.mem_iff_getElem.mp member
    have ended := invariant.clients index _ (List.getElem?_eq_some_iff.mpr ⟨inside, here⟩)
    have behind : DeployTask.Behind store.commits tasks.length _ := ended tries rfl
    have few := invariant.accepted_lt (invariant.length_eq ▸ inside) behind.undecided
    have paid := behind.paid
    have counted := invariant.counted
    change store.commits + tasks.length ≤ last.store.commits at paid
    omega
  · intro newer index found update reason older split
    have invariant : Invariant store tasks 0 last :=
      .of_reaches (fun _ _ => Nat.zero_le _) run
    exact invariant.overtaken split

/-! ## Schedules -/

def turn (reply : (call : ControlCall) → call.Answer) (race : Race) (index : Nat) : Race :=
  match race.clients[index]? with
  | some (.call call next) =>
      let answer := ((Scene.mk race.store []).answer reply call).1
      { store := (Moment.mk race.store call answer).left
        clients := race.clients.set index (next answer)
        journal := (index, ⟨race.store, call, answer⟩) :: race.journal }
  | _ => race

theorem reaches_turns (reply : (call : ControlCall) → call.Answer) (schedule : List Nat) :
    Reaches race (schedule.foldl (turn reply) race) := by
  induction schedule generalizing race with
  | nil => exact .refl
  | cons index rest ih =>
      refine Relation.ReflTransGen.trans ?_ ih
      cases asked : race.clients[index]? with
      | none =>
          have same : race.turn reply index = race := by rw [turn, asked]
          rw [same]
      | some client =>
          cases client with
          | done value =>
              have same : race.turn reply index = race := by rw [turn, asked]
              rw [same]
          | call call next =>
              have turned : Step race (race.turn reply index) := by
                simp only [turn, asked]
                exact .ask index asked
                  (Scene.allows_answer (fun _ => trivial) call ⟨race.store, []⟩)
              exact .single turned

def refuses : Nat × Moment → Bool
  | ⟨_, _, .store (.commit _), .error _⟩ => true
  | _ => false

def succeeds : Program Control (Except DeployError TaskState) → Bool
  | .done (.ok _) => true
  | _ => false

/-- One task is overtaken by the other after its reading, and succeeds on its second pass. -/
theorem not_commitConflict_of_reaches_small :
    let tasks := [DeployTask.small, { DeployTask.small with key := 2 }]
    let last := ([0] ++ List.replicate 9 1 ++ List.replicate 14 0).foldl (turn Scene.obliging)
      (start .small tasks)
    (∀ task ∈ tasks, tasks.length ≤ task.plan.settings.commitAttempts) ∧
      last.journal.countP refuses = 1 ∧ last.clients.countP succeeds = 2 ∧
      ∀ tries, .done (.error (.commitConflict tries)) ∉ last.clients := by
  intro tasks last
  have enough : ∀ task ∈ tasks, tasks.length ≤ task.plan.settings.commitAttempts := by decide
  have run : Reaches (start .small tasks) last := reaches_turns Scene.obliging _
  exact ⟨enough, by decide +kernel, by decide +kernel,
    (not_commitConflict_of_reaches run).1 enough⟩

end Race

end ShardControl
