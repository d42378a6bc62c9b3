import ShardControl.Deploy.Task
import ShardControl.Proofs.Store.Commit

/-!
# Conduct of programs among rivals

The programs of a plan share the store with rivals, who may commit between any
two questions of a program.  What a program does among them is told by its
past, the list of its questions with their answers, and a rule says which
question may follow which past.
-/

namespace ShardControl

/-- A question with its answer and the store that it found. -/
structure Moment where
  found : Store
  call : ControlCall
  answer : call.Answer

namespace Moment

def left : Moment → Store
  | ⟨found, .store call, _⟩ => (found.respond call).2
  | ⟨found, _, _⟩ => found

end Moment

/-- The store at one time, and what a program has asked until then, the latest first. -/
structure Scene where
  store : Store
  past : List Moment

/-- What a program can meet: what rivals do, which stores it finds, and what a plan has noted. -/
structure World where
  /-- What rivals may make of the store. -/
  may : Store → Store → Prop
  /-- What is true of every store that a question finds. -/
  holds : Store → Prop
  /-- The shards that may be noted in a slot. -/
  notes : Nat → Option ShardId → Prop
  refl : ∀ store, may store store
  trans : ∀ {first middle last}, may first middle → may middle last → may first last
  leads : ∀ {first last}, may first last → first.Leads last

namespace World

variable (world : World)

/-- The store answers as it is, slots as they are noted, and everything else in any way. -/
def Allows : (call : ControlCall) → Store → call.Answer → Prop
  | .store call, store, answer => answer = (store.respond call).1
  | .shard slot, _, answer => world.notes slot answer
  | _, _, _ => True

def rivals (holds : Store → Prop) : World where
  may := Store.Leads
  holds := holds
  notes _ _ := True
  refl := Store.Leads.refl
  trans := Store.Leads.trans
  leads := id

def crowd : World := rivals fun _ => True

/-- Nobody else writes. -/
def alone (slots : ShardSlots) : World where
  may := Eq
  holds _ := True
  notes slot shard := shard = slots.shard? slot
  refl _ := rfl
  trans := Eq.trans
  leads same := same ▸ Store.Leads.refl _

end World

section Conduct

variable {α β ε : Type} {world : World}

/-- A whole run of a program, from one scene to another. -/
inductive Runs (world : World) {α : Type} : Program Control α → Scene → α → Scene → Prop where
  | done (value : α) (scene : Scene) : Runs world (.done value) scene value scene
  | ask {call : ControlCall} {next : call.Answer → Program Control α} {scene last : Scene}
      {value : α} {store : Store} {answer : call.Answer}
      (reached : world.may scene.store store) (holds : world.holds store)
      (allowed : world.Allows call store answer)
      (rest : Runs world (next answer)
        ⟨(Moment.mk store call answer).left, ⟨store, call, answer⟩ :: scene.past⟩ value last) :
      Runs world (.call call next) scene value last

/-- Every question keeps to the rule, and what the program ends with is as said. -/
def Obeys (world : World) (rule : List Moment → Moment → Prop) (post : α → Scene → Prop) :
    Program Control α → Scene → Prop
  | .done value, scene => post value scene
  | .call call next, scene =>
      ∀ store, world.may scene.store store → world.holds store →
        ∀ answer, world.Allows call store answer →
          rule scene.past ⟨store, call, answer⟩ ∧
            Obeys world rule post (next answer)
              ⟨(Moment.mk store call answer).left, ⟨store, call, answer⟩ :: scene.past⟩

/-- Every moment of a past keeps to the rule. -/
def Follows (rule : List Moment → Moment → Prop) : List Moment → Prop
  | [] => True
  | moment :: older => rule older moment ∧ Follows rule older

theorem Follows.at {rule : List Moment → Moment → Prop} {newer older : List Moment}
    {moment : Moment} (follows : Follows rule (newer ++ moment :: older)) : rule older moment := by
  induction newer with
  | nil => exact follows.1
  | cons head tail ih => exact ih follows.2

theorem Follows.mono {rule other : List Moment → Moment → Prop} {past : List Moment}
    (follows : Follows rule past) (rules : ∀ older moment, rule older moment → other older moment) :
    Follows other past := by
  induction past with
  | nil => trivial
  | cons moment older ih => exact ⟨rules older moment follows.1, ih follows.2⟩

theorem Follows.of_forall {rule : List Moment → Moment → Prop} {past : List Moment}
    (kept : ∀ moment ∈ past, ∀ older, rule older moment) : Follows rule past := by
  induction past with
  | nil => trivial
  | cons moment older ih =>
      obtain ⟨first, rest⟩ := List.forall_mem_cons.mp kept
      exact ⟨first older, ih rest⟩

theorem Follows.of_mem {rule : List Moment → Moment → Prop} {past : List Moment} {moment : Moment}
    (follows : Follows rule past) (member : moment ∈ past) : ∃ older, rule older moment := by
  obtain ⟨newer, older, rfl⟩ := List.append_of_mem member
  exact ⟨older, follows.at⟩

namespace Obeys

variable {rule : List Moment → Moment → Prop} {scene : Scene}

/-- A run of a program that obeys keeps to the rule from its first question to its last. -/
theorem of_runs {program : Program Control α} {post : α → Scene → Prop} {value : α} {last : Scene}
    (obeys : Obeys world rule post program scene) (before : Follows rule scene.past)
    (run : Runs world program scene value last) : Follows rule last.past ∧ post value last := by
  induction run with
  | done value scene => exact ⟨before, obeys⟩
  | ask reached holds allowed rest ih =>
      obtain ⟨kept, further⟩ := obeys _ reached holds _ allowed
      exact ih further ⟨kept, before⟩

theorem mono {program : Program Control α} {other : List Moment → Moment → Prop}
    {post wanted : α → Scene → Prop} (obeys : Obeys world rule post program scene)
    (rules : ∀ older moment, world.holds moment.found → rule older moment → other older moment)
    (posts : ∀ value last, post value last → wanted value last) :
    Obeys world other wanted program scene := by
  induction program generalizing scene with
  | done value => exact posts value scene obeys
  | call call next ih =>
      intro store reached holds answer allowed
      obtain ⟨kept, further⟩ := obeys store reached holds answer allowed
      exact ⟨rules _ _ holds kept, ih answer further⟩

/-- What rivals do while a program waits does not matter to it. -/
theorem later {program : Program Control α} {post : α → Scene → Prop} {store : Store}
    (stable : ∀ value last changed, post value last → world.may last.store changed →
      post value ⟨changed, last.past⟩)
    (reached : world.may scene.store store) (obeys : Obeys world rule post program scene) :
    Obeys world rule post program ⟨store, scene.past⟩ := by
  cases program with
  | done value => exact stable value scene store obeys reached
  | call call next =>
      -- Rivals may write before any question, so it makes no difference that they just did.
      intro changed onward
      exact obeys changed (world.trans reached onward)

theorem bind {program : Program Control α} {next : α → Program Control β}
    {post : β → Scene → Prop}
    (obeys : Obeys world rule (fun value => Obeys world rule post (next value)) program scene) :
    Obeys world rule post (program.bind next) scene := by
  induction program generalizing scene with
  | done value => exact obeys
  | call call rest ih =>
      intro store reached holds answer allowed
      obtain ⟨kept, further⟩ := obeys store reached holds answer allowed
      exact ⟨kept, ih answer further⟩

/-- Where the first part fails the second one does not come. -/
theorem bindExcept {first : ExceptT ε (Program Control) α}
    {next : α → ExceptT ε (Program Control) β} {post : Except ε β → Scene → Prop}
    (obeys : Obeys world rule (fun result last => match result with
      | .ok value => Obeys world rule post (next value).run last
      | .error reason => post (.error reason) last) first.run scene) :
    Obeys world rule post (first >>= next).run scene := by
  refine bind (obeys.mono (fun _ _ _ => id) ?_)
  rintro (reason | value) last reaches
  · exact reaches
  · exact reaches

/-! ## Questions of a deployment -/

theorem ask {call : ControlCall} {post : Except DeployError call.Answer → Scene → Prop}
    (obeys : ∀ store, world.may scene.store store → world.holds store →
      ∀ answer, world.Allows call store answer →
        rule scene.past ⟨store, call, answer⟩ ∧
          post (.ok answer)
            ⟨(Moment.mk store call answer).left, ⟨store, call, answer⟩ :: scene.past⟩) :
    Obeys world rule post (Deploying.ask call).run scene :=
  obeys

theorem log {event : Event} {post : Except DeployError Unit → Scene → Prop}
    (kept : ∀ store, world.may scene.store store → rule scene.past ⟨store, .log event, ()⟩)
    (obeys : ∀ store, world.may scene.store store →
      post (.ok ()) ⟨store, ⟨store, .log event, ()⟩ :: scene.past⟩) :
    Obeys world rule post (Deploying.log event).run scene := by
  intro store reached _ answer _
  exact ⟨kept store reached, obeys store reached⟩

theorem askStore {call : StoreCall} {post : Except DeployError call.Value → Scene → Prop}
    (obeys : ∀ store, world.may scene.store store → world.holds store →
      let moment : Moment := ⟨store, .store call, (store.respond call).1⟩
      rule scene.past moment ∧
        post ((store.respond call).1.mapError .metadata) ⟨moment.left, moment :: scene.past⟩) :
    Obeys world rule post (Deploying.askStore call).run scene := by
  intro store reached holds answer allowed
  obtain rfl : answer = (store.respond call).1 := allowed
  exact obeys store reached holds

/-- A commit is accepted on the sequence that it expects, and otherwise changes nothing. -/
theorem askCommit {update : Update} {post : Except DeployError UInt64 → Scene → Prop}
    (accepted : ∀ store, world.may scene.store store → world.holds store →
      update.expected = store.sequence →
        let moment : Moment := ⟨store, .store (.commit update), .ok (store.sequence + 1)⟩
        rule scene.past moment ∧
          post (.ok (store.sequence + 1)) ⟨store.apply update, moment :: scene.past⟩)
    (refused : ∀ store, world.may scene.store store → world.holds store →
      update.expected ≠ store.sequence →
        let reason : MetadataError := .conflict update.expected store.sequence
        let moment : Moment := ⟨store, .store (.commit update), .error reason⟩
        rule scene.past moment ∧
          post (.error (.metadata reason)) ⟨store, moment :: scene.past⟩) :
    Obeys world rule post (Deploying.askStore (.commit update)).run scene := by
  apply askStore
  intro store reached holds
  by_cases same : update.expected = store.sequence
  · have kept := accepted store reached holds same
    simp only [Moment.left, Store.respond_commit_of_eq same]
    exact kept
  · have kept := refused store reached holds same
    simp only [Moment.left, Store.respond_commit_of_ne same]
    exact kept

end Obeys

end Conduct

/-! ## Runs without rivals -/

namespace Scene

/-- Nobody else writes, and everything but the store answers as told. -/
def answer (reply : (call : ControlCall) → call.Answer) (call : ControlCall) (scene : Scene) :
    call.Answer × Scene :=
  let found : call.Answer := match call with
    | .store call => (scene.store.respond call).1
    | other => reply other
  (found, ⟨(Moment.mk scene.store call found).left, ⟨scene.store, call, found⟩ :: scene.past⟩)

theorem allows_answer {world : World} {reply : (call : ControlCall) → call.Answer}
    (noted : ∀ slot, world.notes slot (reply (.shard slot))) (call : ControlCall) (scene : Scene) :
    world.Allows call scene.store (scene.answer reply call).1 := by
  cases call with
  | store call => exact rfl
  | shard slot => exact noted slot
  | _ => trivial

variable {α : Type}

/-- What a program ends with in these surroundings, and the scene that it leaves. -/
def play (scene : Scene) (reply : (call : ControlCall) → call.Answer)
    (program : Program Control α) : α × Scene :=
  program.run (answer reply) scene

theorem past_suffix_play (scene : Scene) (reply : (call : ControlCall) → call.Answer)
    (program : Program Control α) : scene.past <:+ (scene.play reply program).2.past := by
  induction program generalizing scene with
  | done value => exact List.suffix_refl _
  | call call next ih => exact (List.suffix_cons _ _).trans (ih _ (scene.answer reply call).2)

/-- A run in these surroundings is one that the world allows if every store it finds is. -/
theorem runs_play {world : World} {reply : (call : ControlCall) → call.Answer}
    (noted : ∀ slot, world.notes slot (reply (.shard slot))) (program : Program Control α)
    (scene : Scene)
    (holds : ∀ moment ∈ (scene.play reply program).2.past, world.holds moment.found) :
    Runs world program scene (scene.play reply program).1 (scene.play reply program).2 := by
  induction program generalizing scene with
  | done value => exact .done value scene
  | call call next ih =>
      refine .ask (world.refl _) ?_ (allows_answer noted call scene)
        (ih _ (scene.answer reply call).2 holds)
      have suffix := past_suffix_play (scene.answer reply call).2 reply
        (next (scene.answer reply call).1)
      exact holds ⟨scene.store, call, _⟩ (suffix.subset List.mem_cons_self)

/-- Agents and monitor do what they are asked, inspectors find nothing, and threads can be
started. -/
def obliging : (call : ControlCall) → call.Answer
  | .store _ => .error .io
  | .shard _ => none
  | .isCancelled => false
  | .cancel => ()
  | .resolved _ => none
  | .resolve .. => ()
  | .findAgent .. => .ok ()
  | .createReplica .. => .ok true
  | .register .. => ()
  | .isDeployed .. => .ok false
  | .disable .. => .ok ()
  | .spawn .. => .ok ()
  | .clock _ => (0 : Nat)
  | .rest _ => ()
  | .sleep _ => false
  | .log _ => ()

end Scene

/-- A store with one storage node and one shard without members. -/
def Store.small : Store :=
  .start
    { Topology.named "small" with
      sequence := 7
      datacenters := KeyedMap.ofList [⟨⟨1⟩, "dc", .primary⟩]
      storageNodes := KeyedMap.ofList [⟨⟨1⟩, ⟨1⟩, "host", 5000⟩]
      shards := KeyedMap.ofList [.fresh ⟨1⟩] }
    { Parameters.ofPolicies .standard with
      storageNodes := KeyedMap.ofList [⟨⟨1⟩, "host", ⟨5010, 5012⟩, 0, 4, 1⟩] }

def DeployTask.small : DeployTask where
  key := 1
  plan := ⟨1, .standard⟩
  storageNode := ⟨1⟩
  host := "sn1(host:5000)"
  target := .existing ⟨1⟩
  directory := none

end ShardControl
