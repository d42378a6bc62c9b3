import ShardControl.Proofs.Deploy.Past

/-!
# Programs that nobody disturbs

While nobody else writes, a program finds the store as it left it, and what it
ends with depends on the other answers alone.  `Ensures` says what a program
ends with whenever these answers are as assumed.
-/

namespace ShardControl

variable {α β ε : Type} {slots : ShardSlots} {assume : List Moment → Moment → Prop}
  {scene : Scene}

/-- While nobody else writes, the program ends as said whenever it is answered as assumed. -/
def Ensures (slots : ShardSlots) (assume : List Moment → Moment → Prop)
    (post : α → Scene → Prop) (program : Program Control α) (scene : Scene) : Prop :=
  Obeys (.alone slots) (fun _ _ => True)
    (fun value last => Follows assume last.past → post value last) program scene

namespace Ensures

/-- Every run that is answered as assumed ends as said. -/
theorem of_runs {program : Program Control α} {post : α → Scene → Prop} {value : α} {last : Scene}
    (ensures : Ensures slots assume post program scene)
    (run : Runs (.alone slots) program scene value last) (assumed : Follows assume last.past) :
    post value last :=
  (Obeys.of_runs ensures (.of_forall fun _ _ _ => trivial) run).2 assumed

/-- Where nothing is assumed every run ends as said. -/
theorem of_run {program : Program Control α} {post : α → Scene → Prop} {value : α} {last : Scene}
    (ensures : Ensures slots (fun _ _ => True) post program scene)
    (run : Runs (.alone slots) program scene value last) : post value last :=
  ensures.of_runs run (.of_forall fun _ _ _ => trivial)

theorem of_obeys {program : Program Control α} {rule : List Moment → Moment → Prop}
    {post : α → Scene → Prop} (obeys : Obeys (.alone slots) rule post program scene) :
    Ensures slots assume post program scene :=
  obeys.mono (fun _ _ _ _ => trivial) fun _ _ ends _ => ends

theorem done {value : α} {post : α → Scene → Prop} (ends : post value scene) :
    Ensures slots assume post (.done value) scene :=
  fun _ => ends

theorem mono {program : Program Control α} {post wanted : α → Scene → Prop}
    (ensures : Ensures slots assume post program scene)
    (posts : ∀ value last, post value last → wanted value last) :
    Ensures slots assume wanted program scene :=
  Obeys.mono ensures (fun _ _ _ => id) fun value last ends assumed =>
    posts value last (ends assumed)

/-- Whoever ends was answered as assumed. -/
theorem assumed {program : Program Control α} {post : α → Scene → Prop}
    (ensures : Ensures slots assume post program scene) :
    Ensures slots assume (fun value last => post value last ∧ Follows assume last.past) program
      scene :=
  Obeys.mono ensures (fun _ _ _ => id) fun _ _ ends follows => ⟨ends follows, follows⟩

theorem and {program : Program Control α} {post other : α → Scene → Prop}
    (first : Ensures slots assume post program scene)
    (second : Ensures slots assume other program scene) :
    Ensures slots assume (fun value last => post value last ∧ other value last) program scene := by
  induction program generalizing scene with
  | done value => exact fun assumed => ⟨first assumed, second assumed⟩
  | call call next ih =>
      intro store reached holds answer allowed
      exact ⟨trivial, ih answer (first store reached holds answer allowed).2
        (second store reached holds answer allowed).2⟩

/-- Nothing is asked of a program that was answered otherwise before. -/
theorem of_not_assumed {program : Program Control α} {post : α → Scene → Prop}
    (other : ¬ Follows assume scene.past) : Ensures slots assume post program scene := by
  induction program generalizing scene with
  | done value => exact fun assumed => absurd assumed other
  | call call next ih =>
      intro store _ _ answer _
      exact ⟨trivial, ih answer fun assumed => other assumed.2⟩

theorem call {call : ControlCall} {next : call.Answer → Program Control α}
    {post : α → Scene → Prop}
    (ensures : ∀ answer : call.Answer, (World.alone slots).Allows call scene.store answer →
      assume scene.past ⟨scene.store, call, answer⟩ →
        Ensures slots assume post (next answer)
          ⟨(Moment.mk scene.store call answer).left, ⟨scene.store, call, answer⟩ :: scene.past⟩) :
    Ensures slots assume post (.call call next) scene := by
  rintro _ rfl _ answer allowed
  refine ⟨trivial, ?_⟩
  by_cases assumed : assume scene.past ⟨scene.store, call, answer⟩
  · exact ensures answer allowed assumed
  · exact of_not_assumed fun follows => assumed follows.1

theorem bind {program : Program Control α} {next : α → Program Control β}
    {post : β → Scene → Prop}
    (ensures : Ensures slots assume
      (fun value last => Ensures slots assume post (next value) last) program scene) :
    Ensures slots assume post (program.bind next) scene := by
  refine Obeys.bind (Obeys.mono ensures (fun _ _ _ => id) fun value last ends => ?_)
  by_cases assumed : Follows assume last.past
  · exact ends assumed
  · exact of_not_assumed assumed

theorem bindExcept {first : ExceptT ε (Program Control) α}
    {next : α → ExceptT ε (Program Control) β} {post : Except ε β → Scene → Prop}
    (ensures : Ensures slots assume (fun result last => match result with
      | .ok value => Ensures slots assume post (next value).run last
      | .error reason => post (.error reason) last) first.run scene) :
    Ensures slots assume post (first >>= next).run scene := by
  refine bind (ensures.mono ?_)
  rintro (reason | value) last reaches
  · exact done reaches
  · exact reaches

theorem bindInterpret {I : Interface}
    {meaning : (question : I.Call) → Program Control (I.Answer question)} {program : Program I α}
    {next : α → Program I β} {post : β → Scene → Prop}
    (ensures : Ensures slots assume
      (fun value last => Ensures slots assume post ((next value).interpret meaning) last)
      (program.interpret meaning) scene) :
    Ensures slots assume post ((program.bind next).interpret meaning) scene := by
  rw [Program.interpret_bind]
  exact bind ensures

/-- What was asked before stays asked. -/
theorem mem_past {program : Program Control α} {moment : Moment} (member : moment ∈ scene.past) :
    Ensures slots assume (fun _ last => moment ∈ last.past) program scene := by
  induction program generalizing scene with
  | done value => exact fun _ => member
  | call call next ih =>
      intro store _ _ answer _
      exact ⟨trivial, ih answer (List.mem_cons_of_mem _ member)⟩

/-! ## Single questions -/

/-- The store answers as it is and stays so, unless the question is a commit. -/
theorem store {call : StoreCall} {next : call.Answer → Program Control α} {post : α → Scene → Prop}
    (ensures : Ensures slots assume post (next (scene.store.respond call).1)
      ⟨(scene.store.respond call).2,
        ⟨scene.store, .store call, (scene.store.respond call).1⟩ :: scene.past⟩) :
    Ensures slots assume post (.call (.store call) next) scene := by
  apply Ensures.call
  rintro _ rfl _
  exact ensures

theorem ask {call : ControlCall} {post : Except DeployError call.Answer → Scene → Prop}
    (ensures : ∀ answer : call.Answer, (World.alone slots).Allows call scene.store answer →
      assume scene.past ⟨scene.store, call, answer⟩ →
        post (.ok answer)
          ⟨(Moment.mk scene.store call answer).left, ⟨scene.store, call, answer⟩ :: scene.past⟩) :
    Ensures slots assume post (Deploying.ask call).run scene :=
  .call fun answer allowed assumed => .done (ensures answer allowed assumed)

theorem askStore {call : StoreCall} {post : Except DeployError call.Value → Scene → Prop}
    (ensures : post ((scene.store.respond call).1.mapError .metadata)
      ⟨(scene.store.respond call).2,
        ⟨scene.store, .store call, (scene.store.respond call).1⟩ :: scene.past⟩) :
    Ensures slots assume post (Deploying.askStore call).run scene :=
  .store (.done ensures)

/-- A commit on the present sequence is accepted. -/
theorem askCommit {update : Update} {post : Except DeployError UInt64 → Scene → Prop}
    (expected : update.expected = scene.store.sequence)
    (ensures : post (.ok (scene.store.sequence + 1))
      ⟨scene.store.apply update,
        ⟨scene.store, .store (.commit update), .ok (scene.store.sequence + 1)⟩ :: scene.past⟩) :
    Ensures slots assume post (Deploying.askStore (.commit update)).run scene := by
  have accepted := Store.respond_commit_of_eq expected
  refine askStore ?_
  rw [accepted]
  exact ensures

theorem log {event : Event} {next : Unit → Program Control α} {post : α → Scene → Prop}
    (ensures : Ensures slots assume post (next ())
      ⟨scene.store, ⟨scene.store, .log event, ()⟩ :: scene.past⟩) :
    Ensures slots assume post ((Control.log event).bind next) scene :=
  Ensures.call fun _ _ _ => ensures

end Ensures

/-! ## Surroundings that answer as assumed -/

/-- If every question has an answer as assumed, a program has a run that is answered so. -/
theorem exists_run_assumed
    (answerable : ∀ past store call, ∃ answer, (World.alone slots).Allows call store answer ∧
      assume past ⟨store, call, answer⟩)
    (program : Program Control α) (scene : Scene) (before : Follows assume scene.past) :
    ∃ value last, Runs (.alone slots) program scene value last ∧ Follows assume last.past := by
  induction program generalizing scene with
  | done value => exact ⟨value, scene, .done value scene, before⟩
  | call call next ih =>
      obtain ⟨answer, allowed, assumed⟩ := answerable scene.past scene.store call
      obtain ⟨value, last, run, follows⟩ := ih answer
        ⟨(Moment.mk scene.store call answer).left, ⟨scene.store, call, answer⟩ :: scene.past⟩
        ⟨assumed, before⟩
      exact ⟨value, last, .ask rfl trivial allowed run, follows⟩

theorem exists_allowed (slots : ShardSlots) (store : Store) (call : ControlCall) :
    ∃ answer : call.Answer, (World.alone slots).Allows call store answer := by
  cases call with
  | store call => exact ⟨(store.respond call).1, rfl⟩
  | shard slot => exact ⟨slots.shard? slot, rfl⟩
  | _ => exact ⟨Scene.obliging _, trivial⟩

/-- A program that nobody disturbs ends if it is answered as assumed, and it ends as said. -/
structure Returns (slots : ShardSlots) (assume : List Moment → Moment → Prop)
    (post : α → Scene → Prop) (program : Program Control α) (scene : Scene) : Prop where
  ends : ∃ value last, Runs (.alone slots) program scene value last ∧ Follows assume last.past
  only : ∀ value last, Runs (.alone slots) program scene value last → Follows assume last.past →
    post value last

theorem Returns.of_ensures {program : Program Control α} {post : α → Scene → Prop}
    (answerable : ∀ past store call, ∃ answer, (World.alone slots).Allows call store answer ∧
      assume past ⟨store, call, answer⟩)
    (before : Follows assume scene.past) (ensures : Ensures slots assume post program scene) :
    Returns slots assume post program scene where
  ends := exists_run_assumed answerable program scene before
  only _ _ := ensures.of_runs

/-- Nobody but the program itself moves the store on. -/
theorem Runs.countP_commits {program : Program Control α} {value : α} {last : Scene}
    (run : Runs (.alone slots) program scene value last) :
    scene.store.commits + last.past.countP Moment.commits =
      last.store.commits + scene.past.countP Moment.commits := by
  induction run with
  | done value scene => rfl
  | @ask call next scene last value store answer reached _ allowed _ ih =>
      obtain rfl : scene.store = store := reached
      rw [List.countP_cons, Moment.commits_left allowed] at ih
      omega

theorem Runs.leads {program : Program Control α} {value : α} {last : Scene}
    (run : Runs (.alone slots) program scene value last) : scene.store.Leads last.store := by
  induction run with
  | done value scene => exact .refl _
  | @ask call next scene last value store answer reached _ _ _ ih =>
      obtain rfl : scene.store = store := reached
      exact (Moment.leads_left ⟨scene.store, call, answer⟩).trans ih

/-- A run without an accepted commit leaves the store as it was. -/
theorem Runs.store_eq {program : Program Control α} {value : α} {last : Scene}
    (run : Runs (.alone slots) program scene value last)
    (idle : last.past.countP Moment.commits = scene.past.countP Moment.commits) :
    last.store = scene.store := by
  have counts := run.countP_commits
  exact run.leads.eq_of_commits_eq (by omega)

namespace Scene

theorem follows_play {reply : (call : ControlCall) → call.Answer}
    (answers : ∀ (scene : Scene) (call : ControlCall),
      assume scene.past ⟨scene.store, call, (scene.answer reply call).1⟩)
    (program : Program Control α) (before : Follows assume scene.past) :
    Follows assume (scene.play reply program).2.past := by
  induction program generalizing scene with
  | done value => exact before
  | call call next ih => exact ih _ ⟨answers scene call, before⟩

/-- As in obliging surroundings, but no agent creates a replica. -/
def refusing : (call : ControlCall) → call.Answer
  | .createReplica node _ _ => .error (.unreachable node "connection refused")
  | call => obliging call

/-- As in obliging surroundings, but inspectors find every replica. -/
def hosting : (call : ControlCall) → call.Answer
  | .isDeployed _ _ => .ok true
  | call => obliging call

end Scene

end ShardControl
