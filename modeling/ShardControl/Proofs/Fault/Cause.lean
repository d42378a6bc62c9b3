import ShardControl.Fault.Classification

/-!
# Causes of faults

A fault that is raised while a query runs carries its cause, which may be the
fault of another query.  However deep the cause lies, it alone decides what the
caller is told and what happens to the process.
-/

namespace ShardControl.ServiceFault

/-! ## Causes -/

/-- A fault is raised by a cause that is no query's, through any number of queries. -/
inductive Underlies (cause : ServiceFault) : ServiceFault → Prop where
  | itself (direct : ∀ inner, cause ≠ .queryRuntime inner) : Underlies cause cause
  | query {fault : ServiceFault} (inner : Underlies cause fault) :
      Underlies cause (.queryRuntime fault)

def cause : ServiceFault → ServiceFault
  | queryRuntime inner => inner.cause
  | fault => fault

theorem underlies_cause (fault : ServiceFault) : fault.cause.Underlies fault := by
  induction fault with
  | queryRuntime inner ih => exact .query ih
  | surfaced | sessionAccess | security | metadataNotFound | clientAccess | environmentRetry
  | tableVersion | environmentFailure | internal => exact .itself fun _ same => nomatch same

theorem direct_cause (fault inner : ServiceFault) : fault.cause ≠ .queryRuntime inner := by
  induction fault with
  | queryRuntime _ ih => exact ih
  | surfaced | sessionAccess | security | metadataNotFound | clientAccess | environmentRetry
  | tableVersion | environmentFailure | internal => exact fun same => nomatch same

theorem cause_of_direct {fault : ServiceFault} (direct : ∀ inner, fault ≠ .queryRuntime inner) :
    fault.cause = fault := by
  cases fault with
  | queryRuntime inner => exact absurd rfl (direct inner)
  | surfaced | sessionAccess | security | metadataNotFound | clientAccess | environmentRetry
  | tableVersion | environmentFailure | internal => rfl

theorem classify_of_direct {fault : ServiceFault}
    (direct : ∀ inner, fault ≠ .queryRuntime inner) (default : ExitPolicy) :
    fault.classify default = ⟨fault.surface, fault.exitPolicy default⟩ := by
  cases fault with
  | queryRuntime inner => exact absurd rfl (direct inner)
  | surfaced | sessionAccess | security | metadataNotFound | clientAccess | environmentRetry
  | tableVersion | environmentFailure | internal => rfl

namespace Underlies

variable {cause fault : ServiceFault}

/-- A fault has one cause. -/
theorem eq_cause (underlies : cause.Underlies fault) : cause = fault.cause := by
  induction underlies with
  | itself direct => exact (cause_of_direct direct).symm
  | query _ ih => exact ih

theorem surface_eq (underlies : cause.Underlies fault) : fault.surface = cause.surface := by
  induction underlies with
  | itself => rfl
  | query _ ih => exact ih

theorem exitPolicy_eq (underlies : cause.Underlies fault) (default : ExitPolicy) :
    fault.exitPolicy default = cause.exitPolicy default := by
  induction underlies with
  | itself => rfl
  | query _ ih => exact ih

theorem classify_eq (underlies : cause.Underlies fault) (default : ExitPolicy) :
    fault.classify default = ⟨cause.surface, cause.exitPolicy default⟩ := by
  induction underlies with
  | itself direct => exact classify_of_direct direct default
  | query _ ih => exact ih

/-- Every query puts its own words in front of the text of the cause. -/
theorem length_text (underlies : cause.Underlies fault) :
    fault = cause ∨ cause.text.length < fault.text.length := by
  induction underlies with
  | itself => exact .inl rfl
  | @query fault _ ih =>
      have words : 0 < "query runtime fault: ".length := by decide
      have longer : fault.text.length < (queryRuntime fault).text.length := by
        change _ < ("query runtime fault: " ++ fault.text).length
        simpa only [String.length_append] using Nat.lt_add_of_pos_left words
      rcases ih with rfl | shorter
      · exact .inr longer
      · exact .inr (Nat.lt_trans shorter longer)

end Underlies

/-! ## Kinds of causes -/

/-- The environment is damaged, so that a restart would not help. -/
def IsCorrupted (fault : ServiceFault) : Prop := ∃ message, fault = .environmentFailure message true

/-- The operation fails, and nothing else is wrong. -/
def FailsOperation (fault : ServiceFault) : Prop :=
  (∃ seen, fault = .surfaced seen) ∨ (∃ message, fault = .sessionAccess message) ∨
    (∃ message, fault = .environmentRetry message) ∨ ∃ message, fault = .tableVersion message

/-- The node itself has failed. -/
def FailsNode (fault : ServiceFault) : Prop :=
  (∃ message corrupted, fault = .environmentFailure message corrupted) ∨
    ∃ message, fault = .internal message

theorem exitPolicy_of_isCorrupted {fault : ServiceFault} (corrupted : fault.IsCorrupted)
    (default : ExitPolicy) : fault.exitPolicy default = .noRestart := by
  obtain ⟨message, rfl⟩ := corrupted
  rfl

theorem exitPolicy_of_failsOperation {fault : ServiceFault} (fails : fault.FailsOperation)
    (default : ExitPolicy) : fault.exitPolicy default = .none := by
  rcases fails with ⟨seen, rfl⟩ | ⟨message, rfl⟩ | ⟨message, rfl⟩ | ⟨message, rfl⟩ <;> rfl

/-- Any other fault that is no query's takes the default. -/
theorem exitPolicy_of_other {fault : ServiceFault} (direct : ∀ inner, fault ≠ .queryRuntime inner)
    (sound : ¬ fault.IsCorrupted) (grave : ¬ fault.FailsOperation) (default : ExitPolicy) :
    fault.exitPolicy default = default := by
  cases fault with
  | queryRuntime inner => exact absurd rfl (direct inner)
  | surfaced seen => exact absurd (.inl ⟨seen, rfl⟩) grave
  | sessionAccess message => exact absurd (.inr (.inl ⟨message, rfl⟩)) grave
  | environmentRetry message => exact absurd (.inr (.inr (.inl ⟨message, rfl⟩))) grave
  | tableVersion message => exact absurd (.inr (.inr (.inr ⟨message, rfl⟩))) grave
  | environmentFailure message corrupted =>
      cases corrupted with
      | true => exact absurd ⟨message, rfl⟩ sound
      | false => rfl
  | security | metadataNotFound | clientAccess | internal => rfl

theorem surface_of_failsNode {fault : ServiceFault} (fails : fault.FailsNode) :
    fault.surface = .fault fault.text true false := by
  rcases fails with ⟨message, corrupted, rfl⟩ | ⟨message, rfl⟩ <;> rfl

/-! ## Classification by the cause -/

/-- A fault is classified by its cause, whatever lies between them. -/
structure ClassifiedBy (default : ExitPolicy) (fault cause : ServiceFault) : Prop where
  underlies : cause.Underlies fault
  only : ∀ other, other.Underlies fault → other = cause
  /-- Faults of the same cause are classified alike. -/
  alike : ∀ other, cause.Underlies other → other.classify default = fault.classify default
  surfaced : (fault.classify default).surfaced = cause.surface
  surface : fault.surface = cause.surface
  exitPolicy : (fault.classify default).exitPolicy = cause.exitPolicy default
  /-- The policy can also be decided for the fault as it stands. -/
  unopened : (fault.classify default).exitPolicy = fault.exitPolicy default
  corrupted : cause.IsCorrupted → (fault.classify default).exitPolicy = .noRestart
  operation : cause.FailsOperation → (fault.classify default).exitPolicy = .none
  otherwise : ¬ cause.IsCorrupted → ¬ cause.FailsOperation →
    (fault.classify default).exitPolicy = default
  /-- The caller is told the text of the cause, and not that of a query around it. -/
  node : cause.FailsNode → (fault.classify default).surfaced = .fault cause.text true false ∧
    (fault ≠ cause → cause.text ≠ fault.text)

theorem classified_by_cause (default : ExitPolicy) (fault : ServiceFault) :
    ClassifiedBy default fault fault.cause := by
  have underlies := fault.underlies_cause
  have classified := underlies.classify_eq default
  have policy : (fault.classify default).exitPolicy = fault.cause.exitPolicy default :=
    congrArg FaultDecision.exitPolicy classified
  refine ⟨underlies, fun _ => Underlies.eq_cause, fun other same => ?_,
    congrArg FaultDecision.surfaced classified, underlies.surface_eq, policy,
    policy.trans (underlies.exitPolicy_eq default).symm, fun corrupted => ?_, fun fails => ?_,
    fun sound grave => ?_, fun fails => ⟨?_, fun wrapped same => ?_⟩⟩
  · rw [same.classify_eq, classified]
  · rw [policy, exitPolicy_of_isCorrupted corrupted]
  · rw [policy, exitPolicy_of_failsOperation fails]
  · rw [policy, exitPolicy_of_other fault.direct_cause sound grave]
  · rw [classified, surface_of_failsNode fails]
  · rcases underlies.length_text with direct | shorter
    · exact wrapped direct
    · exact Nat.ne_of_lt shorter (congrArg String.length same)

/-- Not even a default that keeps the process keeps one whose environment is damaged. -/
example : (classify .none
    (.queryRuntime (.queryRuntime (.environmentFailure "log" true)))).exitPolicy = .noRestart :=
  rfl

end ShardControl.ServiceFault
