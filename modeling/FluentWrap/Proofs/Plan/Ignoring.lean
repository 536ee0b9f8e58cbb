import FluentWrap.Proofs.Plan.Reduction

/-!
Ignoring methods by name. For a plan it makes no difference whether a planner ignores a name or the
source type has no method of that name, whatever else is ignored and whatever the predicates say.
-/

set_option autoImplicit false

namespace FluentWrap

namespace NameSet

def union (left right : NameSet) : NameSet :=
  left.insertAll right.toList

@[simp] theorem contains_union (left right : NameSet) (name : String) :
    (left.union right).contains name = (left.contains name || right.contains name) := by
  rw [union, contains_insertAll]
  exact Bool.or_comm _ _

end NameSet

def SourceType.without (source : SourceType) (names : NameSet) : SourceType :=
  { source with methods := source.methods.filter fun m => !names.contains m.name }

/-- The test of the names stands between the predicate and the classification; taken first it selects
the same methods. -/
theorem CandidateFilter.selectMethods_union (filter : CandidateFilter) (names : NameSet)
    (source : SourceType) :
    { filter with ignored := filter.ignored.union names }.selectMethods source =
      filter.selectMethods (source.without names) := by
  unfold selectMethods isIgnored SourceType.without Predicate.filter
  simp only [NameSet.contains_union, List.filter_filter]
  -- Both sides filter once, by a test of each method that looks at its name twice.
  congr 2
  funext m
  cases filter.ignored.contains m.name <;> cases names.contains m.name <;> simp

namespace Planner

variable {planner : Planner} {source : SourceType}

theorem plan_without (planner : Planner) (names : NameSet) (source : SourceType) :
    (planner.ignoring (planner.filter.ignored.union names)).plan source =
      planner.plan (source.without names) := by
  have selected := planner.filter.selectMethods_union names source
  unfold plan members ignoring
  rw [selected]
  rfl

theorem Produces.origin_of_isWrapper {w : Member} (produces : planner.Produces source w)
    (wraps : w.kind.isWrapper = true) :
    ∃ m ∈ source.methods, planner.Keeps m ∧ w.origin = some m.name := by
  cases produces with
  | setter member keeps | booleanDefault member keeps | adder member keeps =>
    exact ⟨_, member, keeps, rfl⟩
  | field | getter | hiddenConstructor | factory => cases wraps

/-- Ignoring more names gives the plan of the source without the methods of these names, and every
wrapper in it comes from a method of a name that is not ignored. -/
theorem plan_ignoring_union (planner : Planner) (ignored names : NameSet) (source : SourceType) :
    (planner.ignoring (ignored.union names)).plan source =
        (planner.ignoring ignored).plan (source.without names) ∧
      ∀ w ∈ ((planner.ignoring (ignored.union names)).plan source).members,
        w.kind.isWrapper = true → ∃ m ∈ source.methods, w.origin = some m.name ∧
          ignored.contains m.name = false ∧ names.contains m.name = false := by
  constructor
  · exact plan_without (planner.ignoring ignored) names source
  · intro w member wraps
    obtain ⟨m, listed, keeps, origin⟩ := (mem_members_plan.1 member).origin_of_isWrapper wraps
    have kept := (Bool.and_eq_true_iff.1 (keeps_iff.2 keeps)).2
    simp only [ignoring, CandidateFilter.isIgnored, NameSet.contains_union, Bool.not_or,
      Bool.and_eq_true, Bool.not_eq_true'] at kept
    exact ⟨m, listed, origin, kept⟩

theorem plan_textField_ignoring_union :
    let ignored := NameSet.ofList ["setId"]
    let names := NameSet.ofList ["addStyleName", "setImmediate"]
    let plan := ((default : Planner).ignoring (ignored.union names)).plan Samples.textField
    let w := Template.setterWrapper "setValue" Samples.string
    (w ∈ plan.members ∧ w.kind.isWrapper = true) ∧
      plan = ((default : Planner).ignoring ignored).plan (Samples.textField.without names) ∧
      ∃ m ∈ Samples.textField.methods, w.origin = some m.name ∧
        ignored.contains m.name = false ∧ names.contains m.name = false := by
  intro ignored names plan w
  have member : w ∈ plan.members := by decide
  have wraps : w.kind.isWrapper = true := rfl
  obtain ⟨same, origins⟩ := plan_ignoring_union default ignored names Samples.textField
  exact ⟨⟨member, wraps⟩, same, origins w member wraps⟩

end Planner

end FluentWrap
