import FluentWrap.Proofs.Plan.Declarability
import FluentWrap.Samples
import Mathlib.Data.List.Flatten
import Mathlib.Data.List.Perm.Subperm

/-!
Which plans can be declared together. The order in which a source type lists its members decides in
which order they are declared and which of them is refused first, but not whether one is refused.
And where a plan can be declared, so can every plan for the same class that promises less: taking
members away, or ignoring methods, never makes a class impossible.
-/

set_option autoImplicit false

namespace FluentWrap

theorem Member.Clash.symm {a b : Member} (clash : a.Clash b) : b.Clash a :=
  key_eq_iff.1 (key_eq_iff.2 clash).symm

namespace Plan

/-- Whether a plan is for the same class as another and its members are, in whatever order, among
those of the other. -/
structure PartOf (part whole : Plan) : Prop where
  generated : part.generated = whole.generated
  fieldName : part.fieldName = whole.fieldName
  members : part.members.Subperm whole.members

variable {part whole : Plan}

theorem PartOf.declarable (within : part.PartOf whole) (declarable : whole.Declarable) :
    part.Declarable := by
  obtain ⟨arranged, perm, sublist⟩ := within.members
  have apart := declarable.apart.sublist sublist
  -- That two members clash does not depend on which of them comes first.
  have turned : ∀ {a b : Member}, ¬ a.Clash b → ¬ b.Clash a := fun apart clash => apart clash.symm
  refine ⟨?_, fun m member => ?_, (perm.pairwise_iff turned).1 apart⟩
  · rw [within.generated, within.fieldName]
    exact declarable.openable
  · exact declarable.usable m (within.members.subset member)

theorem PartOf.stage {model : CodeModel} (within : part.PartOf whole)
    (staged : ∃ c, model.stage whole = .ok c) : ∃ c, model.stage part = .ok c := by
  obtain ⟨free, declarable⟩ := CodeModel.stage_isOk_iff.1 staged
  rw [← within.generated] at free
  exact CodeModel.stage_isOk_iff.2 ⟨free, within.declarable declarable⟩

end Plan

namespace Planner

variable {planner : Planner} {source : SourceType} {constructors : List Constructor}
  {methods : List Method} {ignored : NameSet}

def ignoring (planner : Planner) (ignored : NameSet) : Planner :=
  { planner with filter := { planner.filter with ignored } }

theorem members_plan_with (planner : Planner) (source : SourceType)
    (constructors : List Constructor) (methods : List Method) :
    (planner.plan { source with constructors, methods }).members =
      scaffold source
        ++ (planner.filter.constructors.filter constructors).map (factoryOf source)
        ++ methods.flatMap planner.wrappersFor :=
  members_plan planner { source with constructors, methods }

theorem members_plan_perm (sameConstructors : source.constructors.Perm constructors)
    (sameMethods : source.methods.Perm methods) :
    (planner.plan { source with constructors, methods }).members.Perm
      (planner.plan source).members := by
  have factories := (sameConstructors.filter planner.filter.constructors.check).map
    (factoryOf source)
  have wrappers := sameMethods.flatMap_right planner.wrappersFor
  rw [members_plan_with, members_plan]
  exact ((List.Perm.refl _).append factories.symm).append wrappers.symm

/-- Ignoring more takes from a method all that it contributes, or nothing. -/
theorem wrappersFor_ignoring
    (more : ∀ name, planner.filter.ignored.contains name = true → ignored.contains name = true)
    (m : Method) : ((planner.ignoring ignored).wrappersFor m).Sublist (planner.wrappersFor m) := by
  unfold wrappersFor ignoring CandidateFilter.isIgnored
  dsimp only
  cases taken : ignored.contains m.name with
  | true => simp
  | false =>
    have before : planner.filter.ignored.contains m.name = false := by
      by_contra contained
      rw [more m.name (by simpa using contained)] at taken
      cases taken
    rw [before]

theorem members_plan_sublist (fewerConstructors : constructors.Sublist source.constructors)
    (fewerMethods : methods.Sublist source.methods)
    (more : ∀ name, planner.filter.ignored.contains name = true → ignored.contains name = true) :
    ((planner.ignoring ignored).plan { source with constructors, methods }).members.Sublist
      (planner.plan source).members := by
  have factories := (fewerConstructors.filter planner.filter.constructors.check).map
    (factoryOf source)
  have kept := List.Sublist.flatMap_right methods fun m _ => wrappersFor_ignoring more m
  have wrappers := kept.trans (fewerMethods.flatMap planner.wrappersFor)
  rw [members_plan_with, members_plan]
  exact ((List.Sublist.refl _).append factories).append wrappers

def clashing : SourceType :=
  { SourceType.ofName "a.Odd" with
    methods := [.ofTypes "setA" [Samples.int], .ofTypes "seta" [Samples.int]] }

theorem stage_clashing :
    (CodeModel.stampedWith none).stage ((default : Planner).plan clashing) =
        .error (.conflict "a.FluentOdd" "a(int)") ∧
      ((CodeModel.stampedWith none).stage
        (((default : Planner).ignoring (.ofList ["seta"])).plan clashing)).isOk = true := by
  decide

/-- The order of constructors and methods changes only the order of the planned members, and a class
can be declared in one order exactly if it can in another. If it can, then so can the class without
any of the constructors and methods and with more methods ignored; a class that cannot be declared
may become possible so. -/
theorem stage_rearranged (model : CodeModel) (planner : Planner) (source : SourceType) :
    (∀ constructors methods, source.constructors.Perm constructors →
      source.methods.Perm methods →
        let other := { source with constructors, methods }
        (planner.plan other).members.Perm (planner.plan source).members ∧
          ((∃ c, model.stage (planner.plan other) = .ok c) ↔
            ∃ c, model.stage (planner.plan source) = .ok c)) ∧
    ((∃ c, model.stage (planner.plan source) = .ok c) →
      ∀ constructors methods ignored, constructors.Sublist source.constructors →
        methods.Sublist source.methods →
        (∀ name, planner.filter.ignored.contains name = true → ignored.contains name = true) →
          ∃ c, model.stage
            ((planner.ignoring ignored).plan { source with constructors, methods }) = .ok c) ∧
    ∃ ignored, (∃ className m, (CodeModel.stampedWith none).stage
        ((default : Planner).plan clashing) = .error (.conflict className m)) ∧
      ∃ c, (CodeModel.stampedWith none).stage
        (((default : Planner).ignoring ignored).plan clashing) = .ok c := by
  refine ⟨fun constructors methods sameConstructors sameMethods => ?_,
    fun staged constructors methods ignored fewerConstructors fewerMethods more => ?_, ?_⟩
  · have perm : (planner.plan { source with constructors, methods }).members.Perm
        (planner.plan source).members := members_plan_perm sameConstructors sameMethods
    have fromSource : (planner.plan { source with constructors, methods }).PartOf
        (planner.plan source) := ⟨rfl, rfl, perm.subperm⟩
    have toSource : (planner.plan source).PartOf
        (planner.plan { source with constructors, methods }) := ⟨rfl, rfl, perm.symm.subperm⟩
    exact ⟨perm, toSource.stage, fromSource.stage⟩
  · have sublist := members_plan_sublist fewerConstructors fewerMethods more
    have within : ((planner.ignoring ignored).plan { source with constructors, methods }).PartOf
        (planner.plan source) := ⟨rfl, rfl, sublist.subperm⟩
    exact within.stage staged
  · obtain ⟨conflict, ok⟩ := stage_clashing
    exact ⟨_, ⟨_, _, conflict⟩, exists_ok ok⟩

theorem stage_textField_rearranged :
    let planner : Planner := default
    let source := Samples.textField
    (∃ c, (CodeModel.stampedWith none).stage (planner.plan
      { source with
        constructors := source.constructors.reverse
        methods := source.methods.reverse }) = .ok c) ∧
    ∃ c, (CodeModel.stampedWith none).stage ((planner.ignoring (.ofList ["setValue"])).plan
      { source with constructors := [], methods := source.methods.take 4 }) = .ok c := by
  intro planner source
  have staged : ∃ c, (CodeModel.stampedWith none).stage (planner.plan source) = .ok c :=
    exists_ok (by decide)
  obtain ⟨reordered, reduced, -⟩ := stage_rearranged (.stampedWith none) planner source
  have reversed := reordered _ _ (List.reverse_perm _).symm (List.reverse_perm _).symm
  have fewer := reduced staged [] _ (.ofList ["setValue"]) (List.nil_sublist _)
    (List.take_sublist 4 _) fun name contained => by cases contained
  exact ⟨reversed.2.2 staged, fewer⟩

end Planner

end FluentWrap
