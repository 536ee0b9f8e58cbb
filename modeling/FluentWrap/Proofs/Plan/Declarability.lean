import FluentWrap.Proofs.Class.Declaring
import FluentWrap.Proofs.Naming.Derived
import FluentWrap.Proofs.Plan.Members

/-!
When the class of a planned source type can be declared. Each template brings names that are derived
from one or two given ones; which of them have to be identifiers is said for each template, and from
that for the whole plan.
-/

set_option autoImplicit false

namespace FluentWrap

namespace Template

open Naming

theorem usable_delegateField (fieldName : String) :
    (delegateField fieldName).Usable ↔ isIdentifier fieldName = true := by
  constructor
  · intro usable
    exact usable.name rfl
  · intro identifier
    exact ⟨fun _ => identifier, by simp [delegateField], .nil, by simp [delegateField]⟩

theorem usable_getter : getter.Usable :=
  ⟨fun _ => isIdentifier_getterName, by simp [getter], .nil,
    by simp [getter, Statement.Usable]⟩

theorem usable_hiddenConstructor (delegate : TypeRef) (fieldName : String) :
    (hiddenConstructor delegate fieldName).Usable ↔ isIdentifier fieldName = true := by
  constructor
  · intro usable
    exact usable.parameters (.fixed fieldName delegate) List.mem_cons_self
  · intro identifier
    refine ⟨fun method => ?_, ?_, List.nodup_singleton _, ?_⟩
    · cases method
    · simpa [hiddenConstructor, FormalParameter.fixed] using identifier
    · simp [hiddenConstructor, Statement.Usable]

theorem names_factoryParameters (index : Nat) (types : List TypeRef) :
    (factoryParameters index types).map FormalParameter.name =
      (List.range' index types.length).map factoryArgument := by
  induction types generalizing index with
  | nil => rfl
  | cons t rest ih =>
    rw [factoryParameters, List.map_cons, ih, List.length_cons, List.range'_succ, List.map_cons]

theorem badParameter?_factoryParameters (types : List TypeRef) :
    ClassDeclaration.badParameter? [] (factoryParameters 0 types) = none := by
  refine ClassDeclaration.badParameter?_eq_none.2 ⟨?_, ?_, fun _ _ => List.not_mem_nil⟩
  · intro p member
    have named := List.mem_map_of_mem (f := FormalParameter.name) member
    rw [names_factoryParameters] at named
    obtain ⟨index, -, same⟩ := List.mem_map.1 named
    rw [← same]
    exact isIdentifier_factoryArgument index
  · rw [names_factoryParameters]
    have numbers : (List.range' 0 types.length).Nodup := List.nodup_range'
    exact numbers.map fun _ _ => factoryArgument_inj

theorem usable_factory (name origin : String) (types : List TypeRef) :
    (factory name types origin).Usable ↔ isIdentifier name = true := by
  constructor
  · intro usable
    exact usable.name rfl
  · intro identifier
    obtain ⟨identifiers, distinct, -⟩ :=
      ClassDeclaration.badParameter?_eq_none.1 (badParameter?_factoryParameters types)
    exact ⟨fun _ => identifier, identifiers, distinct, by simp [factory, Statement.Usable]⟩

theorem usable_setterWrapper (method : String) (type : TypeRef) :
    (setterWrapper method type).Usable ↔
      isIdentifier method = true ∧ isIdentifier (Naming.setterWrapper method) = true := by
  constructor
  · intro usable
    have named := usable.name rfl
    rw [name_setterWrapper] at named
    have called := usable.body (.delegateCall method (Naming.setterWrapper method))
      List.mem_cons_self
    exact ⟨called, named⟩
  · rintro ⟨called, wrapper⟩
    refine ⟨fun _ => ?_, ?_, ?_, ?_⟩
    · rw [name_setterWrapper]
      exact wrapper
    · simpa [setterWrapper, FormalParameter.fixed] using wrapper
    · simp [setterWrapper]
    · simpa [setterWrapper, Statement.Usable] using called

theorem usable_booleanDefault (wrapper method : String) :
    (booleanDefault wrapper method).Usable ↔ isIdentifier wrapper = true := by
  constructor
  · intro usable
    exact usable.name rfl
  · intro identifier
    refine ⟨fun _ => identifier, by simp [booleanDefault], .nil, ?_⟩
    simpa [booleanDefault, Statement.Usable] using identifier

theorem usable_adderWrapper (method : String) (type : TypeRef) :
    (adderWrapper method type).Usable ↔
      isIdentifier method = true ∧ isIdentifier (Naming.adderWrapper method) = true ∧
        isIdentifier (adderParameter method) = true ∧
        isIdentifier (loopVariable (adderParameter method)) = true := by
  constructor
  · intro usable
    have named := usable.name rfl
    rw [name_adderWrapper] at named
    have loop := usable.body (.delegateLoop method type (loopVariable (adderParameter method))
      (adderParameter method)) List.mem_cons_self
    obtain ⟨called, variableName, -⟩ := loop
    have parameter := usable.parameters ⟨adderParameter method, type, true, false⟩
      List.mem_cons_self
    dsimp only at parameter
    exact ⟨called, named, parameter, variableName⟩
  · rintro ⟨called, wrapper, parameter, variableName⟩
    have apart := loopVariable_ne_adderParameter method
    refine ⟨fun _ => wrapper, ?_, List.nodup_singleton _, ?_⟩
    · simpa [adderWrapper] using parameter
    · simpa [adderWrapper, Statement.Usable] using ⟨called, variableName, apart⟩

end Template

namespace Planner

variable {planner : Planner} {source : SourceType}

structure Names (planner : Planner) (source : SourceType) : Prop where
  package : (planner.plan source).generated.package = "" ∨
    Naming.isPackage (planner.plan source).generated.package = true
  simpleName : Naming.isIdentifier (planner.plan source).generated.simpleName = true
  fieldName : Naming.isIdentifier (planner.plan source).fieldName = true
  setters : ∀ m ∈ source.methods, planner.Keeps m → ∀ type, m.Takes "set" type →
    Naming.isIdentifier m.name = true ∧ Naming.isIdentifier (Naming.setterWrapper m.name) = true
  adders : ∀ m ∈ source.methods, planner.Keeps m → ∀ type, m.Takes "add" type →
    Naming.isIdentifier m.name = true ∧
      Naming.isIdentifier (Naming.adderWrapper m.name) = true ∧
      Naming.isIdentifier (Naming.adderParameter m.name) = true ∧
      Naming.isIdentifier (Naming.loopVariable (Naming.adderParameter m.name)) = true

theorem usable_of_names (names : planner.Names source) {w : Member}
    (produces : planner.Produces source w) : w.Usable := by
  cases produces with
  | field => exact (Template.usable_delegateField _).2 names.fieldName
  | getter => exact Template.usable_getter
  | hiddenConstructor => exact (Template.usable_hiddenConstructor _ _).2 names.fieldName
  | factory => exact (Template.usable_factory _ _ _).2 names.fieldName
  | setter member keeps takes =>
    exact (Template.usable_setterWrapper _ _).2 (names.setters _ member keeps _ takes)
  | booleanDefault member keeps takes =>
    exact (Template.usable_booleanDefault _ _).2 (names.setters _ member keeps _ takes).2
  | adder member keeps takes =>
    exact (Template.usable_adderWrapper _ _).2 (names.adders _ member keeps _ takes)

theorem declarable_plan_iff :
    (planner.plan source).Declarable ↔
      planner.Names source ∧ (planner.plan source).members.Pairwise fun a b => ¬ a.Clash b := by
  constructor
  · intro declarable
    have usable : ∀ {w : Member}, planner.Produces source w → w.Usable := fun produces =>
      declarable.usable _ (mem_members_plan.2 produces)
    refine ⟨⟨declarable.openable.package, declarable.openable.simpleName,
      declarable.openable.fieldName, ?_, ?_⟩, declarable.apart⟩
    · intro m member keeps type takes
      exact (Template.usable_setterWrapper _ _).1 (usable (.setter member keeps takes))
    · intro m member keeps type takes
      exact (Template.usable_adderWrapper _ _).1 (usable (.adder member keeps takes))
  · rintro ⟨names, apart⟩
    refine ⟨⟨names.package, names.simpleName, names.fieldName⟩, ?_, apart⟩
    intro w member
    exact usable_of_names names (mem_members_plan.1 member)

/-- Staging a planned source type succeeds exactly if its class is not in the model, the derived
names are identifiers and no two members clash; it gives the planned class, with the stamp of the
model. Neither the arguments of factories nor loop variables can be at fault. -/
theorem stage_plan_iff (model : CodeModel) (planner : Planner) (source : SourceType) :
    let plan := planner.plan source
    ((∃ c, model.stage plan = .ok c) ↔
      model.index.contains plan.generated = false ∧ planner.Names source ∧
        plan.members.Pairwise fun a b => ¬ a.Clash b) ∧
    (model.Coherent →
      (model.index.contains plan.generated = false ↔ plan.generated ∉ model.names)) ∧
    (∀ c, model.stage plan = .ok c →
      c.members = plan.members ∧ c.stamp = model.stamp ∧ c.name = plan.generated ∧
        c.delegateType = plan.delegateType ∧ c.fieldName = plan.fieldName) ∧
    (∀ types, ClassDeclaration.badParameter? [] (Template.factoryParameters 0 types) = none) ∧
    ∀ method, Naming.loopVariable (Naming.adderParameter method) ≠
      Naming.adderParameter method := by
  intro plan
  refine ⟨?_, ?_, ?_, Template.badParameter?_factoryParameters,
    Naming.loopVariable_ne_adderParameter⟩
  · rw [CodeModel.stage_isOk_iff, declarable_plan_iff]
  · intro coherent
    rw [← coherent.contains_iff, Bool.not_eq_true]
  · intro c staged
    obtain ⟨members, stamp, -⟩ := CodeModel.stage_ok staged
    have realizes := CodeModel.realizes_of_stage staged
    exact ⟨members, stamp, realizes.name, realizes.delegateType, realizes.fieldName⟩

end Planner

end FluentWrap
