import FluentWrap.Proofs.Naming.Derived
import FluentWrap.Proofs.Plan.Members

/-!
How the bodies of planned members fit their signatures. The name of a parameter and the names by which
a body refers to it are derived apart, and a boolean default calls another member of the plan; that
they agree is said for each template and then for whole plans.
-/

set_option autoImplicit false

namespace FluentWrap

namespace Statement

@[simp] def references : Statement → List String
  | assignField parameter => [parameter]
  | delegateCall _ argument => [argument]
  | delegateLoop _ _ _ parameter => [parameter]
  | constructAndWrap arguments => arguments
  | returnField | returnSelf | returnSelfCall _ _ => []

@[simp] def introduced : Statement → List String
  | delegateLoop _ _ variableName _ => [variableName]
  | assignField _ | returnField | delegateCall _ _ | constructAndWrap _ | returnSelf
  | returnSelfCall _ _ => []

end Statement

namespace Member

def parameterNames (m : Member) : List String :=
  m.parameters.map FormalParameter.name

/-- Whether a body refers to parameters of its own member only and hides none of them. -/
structure Closed (m : Member) : Prop where
  bound : ∀ s ∈ m.body, ∀ name ∈ s.references, name ∈ m.parameterNames
  fresh : ∀ s ∈ m.body, ∀ name ∈ s.introduced, name ∉ m.parameterNames

def Shaped (plan : Plan) (m : Member) : Prop :=
  match m.kind with
  | .field => m.name = plan.fieldName ∧ m.parameters = [] ∧ m.body = []
  | .getter => m.parameters = [] ∧ m.body = [.returnField]
  | .hiddenConstructor =>
    ∃ p, m.parameters = [p] ∧ p.type = plan.delegateType ∧ p.varargs = false ∧
      m.body = [.assignField p.name]
  | .factory => m.body = [.constructAndWrap m.parameterNames]
  | .setterWrapper =>
    ∃ method p, m.origin = some method ∧ m.parameters = [p] ∧
      m.body = [.delegateCall method p.name, .returnSelf]
  | .booleanDefault => m.parameters = [] ∧ m.body = [.returnSelfCall m.name true]
  | .adderWrapper =>
    ∃ method p variableName, m.origin = some method ∧ m.parameters = [p] ∧ p.varargs = true ∧
      m.body = [.delegateLoop method p.type variableName p.name, .returnSelf]

theorem closed_of_silent {m : Member}
    (silent : ∀ s ∈ m.body, s.references = [] ∧ s.introduced = []) : m.Closed := by
  constructor
  · intro s member name refers
    rw [(silent s member).1] at refers
    cases refers
  · intro s member name introduced
    rw [(silent s member).2] at introduced
    cases introduced

end Member

namespace Template

theorem closed_delegateField (fieldName : String) : (delegateField fieldName).Closed :=
  Member.closed_of_silent (by simp [delegateField])

theorem closed_getter : getter.Closed :=
  Member.closed_of_silent (by simp [getter])

theorem closed_hiddenConstructor (delegate : TypeRef) (fieldName : String) :
    (hiddenConstructor delegate fieldName).Closed := by
  constructor <;> simp [hiddenConstructor, Member.parameterNames, FormalParameter.fixed]

theorem closed_factory (name origin : String) (types : List TypeRef) :
    (factory name types origin).Closed := by
  constructor <;> simp [factory, Member.parameterNames]

theorem closed_setterWrapper (method : String) (type : TypeRef) :
    (setterWrapper method type).Closed := by
  constructor <;> simp [setterWrapper, Member.parameterNames, FormalParameter.fixed]

theorem closed_booleanDefault (wrapper method : String) :
    (booleanDefault wrapper method).Closed :=
  Member.closed_of_silent (by simp [booleanDefault])

theorem closed_adderWrapper (method : String) (type : TypeRef) :
    (adderWrapper method type).Closed := by
  -- The parameter is the plural of the variable, and so it is another name.
  have apart := Naming.loopVariable_ne_adderParameter method
  constructor
  · simp [adderWrapper, Member.parameterNames]
  · simpa [adderWrapper, Member.parameterNames] using apart

end Template

namespace Plan

structure WellScoped (plan : Plan) : Prop where
  closed : ∀ m ∈ plan.members, m.Closed
  shaped : ∀ m ∈ plan.members, m.Shaped plan
  defaults : ∀ before m after, plan.members = before ++ m :: after → m.kind = .booleanDefault →
    ∃ earlier setter, before = earlier ++ [setter] ∧ setter.kind = .setterWrapper ∧
      m.body = [.returnSelfCall setter.name true] ∧ setter.origin = m.origin ∧
      setter.signature = [.primitive .boolean]

end Plan

namespace Planner

variable {planner : Planner} {source : SourceType} {w : Member}

theorem closed_of_produces (produces : planner.Produces source w) : w.Closed := by
  cases produces with
  | field => exact Template.closed_delegateField _
  | getter => exact Template.closed_getter
  | hiddenConstructor => exact Template.closed_hiddenConstructor _ _
  | factory => exact Template.closed_factory _ _ _
  | setter => exact Template.closed_setterWrapper _ _
  | booleanDefault => exact Template.closed_booleanDefault _ _
  | adder => exact Template.closed_adderWrapper _ _

theorem shaped_of_produces (produces : planner.Produces source w) :
    w.Shaped (planner.plan source) := by
  cases produces with
  | field => exact ⟨rfl, rfl, rfl⟩
  | getter => exact ⟨rfl, rfl⟩
  | hiddenConstructor => exact ⟨_, rfl, rfl, rfl, rfl⟩
  | factory => rfl
  | setter => exact ⟨_, _, rfl, rfl, rfl⟩
  | booleanDefault => exact ⟨rfl, rfl⟩
  | adder => exact ⟨_, _, _, rfl, rfl, rfl, rfl⟩

/-- The bodies of planned members refer only to what their signatures declare, each member does what
its kind is for, and a boolean default calls the setter's wrapper right in front of it. -/
theorem wellScoped_plan (planner : Planner) (source : SourceType) :
    (planner.plan source).WellScoped where
  closed m member := closed_of_produces (mem_members_plan.1 member)
  shaped m member := shaped_of_produces (mem_members_plan.1 member)
  defaults before m after split isDefault := by
    -- The wrapper and its default come from one method, whose name both keep.
    obtain ⟨method, -, -, -, rfl, earlier, rfl⟩ := before_booleanDefault split isDefault
    exact ⟨earlier, _, rfl, rfl, rfl, rfl, rfl⟩

end Planner

end FluentWrap
