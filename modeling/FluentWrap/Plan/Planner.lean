import FluentWrap.Naming.Pattern
import FluentWrap.Plan.Basic
import FluentWrap.Plan.Candidate
import FluentWrap.Plan.Template

/-!
Planning a wrapper class. The order of the members is fixed: the delegate field, the getter, the
hidden constructor, a factory for each constructor, and then the wrappers in the order of the
methods, a boolean setter's default overload right behind its wrapper.
-/

set_option autoImplicit false

namespace FluentWrap

structure Planner where
  filter : CandidateFilter := default
  pattern : NamePattern := default
  rootPackage : String := ""
  deriving Repr, Inhabited

namespace Planner

def generatedName (planner : Planner) (source : SourceType) : QualifiedName :=
  planner.pattern.apply (Naming.resolvePackage planner.rootPackage source.package)
    source.simpleName

def scaffold (source : SourceType) : List Member :=
  [Template.delegateField (Naming.fieldName source.simpleName),
    Template.getter,
    Template.hiddenConstructor source.typeRef (Naming.fieldName source.simpleName)]

def factoryOf (source : SourceType) (c : Constructor) : Member :=
  Template.factory (Naming.factoryName source.simpleName) c.parameterTypes c.display

def wrappersOf (candidate : Candidate) : List Member :=
  match candidate.method.singleParameterType? with
  | none => []
  | some type =>
    let method := candidate.method.name
    match candidate.kind with
    | .setter =>
      Template.setterWrapper method type ::
        if type.isBoolean then
          [Template.booleanDefault (Template.setterWrapper method type).name method]
        else []
    | .adder => [Template.adderWrapper method type]

def members (planner : Planner) (source : SourceType) : List Member :=
  scaffold source
    ++ (planner.filter.selectConstructors source).map (factoryOf source)
    ++ (planner.filter.selectMethods source).flatMap wrappersOf

def plan (planner : Planner) (source : SourceType) : Plan where
  source := source.qualifiedName
  generated := planner.generatedName source
  fieldName := Naming.fieldName source.simpleName
  delegateType := source.typeRef
  members := planner.members source

@[simp] theorem generated_plan (planner : Planner) (source : SourceType) :
    (planner.plan source).generated = planner.generatedName source := by
  simp only [plan]

/-- What planning a source type reports: the methods it ignores, the members it plans, and a
warning if nothing can create the wrapper. -/
def report (planner : Planner) (source : SourceType) : List Event :=
  let plan := planner.plan source
  planner.filter.report source
    ++ plan.members.map (fun m =>
      ⟨.debug, "Planned member", [("kind", m.kind.name), ("member", m.signatureDisplay)]⟩)
    ++ if plan.hasFactories then []
      else [⟨.warn, "No public constructors; the wrapper can not be instantiated",
        [("source", plan.source), ("generated", plan.generated.display)]⟩]

end Planner

end FluentWrap
