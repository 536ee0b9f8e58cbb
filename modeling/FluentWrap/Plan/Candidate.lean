import FluentWrap.Event
import FluentWrap.Predicate

/-!
Which members of a source type are considered: the methods that satisfy a predicate, are not
ignored by name and are setters or adders, and the constructors that satisfy a predicate.
-/

set_option autoImplicit false

namespace FluentWrap

inductive WrapperKind where
  | setter
  | adder
  deriving DecidableEq, Repr

namespace WrapperKind

def all : List WrapperKind := [setter, adder]

def name : WrapperKind → String
  | setter => "setter"
  | adder => "adder"

def ofName? (name : String) : Option WrapperKind :=
  all.find? fun k => k.name == name

@[simp] theorem ofName?_name (k : WrapperKind) : ofName? k.name = some k := by
  cases k <;> decide

/-- Setters are recognised before adders; other methods are wrapped as nothing. -/
def ofMethod? (m : Method) : Option WrapperKind :=
  if MethodPredicate.isSetter.check m then some setter
  else if MethodPredicate.isAdder.check m then some adder
  else none

end WrapperKind

structure Candidate where
  kind : WrapperKind
  method : Method
  deriving DecidableEq, Repr

structure CandidateFilter where
  methods : MethodPredicate
  constructors : ConstructorPredicate
  ignored : NameSet
  deriving Repr

namespace CandidateFilter

/-- The usual candidates without those of the ignored names. -/
def ignoring (ignored : NameSet) : CandidateFilter :=
  ⟨MethodPredicate.isCandidate, ConstructorPredicate.isCandidate, ignored⟩

instance : Inhabited CandidateFilter := ⟨ignoring .empty⟩

def isIgnored (filter : CandidateFilter) (m : Method) : Bool :=
  filter.ignored.contains m.name

/-- The candidates among the methods of a source type, in its order. -/
def selectMethods (filter : CandidateFilter) (source : SourceType) : List Candidate :=
  ((filter.methods.filter source.methods).filter fun m => !filter.isIgnored m).filterMap
    fun m => (WrapperKind.ofMethod? m).map fun kind => ⟨kind, m⟩

/-- The methods that only their name excludes. -/
def ignoredMethods (filter : CandidateFilter) (source : SourceType) : List Method :=
  (filter.methods.filter source.methods).filter filter.isIgnored

def report (filter : CandidateFilter) (source : SourceType) : List Event :=
  (filter.ignoredMethods source).map fun m =>
    ⟨.info, "Skipping ignored method",
      [("source", source.qualifiedName), ("method", m.display)]⟩

def selectConstructors (filter : CandidateFilter) (source : SourceType) : List Constructor :=
  filter.constructors.filter source.constructors

end CandidateFilter

end FluentWrap
