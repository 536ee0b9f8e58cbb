import FluentWrap.NameSet
import FluentWrap.Naming.Derived
import FluentWrap.Source.Basic
import FluentWrap.Text.Quoted

/-!
Predicates on the members of a source type, as values that can be combined, evaluated and
described. A predicate is built from tests by negation, conjunction and disjunction.
-/

set_option autoImplicit false

namespace FluentWrap

inductive Predicate (Test : Type) where
  | test (t : Test)
  | not (p : Predicate Test)
  | all (ps : List (Predicate Test))
  | any (ps : List (Predicate Test))
  deriving Repr

/-- How tests are evaluated on members and how they are described. -/
class Testing (Test : Type) (Member : outParam Type) where
  holds : Test → Member → Bool
  describe : Test → String

namespace Predicate

variable {Test Member : Type}

section Evaluation

variable [Testing Test Member]

mutual

def check (member : Member) : Predicate Test → Bool
  | test t => Testing.holds t member
  | not p => !p.check member
  | all ps => checkAll member ps
  | any ps => checkAny member ps

def checkAll (member : Member) : List (Predicate Test) → Bool
  | [] => true
  | p :: ps => p.check member && checkAll member ps

def checkAny (member : Member) : List (Predicate Test) → Bool
  | [] => false
  | p :: ps => p.check member || checkAny member ps

end

theorem checkAll_eq (member : Member) (ps : List (Predicate Test)) :
    checkAll member ps = ps.all (check member) := by
  induction ps with
  | nil => simp [checkAll]
  | cons p ps ih => simp [checkAll, ih]

theorem checkAny_eq (member : Member) (ps : List (Predicate Test)) :
    checkAny member ps = ps.any (check member) := by
  induction ps with
  | nil => simp [checkAny]
  | cons p ps ih => simp [checkAny, ih]

@[simp] theorem check_test (member : Member) (t : Test) :
    (test t).check member = Testing.holds t member := by
  simp [check]

@[simp] theorem check_not (member : Member) (p : Predicate Test) :
    (not p).check member = !p.check member := by
  simp [check]

@[simp] theorem check_all (member : Member) (ps : List (Predicate Test)) :
    (all ps).check member = ps.all (check member) := by
  simp [check, checkAll_eq]

@[simp] theorem check_any (member : Member) (ps : List (Predicate Test)) :
    (any ps).check member = ps.any (check member) := by
  simp [check, checkAny_eq]

def filter (p : Predicate Test) (members : List Member) : List Member :=
  members.filter fun member => p.check member

@[simp] theorem filter_nil (p : Predicate Test) : p.filter [] = [] := rfl

mutual

def describe : Predicate Test → String
  | test t => Testing.describe t
  | not p => "not(" ++ p.describe ++ ")"
  | all ps => "all(" ++ ", ".intercalate (describeAll ps) ++ ")"
  | any ps => "any(" ++ ", ".intercalate (describeAll ps) ++ ")"

def describeAll : List (Predicate Test) → List String
  | [] => []
  | p :: ps => p.describe :: describeAll ps

end

end Evaluation

def conjuncts : Predicate Test → List (Predicate Test)
  | all ps => ps
  | p => [p]

def disjuncts : Predicate Test → List (Predicate Test)
  | any ps => ps
  | p => [p]

/-- Conjunction; conjunctions among the parts are dissolved. -/
def allOf (ps : List (Predicate Test)) : Predicate Test :=
  all (ps.flatMap conjuncts)

/-- Disjunction; disjunctions among the parts are dissolved. -/
def anyOf (ps : List (Predicate Test)) : Predicate Test :=
  any (ps.flatMap disjuncts)

def and (p q : Predicate Test) : Predicate Test :=
  allOf [p, q]

def or (p q : Predicate Test) : Predicate Test :=
  anyOf [p, q]

/-- Conjunction that takes the second part as a single conjunct. -/
def andThen (p q : Predicate Test) : Predicate Test :=
  all (p.conjuncts ++ [q])

/-- Disjunction that takes the second part as a single disjunct. -/
def orElse (p q : Predicate Test) : Predicate Test :=
  any (p.disjuncts ++ [q])

/-- Negation; a negation is undone rather than negated again. -/
def negate : Predicate Test → Predicate Test
  | not p => p
  | p => not p

end Predicate

inductive MethodTest where
  | isPublic
  | isVoid
  | hasSingleParameter
  | isDeprecated
  | notDeprecated
  | isSynthetic
  | notSynthetic
  | isBridge
  | notBridge
  /-- The beginning of the name, cases told apart. -/
  | nameStartsWith (mark : String)
  | nameIn (names : NameSet)
  deriving Repr

namespace MethodTest

def holds : MethodTest → Method → Bool
  | isPublic, m => m.visibility = .everyone
  | isVoid, m => m.returnsVoid
  | hasSingleParameter, m => m.parameters.length = 1
  | isDeprecated, m => m.deprecated
  | notDeprecated, m => !m.deprecated
  | isSynthetic, m => m.synthetic
  | notSynthetic, m => !m.synthetic
  | isBridge, m => m.bridge
  | notBridge, m => !m.bridge
  | nameStartsWith mark, m => Naming.hasMark mark m.name
  | nameIn names, m => names.contains m.name

def describe : MethodTest → String
  | isPublic => "is_public"
  | isVoid => "is_void"
  | hasSingleParameter => "has_single_parameter"
  | isDeprecated => "is_deprecated"
  | notDeprecated => "not_deprecated"
  | isSynthetic => "is_synthetic"
  | notSynthetic => "not_synthetic"
  | isBridge => "is_bridge"
  | notBridge => "not_bridge"
  | nameStartsWith mark => "name_starts_with(" ++ Text.quoted mark ++ ")"
  | nameIn names =>
    "name_in(\x7b" ++ ", ".intercalate (names.toList.map Text.quoted) ++ "\x7d)"

instance : Testing MethodTest Method := ⟨holds, describe⟩

def plain : List MethodTest :=
  [isPublic, isVoid, hasSingleParameter, isDeprecated, notDeprecated, isSynthetic, notSynthetic,
    isBridge, notBridge]

def ofName? (name : String) : Option MethodTest :=
  plain.find? fun t => t.describe == name

end MethodTest

abbrev MethodPredicate := Predicate MethodTest

namespace MethodPredicate

open MethodTest

/-- Public methods without result that take one value and whose name begins with a mark. -/
def isMarked (mark : String) : MethodPredicate :=
  .allOf [.test isPublic, .test isVoid, .test hasSingleParameter, .test (nameStartsWith mark)]

def isSetter : MethodPredicate :=
  isMarked Naming.setterMark

def isAdder : MethodPredicate :=
  isMarked Naming.adderMark

/-- The methods that get a wrapper: setters and adders that are neither deprecated nor made by
a compiler. -/
def isCandidate : MethodPredicate :=
  .allOf [
    .test isPublic,
    .anyOf [.test (nameStartsWith Naming.adderMark), .test (nameStartsWith Naming.setterMark)],
    .test isVoid,
    .test hasSingleParameter,
    .test notDeprecated,
    .test notSynthetic]

end MethodPredicate

inductive ConstructorTest where
  | isPublic
  | isSynthetic
  | notSynthetic
  deriving Repr

namespace ConstructorTest

def holds : ConstructorTest → Constructor → Bool
  | isPublic, c => c.visibility = .everyone
  | isSynthetic, c => c.synthetic
  | notSynthetic, c => !c.synthetic

def describe : ConstructorTest → String
  | isPublic => "is_public"
  | isSynthetic => "is_synthetic"
  | notSynthetic => "not_synthetic"

instance : Testing ConstructorTest Constructor := ⟨holds, describe⟩

def all : List ConstructorTest := [isPublic, isSynthetic, notSynthetic]

def ofName? (name : String) : Option ConstructorTest :=
  all.find? fun t => t.describe == name

end ConstructorTest

abbrev ConstructorPredicate := Predicate ConstructorTest

namespace ConstructorPredicate

/-- The constructors that get a factory: public ones that a person wrote. -/
def isCandidate : ConstructorPredicate :=
  .all [.test .notSynthetic, .test .isPublic]

end ConstructorPredicate

end FluentWrap
