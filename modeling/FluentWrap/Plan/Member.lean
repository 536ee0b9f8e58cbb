import FluentWrap.TypeRef.Basic

/-!
Members of a generated class: a field, a getter, a hidden constructor, factories and chaining
wrappers, each with its parameters and the statements of its body.
-/

set_option autoImplicit false

namespace FluentWrap

inductive MemberKind where
  | field
  | getter
  | hiddenConstructor
  | factory
  | setterWrapper
  /-- The overload of a boolean setter's wrapper that takes nothing and stands for `true`. -/
  | booleanDefault
  | adderWrapper
  deriving DecidableEq, Repr

namespace MemberKind

def all : List MemberKind :=
  [field, getter, hiddenConstructor, factory, setterWrapper, booleanDefault, adderWrapper]

def name : MemberKind → String
  | field => "FIELD"
  | getter => "GETTER"
  | hiddenConstructor => "HIDDEN_CONSTRUCTOR"
  | factory => "FACTORY"
  | setterWrapper => "SETTER_WRAPPER"
  | booleanDefault => "BOOLEAN_DEFAULT_OVERLOAD"
  | adderWrapper => "ADDER_WRAPPER"

def ofName? (name : String) : Option MemberKind :=
  all.find? fun k => k.name == name

@[simp] theorem ofName?_name (k : MemberKind) : ofName? k.name = some k := by
  cases k <;> decide

def isConstructor (k : MemberKind) : Bool :=
  k = hiddenConstructor

def isField (k : MemberKind) : Bool :=
  k = field

/-- Wrappers chain: they end by returning the receiver. -/
def isWrapper : MemberKind → Bool
  | setterWrapper | booleanDefault | adderWrapper => true
  | _ => false

end MemberKind

inductive Modifier where
  | asPublic | asPrivate | asStatic | asFinal
  deriving DecidableEq, Repr

namespace Modifier

def all : List Modifier := [asPublic, asPrivate, asStatic, asFinal]

def keyword : Modifier → String
  | asPublic => "public"
  | asPrivate => "private"
  | asStatic => "static"
  | asFinal => "final"

def ofKeyword? (word : String) : Option Modifier :=
  all.find? fun m => m.keyword == word

@[simp] theorem ofKeyword?_keyword (m : Modifier) : ofKeyword? m.keyword = some m := by
  cases m <;> decide

end Modifier

/-- The type of a field or of a method's result, as seen from the generated class. -/
inductive ResultType where
  | wrapper
  | delegate
  deriving DecidableEq, Repr

namespace ResultType

def all : List ResultType := [wrapper, delegate]

def name : ResultType → String
  | wrapper => "wrapper"
  | delegate => "delegate"

def ofName? (name : String) : Option ResultType :=
  all.find? fun r => r.name == name

@[simp] theorem ofName?_name (r : ResultType) : ofName? r.name = some r := by
  cases r <;> decide

end ResultType

/-- A parameter of a generated member. With `varargs` the type is that of one element. -/
structure FormalParameter where
  name : String
  type : TypeRef
  varargs : Bool
  isFinal : Bool
  deriving DecidableEq, Repr

namespace FormalParameter

def fixed (name : String) (type : TypeRef) : FormalParameter :=
  ⟨name, type, false, true⟩

/-- The type that counts in a signature; a variable number of arguments counts as an array. -/
def signatureType (p : FormalParameter) : TypeRef :=
  if p.varargs then .array p.type else p.type

def display (p : FormalParameter) : String :=
  if p.varargs then p.type.spelling ++ "..." else p.type.spelling

end FormalParameter

inductive Statement where
  /-- Store a parameter in the delegate field. -/
  | assignField (parameter : String)
  /-- Return the delegate field. -/
  | returnField
  /-- Call a method of the delegate with one argument. -/
  | delegateCall (method argument : String)
  /-- Call a method of the delegate once for each element of a parameter. -/
  | delegateLoop (method : String) (elementType : TypeRef) (variableName parameter : String)
  /-- Return a new wrapper around a new delegate built from the arguments. -/
  | constructAndWrap (arguments : List String)
  /-- Return the receiver. -/
  | returnSelf
  /-- Return what another method of the receiver returns for a boolean. -/
  | returnSelfCall (method : String) (argument : Bool)
  deriving DecidableEq, Repr

structure Member where
  kind : MemberKind
  /-- Empty for constructors. -/
  name : String
  modifiers : List Modifier
  /-- Absent for constructors. -/
  returns : Option ResultType
  parameters : List FormalParameter
  body : List Statement
  javadoc : Option String
  /-- The source member from which this one is derived. -/
  origin : Option String
  deriving DecidableEq, Repr

namespace Member

def hasModifier (m : Member) (modifier : Modifier) : Bool :=
  m.modifiers.contains modifier

/-- The erased parameter types by which overloads are told apart. -/
def signature (m : Member) : List TypeRef :=
  m.parameters.map FormalParameter.signatureType

/-- Name and parameter types; a field is shown by its name alone. -/
def signatureDisplay (m : Member) : String :=
  if m.kind.isField then m.name
  else
    (if m.kind.isConstructor then "<init>" else m.name)
      ++ "(" ++ ",".intercalate (m.parameters.map FormalParameter.display) ++ ")"

end Member

end FluentWrap
