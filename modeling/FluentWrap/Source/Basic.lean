import FluentWrap.TypeRef.Basic

/-!
Source types: the classes that wrappers are generated for, described by their constructors and
methods in the order in which they were found.
-/

set_option autoImplicit false

namespace FluentWrap

inductive Visibility where
  | everyone
  | subclasses
  | package
  | ownClass
  deriving DecidableEq, Repr, Inhabited

namespace Visibility

def all : List Visibility := [everyone, subclasses, package, ownClass]

/-- The modifier in source code; visibility in the package has none. -/
def keyword : Visibility → String
  | everyone => "public"
  | subclasses => "protected"
  | package => ""
  | ownClass => "private"

def name : Visibility → String
  | everyone => "public"
  | subclasses => "protected"
  | package => "package"
  | ownClass => "private"

def ofName? (name : String) : Option Visibility :=
  all.find? fun v => v.name == name

@[simp] theorem ofName?_name (v : Visibility) : ofName? v.name = some v := by
  cases v <;> decide

end Visibility

/-- A parameter and its place in the list, a machine word. -/
structure Parameter where
  type : TypeRef
  position : UInt64
  deriving DecidableEq, Repr

namespace Parameter

def enumerateFrom (position : Nat) : List TypeRef → List Parameter
  | [] => []
  | t :: rest => ⟨t, .ofNat position⟩ :: enumerateFrom (position + 1) rest

def enumerate (types : List TypeRef) : List Parameter :=
  enumerateFrom 0 types

def signature (parameters : List Parameter) : String :=
  "(" ++ ",".intercalate (parameters.map fun p => p.type.spelling) ++ ")"

theorem map_type_enumerateFrom (position : Nat) (types : List TypeRef) :
    (enumerateFrom position types).map type = types := by
  induction types generalizing position with
  | nil => rfl
  | cons t rest ih => simp [enumerateFrom, ih]

@[simp] theorem map_type_enumerate (types : List TypeRef) :
    (enumerate types).map type = types :=
  map_type_enumerateFrom 0 types

end Parameter

structure Constructor where
  parameters : List Parameter
  visibility : Visibility
  synthetic : Bool
  deriving DecidableEq, Repr

namespace Constructor

/-- A public constructor that a person wrote. -/
def ofTypes (types : List TypeRef) : Constructor :=
  ⟨Parameter.enumerate types, .everyone, false⟩

def parameterTypes (c : Constructor) : List TypeRef :=
  c.parameters.map Parameter.type

def display (c : Constructor) : String :=
  "<init>" ++ Parameter.signature c.parameters

end Constructor

structure Method where
  name : String
  visibility : Visibility
  returnsVoid : Bool
  parameters : List Parameter
  deprecated : Bool
  synthetic : Bool
  bridge : Bool
  deriving DecidableEq, Repr

namespace Method

/-- A public method without result that a person wrote. -/
def ofTypes (name : String) (types : List TypeRef) : Method :=
  ⟨name, .everyone, true, Parameter.enumerate types, false, false, false⟩

/-- The type of the only parameter, if there is exactly one. -/
def singleParameterType? (m : Method) : Option TypeRef :=
  match m.parameters with
  | [only] => some only.type
  | _ => none

def display (m : Method) : String :=
  m.name ++ Parameter.signature m.parameters

end Method

/-- A class by its binary name. The simple name is kept beside it because a description may
give another one. -/
structure SourceType where
  qualifiedName : String
  simpleName : String
  constructors : List Constructor
  methods : List Method
  deriving DecidableEq, Repr

namespace SourceType

/-- A class without members; its simple name is that of the binary name. -/
def ofName (qualifiedName : String) : SourceType :=
  ⟨qualifiedName, TypeRef.simpleClass qualifiedName, [], []⟩

def package (source : SourceType) : String :=
  TypeRef.packageOfClass source.qualifiedName

def typeRef (source : SourceType) : TypeRef :=
  .class source.qualifiedName

end SourceType

end FluentWrap
