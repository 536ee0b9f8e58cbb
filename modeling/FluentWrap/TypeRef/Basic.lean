import FluentWrap.Text.Split

/-!
Erased references to types. A class is named by its binary name: packages are separated by `.`
and nested classes by `$`. From the binary name follow the canonical name, the simple name and
the package.
-/

set_option autoImplicit false

namespace FluentWrap

inductive Primitive where
  | boolean | byte | char | short | int | long | float | double
  deriving DecidableEq, Repr

namespace Primitive

def all : List Primitive := [boolean, byte, char, short, int, long, float, double]

def keyword : Primitive → String
  | boolean => "boolean"
  | byte => "byte"
  | char => "char"
  | short => "short"
  | int => "int"
  | long => "long"
  | float => "float"
  | double => "double"

def ofKeyword? (word : String) : Option Primitive :=
  all.find? fun p => p.keyword == word

@[simp] theorem ofKeyword?_keyword (p : Primitive) : ofKeyword? p.keyword = some p := by
  cases p <;> decide

theorem keyword_of_ofKeyword? {word : String} {p : Primitive} (h : ofKeyword? word = some p) :
    p.keyword = word := by
  simpa using List.find?_some h

end Primitive

inductive TypeRef where
  | primitive (p : Primitive)
  | class (name : String)
  | array (element : TypeRef)
  deriving DecidableEq, Repr, Inhabited

namespace TypeRef

/-- The Java spelling with binary class names. -/
def spelling : TypeRef → String
  | primitive p => p.keyword
  | .class name => name
  | array element => element.spelling ++ "[]"

instance : ToString TypeRef := ⟨spelling⟩

def isPrimitive : TypeRef → Bool
  | primitive _ => true
  | _ => false

/-- Whether the type is the primitive `boolean`; the class of the boxed value is not. -/
def isBoolean (t : TypeRef) : Bool :=
  t = primitive .boolean

def element? : TypeRef → Option TypeRef
  | array element => some element
  | _ => none

def base : TypeRef → TypeRef
  | array element => element.base
  | t => t

/-- The canonical spelling of a binary name, as source code refers to the class. -/
def canonicalClass (name : String) : String :=
  String.ofList (name.toList.map fun c => if c = '$' then '.' else c)

/-- The name of a class without its package and enclosing classes. -/
def simpleClass (name : String) : String :=
  String.ofList (Text.afterLast (fun c => c = '.' || c = '$') name.toList)

/-- The package of a binary name: what stands before the last `.` of the part before the first
`$`. It is empty for the default package. -/
def packageOfClass (name : String) : String :=
  match Text.splitAtLast? '.' (name.toList.takeWhile fun c => c != '$') with
  | some (package, _) => String.ofList package
  | none => ""

def canonicalName : TypeRef → String
  | primitive p => p.keyword
  | .class name => canonicalClass name
  | array element => element.canonicalName ++ "[]"

def simpleName : TypeRef → String
  | primitive p => p.keyword
  | .class name => simpleClass name
  | array element => element.simpleName ++ "[]"

/-- The package of a class; primitives and arrays are in none. -/
def package? : TypeRef → Option String
  | .class name => some (packageOfClass name)
  | _ => none

@[simp] theorem base_base (t : TypeRef) : t.base.base = t.base := by
  induction t with
  | array element ih => simpa [base] using ih
  | _ => rfl

end TypeRef

end FluentWrap
