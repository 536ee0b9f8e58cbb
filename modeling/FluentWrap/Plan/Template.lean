import FluentWrap.Naming.Derived
import FluentWrap.Plan.Member

/-!
One template for each kind of member. A template sees names and types only.
-/

set_option autoImplicit false

namespace FluentWrap.Template

def delegateField (fieldName : String) : Member where
  kind := .field
  name := fieldName
  modifiers := [.asPrivate, .asFinal]
  returns := some .delegate
  parameters := []
  body := []
  javadoc := some "delegate"
  origin := none

def getter : Member where
  kind := .getter
  name := Naming.getterName
  modifiers := [.asPublic, .asFinal]
  returns := some .delegate
  parameters := []
  body := [.returnField]
  javadoc := some "@return the created instance"
  origin := none

def hiddenConstructor (delegate : TypeRef) (fieldName : String) : Member where
  kind := .hiddenConstructor
  name := ""
  modifiers := [.asPrivate]
  returns := none
  parameters := [.fixed fieldName delegate]
  body := [.assignField fieldName]
  javadoc := some "Hide constructor, use static factory methods."
  origin := none

/-- Number the parameters of a factory from an index on. -/
def factoryParameters (index : Nat) : List TypeRef → List FormalParameter
  | [] => []
  | t :: rest =>
    ⟨Naming.factoryArgument index, t, false, false⟩ :: factoryParameters (index + 1) rest

@[simp] theorem map_type_factoryParameters (index : Nat) (types : List TypeRef) :
    (factoryParameters index types).map FormalParameter.type = types := by
  induction types generalizing index with
  | nil => rfl
  | cons t rest ih => simp [factoryParameters, ih]

/-- The static method that takes what a constructor of the source takes. -/
def factory (name : String) (types : List TypeRef) (origin : String) : Member where
  kind := .factory
  name := name
  modifiers := [.asPublic, .asStatic]
  returns := some .wrapper
  parameters := factoryParameters 0 types
  body := [.constructAndWrap ((factoryParameters 0 types).map FormalParameter.name)]
  javadoc := none
  origin := some origin

/-- The wrapper of a setter: pass the value on and return the receiver. -/
def setterWrapper (method : String) (type : TypeRef) : Member where
  kind := .setterWrapper
  name := Naming.setterWrapper method
  modifiers := [.asPublic]
  returns := some .wrapper
  parameters := [.fixed (Naming.setterWrapper method) type]
  body := [.delegateCall method (Naming.setterWrapper method), .returnSelf]
  javadoc := none
  origin := some method

@[simp] theorem name_setterWrapper (method : String) (type : TypeRef) :
    (setterWrapper method type).name = Naming.setterWrapper method := by
  simp only [setterWrapper]

/-- The overload of a boolean setter's wrapper that passes `true`. -/
def booleanDefault (wrapper method : String) : Member where
  kind := .booleanDefault
  name := wrapper
  modifiers := [.asPublic]
  returns := some .wrapper
  parameters := []
  body := [.returnSelfCall wrapper true]
  javadoc := some ("@return #" ++ wrapper ++ "(true)")
  origin := some method

@[simp] theorem name_booleanDefault (wrapper method : String) :
    (booleanDefault wrapper method).name = wrapper := rfl

/-- The wrapper of an adder: pass each value on and return the receiver. -/
def adderWrapper (method : String) (elementType : TypeRef) : Member where
  kind := .adderWrapper
  name := Naming.adderWrapper method
  modifiers := [.asPublic]
  returns := some .wrapper
  parameters := [⟨Naming.adderParameter method, elementType, true, false⟩]
  body := [
    .delegateLoop method elementType (Naming.loopVariable (Naming.adderParameter method))
      (Naming.adderParameter method),
    .returnSelf]
  javadoc := none
  origin := some method

@[simp] theorem name_adderWrapper (method : String) (type : TypeRef) :
    (adderWrapper method type).name = Naming.adderWrapper method := rfl

end FluentWrap.Template
