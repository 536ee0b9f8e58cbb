import FluentWrap.Interpreter
import FluentWrap.Source.Basic

/-!
Sample source types and argument values, for trying things out.
-/

set_option autoImplicit false

namespace FluentWrap.Samples

def int : TypeRef := .primitive .int

def boolean : TypeRef := .primitive .boolean

def string : TypeRef := .class "java.lang.String"

def point : SourceType :=
  { SourceType.ofName "com.example.Point" with
    constructors := [.ofTypes [int, int]]
    methods := [.ofTypes "setX" [int], .ofTypes "setY" [int], .ofTypes "addTag" [string]] }

/-- A type with boolean setters and with members of every kind that is passed over. -/
def textField : SourceType :=
  { SourceType.ofName "com.example.ui.TextField" with
    constructors := [
      .ofTypes [],
      .ofTypes [string],
      { Constructor.ofTypes [string, string] with visibility := .subclasses },
      { Constructor.ofTypes [int] with synthetic := true }]
    methods := [
      .ofTypes "setValue" [string],
      .ofTypes "setImmediate" [boolean],
      .ofTypes "setEnabled" [.class "java.lang.Boolean"],
      .ofTypes "addStyleName" [string],
      .ofTypes "setId" [string],
      { Method.ofTypes "getValue" [] with returnsVoid := false },
      .ofTypes "setWidth" [int, string],
      { Method.ofTypes "setCaption" [string] with deprecated := true },
      { Method.ofTypes "setParent" [.class "java.lang.Object"] with
        synthetic := true, bridge := true },
      { Method.ofTypes "setInternal" [int] with visibility := .subclasses },
      { Method.ofTypes "setComputed" [int] with returnsVoid := false }] }

def singleton : SourceType :=
  { SourceType.ofName "com.example.Registry" with
    constructors := [{ Constructor.ofTypes [] with visibility := .ownClass }]
    methods := [.ofTypes "setName" [string]] }

/-- An argument for a parameter of a type, one for each seed. -/
def valueFor (t : TypeRef) (seed : Int) : Value :=
  if t.isBoolean then .bool (seed % 2 = 0)
  else if t.isPrimitive then .int seed
  else .text ("v" ++ toString seed)

end FluentWrap.Samples
