import FluentWrap.Text.Blank
import FluentWrap.Text.LowerCase
import FluentWrap.Text.Split

/-!
Names derived from a source type and its methods. They are derived mechanically; whether the
result is an identifier is checked when a class is declared.

A type `TextField` gives the field and factories `textField`; `setValue` gives the wrapper
`value`; `addTag` gives the wrapper `addTags`, its parameter `tags` and the loop variable `tag`.
-/

set_option autoImplicit false

namespace FluentWrap.Naming

def setterMark : String := "set"

def adderMark : String := "add"

def getterName : String := "get"

/-- Lower the first character and leave the rest alone. -/
def uncapitalize (s : String) : String :=
  match s.toList with
  | [] => ""
  | c :: rest => String.ofList (Text.lowerCase c ++ rest)

def dropPrefix (affix s : String) : String :=
  String.ofList (Text.dropPrefix affix.toList s.toList)

def dropSuffix (affix s : String) : String :=
  String.ofList (Text.dropSuffix affix.toList s.toList)

def hasMark (mark name : String) : Bool :=
  mark.toList.isPrefixOf name.toList

def fieldName (simpleName : String) : String :=
  uncapitalize simpleName

/-- Factories bear the name of the field and differ by their parameters. -/
def factoryName (simpleName : String) : String :=
  fieldName simpleName

def factoryArgument (index : Nat) : String :=
  "arg" ++ String.ofList (Nat.toDigits 10 index)

theorem factoryArgument_inj {i j : Nat} (same : factoryArgument i = factoryArgument j) :
    i = j := by
  have digits : Nat.toDigits 10 i = Nat.toDigits 10 j := by
    simpa [factoryArgument] using congrArg String.toList same
  have value := congrArg (fun cs => Nat.ofDigitChars 10 cs 0) digits
  simpa only [Nat.ofDigitChars_ten_toDigits] using value

def setterWrapper (method : String) : String :=
  uncapitalize (dropPrefix setterMark method)

/-- The plural of the method's name, its mark included. -/
def adderWrapper (method : String) : String :=
  method ++ "s"

def adderParameter (method : String) : String :=
  uncapitalize (dropPrefix adderMark (adderWrapper method))

/-- The singular of a parameter's name. -/
def loopVariable (parameter : String) : String :=
  dropSuffix "s" parameter

/-- The root package, or the source's own package if the root is blank. -/
def resolvePackage (root source : String) : String :=
  if Text.isBlankText root then source else root

end FluentWrap.Naming
