import FluentWrap.Naming.QualifiedName
import FluentWrap.Text.Blank

/-!
Patterns for the names of generated classes: a text with two `%s` marks, the first for the
package and the second for the simple name of the source type.
-/

set_option autoImplicit false

namespace FluentWrap

def markCount (text : String) : Nat :=
  Text.countPairs '%' 's' text.toList

/-- A text that is not blank and holds exactly two marks. -/
structure NamePattern where
  text : String
  not_blank : Text.isBlankText text = false := by decide
  two_marks : markCount text = 2 := by decide
  deriving Repr

namespace NamePattern

inductive Problem where
  | blank
  | marks (text : String) (found : Nat)
  deriving DecidableEq, Repr

def Problem.message : Problem → String
  | blank => "filename pattern must not be blank"
  | marks text found =>
    "filename pattern '" ++ text ++ "' must contain exactly two %s placeholders "
      ++ "(package, simple name), found " ++ String.ofList (Nat.toDigits 10 found)

/-- The pattern of a text, or what is wrong with it. -/
def ofText (text : String) : Except Problem NamePattern :=
  if blank : Text.isBlankText text = true then .error .blank
  else if marks : markCount text = 2 then .ok ⟨text, by simpa using blank, marks⟩
  else .error (.marks text (markCount text))

def problem? (text : String) : Option Problem :=
  match ofText text with
  | .error p => some p
  | .ok _ => none

def defaultText : String := "%s.Fluent%s"

instance : Inhabited NamePattern := ⟨{ text := defaultText }⟩

/-- Put the package into the first mark and the simple name into the first mark of the result.
Where the package is empty the leading dots go with it. -/
def apply (pattern : NamePattern) (package simpleName : String) : QualifiedName :=
  -- A package that holds a mark itself takes the simple name.
  let withPackage := Text.replacePair '%' 's' package.toList pattern.text.toList
  let filled := Text.replacePair '%' 's' simpleName.toList withPackage
  .ofDotted (String.ofList
    (if package = "" then filled.dropWhile (· = '.') else filled))

end NamePattern

end FluentWrap
