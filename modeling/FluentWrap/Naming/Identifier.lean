import FluentWrap.Text.Letter
import FluentWrap.Text.Split

/-!
The names that generated source code may use: identifiers that are not reserved words, and
packages made of them.
-/

set_option autoImplicit false

namespace FluentWrap.Naming

/-- Reserved words of Java, literals and the underscore included. -/
def reservedWords : List String := [
  "abstract", "assert", "boolean", "break", "byte", "case", "catch", "char", "class", "const",
  "continue", "default", "do", "double", "else", "enum", "extends", "final", "finally",
  "float", "for", "goto", "if", "implements", "import", "instanceof", "int", "interface",
  "long", "native", "new", "package", "private", "protected", "public", "return", "short",
  "static", "strictfp", "super", "switch", "synchronized", "this", "throw", "throws",
  "transient", "try", "void", "volatile", "while", "true", "false", "null", "_"]

def isReserved (name : String) : Bool :=
  reservedWords.contains name

def isIdentifierStart (c : Char) : Bool :=
  Text.isAlphabetic c || c = '_' || c = '$'

def isIdentifierPart (c : Char) : Bool :=
  Text.isAlphanumeric c || c = '_' || c = '$'

/-- Whether a name can stand for a class, field, method, parameter or variable. -/
def isIdentifier (name : String) : Bool :=
  match name.toList with
  | [] => false
  | c :: rest => isIdentifierStart c && rest.all isIdentifierPart && !isReserved name

/-- Whether every `.`-separated segment of a package is an identifier. -/
def isPackage (package : String) : Bool :=
  (Text.splitOn '.' package.toList).all fun segment => isIdentifier (String.ofList segment)

theorem isIdentifier_iff {name : String} :
    isIdentifier name = true ↔
      ∃ c rest, name.toList = c :: rest ∧ isIdentifierStart c = true ∧
        (∀ d ∈ rest, isIdentifierPart d = true) ∧ name ∉ reservedWords := by
  unfold isIdentifier isReserved
  cases name.toList with
  | nil => simp
  | cons c rest => simp [and_assoc]

end FluentWrap.Naming
