import FluentWrap.Text.Blank
import FluentWrap.Text.Letter
import FluentWrap.TypeRef.Basic

/-!
Reading a type from its spelling. Generic arguments are erased, white space around the name and
before each `[]` is skipped, and what remains must be a primitive keyword or a qualified class
name.
-/

set_option autoImplicit false

namespace FluentWrap.TypeRef

inductive ParseError where
  | unbalanced
  | empty
  | void
  | notQualified
  deriving DecidableEq, Repr

def ParseError.reason : ParseError → String
  | unbalanced => "unbalanced '<' '>'"
  | empty => "empty type name"
  | void => "void is not a value type"
  | notQualified => "not a qualified class name"

/-- The message for a rejected spelling, which is quoted as it was given. -/
def ParseError.message (e : ParseError) (input : String) : String :=
  "invalid type '" ++ input ++ "': " ++ e.reason

/-- Drop everything between balanced angle brackets, starting inside `depth` open ones. -/
def eraseGenerics (depth : Nat) : List Char → Option (List Char)
  | [] => if depth = 0 then some [] else none
  | '<' :: rest => eraseGenerics (depth + 1) rest
  | '>' :: rest =>
    match depth with
    | 0 => none
    | depth + 1 => eraseGenerics depth rest
  | c :: rest =>
    if depth = 0 then (eraseGenerics 0 rest).map (c :: ·) else eraseGenerics depth rest

/-- Take `[]` groups, each with the blanks before it, off the front of a reversed spelling. -/
def takeDimensions : List Char → List Char × Nat
  | ']' :: '[' :: rest =>
    let (base, n) := takeDimensions (rest.dropWhile Text.isBlank)
    (base, n + 1)
  | s => (s, 0)
termination_by s => s.length
decreasing_by
  have := (List.dropWhile_suffix (l := rest) Text.isBlank).length_le
  simp only [List.length_cons]
  omega

def isNameStart (c : Char) : Bool :=
  Text.isAlphabetic c || c = '_' || c = '$'

def isNamePart (c : Char) : Bool :=
  Text.isAlphanumeric c || c = '_' || c = '$'

def isNameSegment : List Char → Bool
  | [] => false
  | c :: rest => isNameStart c && rest.all isNamePart

def isQualified (s : List Char) : Bool :=
  (Text.splitOn '.' s).all isNameSegment

def parseBase (s : List Char) : Except ParseError TypeRef :=
  if s = [] then .error .empty
  else if s = "void".toList then .error .void
  else
    match Primitive.ofKeyword? (String.ofList s) with
    | some p => .ok (.primitive p)
    | none => if isQualified s then .ok (.class (String.ofList s)) else .error .notQualified

def arrayOf (t : TypeRef) : Nat → TypeRef
  | 0 => t
  | n + 1 => .array (arrayOf t n)

def parse (input : String) : Except ParseError TypeRef :=
  -- Erasing may leave blanks at either end, and so the rest is trimmed again.
  match eraseGenerics 0 (Text.trim input.toList) with
  | none => .error .unbalanced
  | some erased =>
    let (base, dimensions) := takeDimensions (Text.trim erased).reverse
    (parseBase base.reverse).map (arrayOf · dimensions)

/-- Read each spelling; the first that cannot be read is reported together with its error. -/
def parseAll : List String → Except (String × ParseError) (List TypeRef)
  | [] => .ok []
  | s :: rest =>
    match parse s with
    | .error e => .error (s, e)
    | .ok t => (parseAll rest).map (t :: ·)

end FluentWrap.TypeRef
