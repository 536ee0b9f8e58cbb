import FluentWrap.Text.Split

/-!
Paths as texts: a path is shown as it was written. Components are separated by `/`; repeated
separators, a separator at the end, and `.` behind a separator mean nothing.
-/

set_option autoImplicit false

namespace FluentWrap

structure Path where
  text : String
  deriving DecidableEq, Repr, Inhabited

namespace Path

instance : ToString Path := ⟨text⟩

def isAbsolute (p : Path) : Bool :=
  p.text.toList.head? = some '/'

/-- Go on from a path. An absolute continuation takes its place, and an empty one leaves a
separator at its end. -/
def push (p : Path) (next : String) : Path :=
  if (⟨next⟩ : Path).isAbsolute then ⟨next⟩
  else
    match p.text.toList.getLast? with
    | none | some '/' => ⟨p.text ++ next⟩
    | some _ => ⟨p.text ++ "/" ++ next⟩

/-- Drop what means nothing at the end of a path, which is given reversed. The root keeps its
separator and a leading `.` stays. -/
def dropIdle : List Char → List Char
  | '.' :: '/' :: rest => dropIdle ('/' :: rest)
  | '/' :: c :: rest => dropIdle (c :: rest)
  | s => s
termination_by s => s.length

/-- The directory that holds a path, if it is neither empty nor the root. -/
def parent? (p : Path) : Option Path :=
  match dropIdle p.text.toList.reverse with
  | [] | ['/'] => none
  | s => some ⟨String.ofList (dropIdle (s.dropWhile (· != '/'))).reverse⟩

/-- The last component, unless it is the root, `.` or `..`. -/
def fileName? (p : Path) : Option String :=
  let last := ((dropIdle p.text.toList.reverse).takeWhile (· != '/')).reverse
  if last = [] ∨ last = ['.'] ∨ last = ['.', '.'] then none else some (String.ofList last)

/-- What follows the last `.` of the file name, unless the name begins with it. -/
def extension? (p : Path) : Option String := do
  let name ← p.fileName?
  match Text.splitAtLast? '.' name.toList with
  | none | some ([], _) => none
  | some (_, extension) => some (String.ofList extension)

/-- A path and the directories above it, innermost first, no more than a number of them. -/
def ancestors : Nat → Path → List Path
  | 0, _ => []
  | n + 1, p =>
    p :: match p.parent? with
      | none => []
      | some parent => ancestors n parent

/-- A path and its outer directories, innermost first, without the root and the empty path,
which lie in nothing. -/
def nested (p : Path) : List Path :=
  (ancestors (p.text.length + 1) p).filter fun q => q.parent?.isSome

def segments (p : Path) : List String :=
  (Text.splitOn '/' p.text.toList).map String.ofList

end Path

end FluentWrap
