/-!
Cutting texts apart: at every separator, at the last one, after an affix, at line ends; and
counting and replacing the occurrences of a two-character mark.
-/

set_option autoImplicit false

namespace FluentWrap.Text

/-- The pieces between the separators; there is always at least one. -/
def splitOn (sep : Char) : List Char → List (List Char)
  | [] => [[]]
  | c :: rest =>
    if c = sep then [] :: splitOn sep rest
    else
      match splitOn sep rest with
      | [] => [[c]]
      | piece :: pieces => (c :: piece) :: pieces

/-- What stands before and after the last separator, if there is one. -/
def splitAtLast? (sep : Char) : List Char → Option (List Char × List Char)
  | [] => none
  | c :: rest =>
    match splitAtLast? sep rest with
    | some (before, after) => some (c :: before, after)
    | none => if c = sep then some ([], rest) else none

/-- What stands after the last character of a class, or everything if there is none. -/
def afterLast (isSep : Char → Bool) (s : List Char) : List Char :=
  (s.reverse.takeWhile fun c => !isSep c).reverse

/-- Drop an affix from the front, once, if it is there. -/
def dropPrefix (affix s : List Char) : List Char :=
  (affix.isPrefixOf? s).getD s

/-- Drop an affix from the end, once, if it is there. -/
def dropSuffix (affix s : List Char) : List Char :=
  (affix.isSuffixOf? s).getD s

/-- The lines of a text. A line ends at a line feed, a carriage return before it belongs to the
line end, and an empty last line does not count. -/
def lines (s : List Char) : List (List Char) :=
  let pieces := splitOn '\n' s
  let ended := pieces.dropLast.map fun line =>
    match line.reverse with
    | '\r' :: front => front.reverse
    | _ => line
  match pieces.getLast? with
  | none | some [] => ended
  | some last => ended ++ [last]

/-- How often the pair `first second` occurs, counted from the left without overlap. -/
def countPairs (first second : Char) : List Char → Nat
  | [] => 0
  | [_] => 0
  | a :: b :: rest =>
    if a = first ∧ b = second then countPairs first second rest + 1
    else countPairs first second (b :: rest)

/-- Put a text in the place of the first pair `first second`. -/
def replacePair (first second : Char) (by_ : List Char) : List Char → List Char
  | [] => []
  | [a] => [a]
  | a :: b :: rest =>
    if a = first ∧ b = second then by_ ++ rest
    else a :: replacePair first second by_ (b :: rest)

theorem splitOn_ne_nil (sep : Char) (s : List Char) : splitOn sep s ≠ [] := by
  induction s with
  | nil => simp [splitOn]
  | cons c rest ih =>
    rw [splitOn]
    split
    · simp
    · split <;> simp

end FluentWrap.Text
