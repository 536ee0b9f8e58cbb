/-!
Sorted tables of code point ranges, the form in which the character classes of this library are
kept.
-/

set_option autoImplicit false

namespace FluentWrap.Text

/-- Whether a code point lies in one of the ranges `(first, last)`. The table is in increasing
order, so the search ends at the first range that begins after the code point. -/
def inRanges (code : Nat) : List (Nat × Nat) → Bool
  | [] => false
  | (first, last) :: rest => first ≤ code && (code ≤ last || inRanges code rest)

@[simp] theorem inRanges_nil (code : Nat) : inRanges code [] = false := rfl

theorem inRanges_cons (code first last : Nat) (rest : List (Nat × Nat)) :
    inRanges code ((first, last) :: rest) =
      (first ≤ code && (code ≤ last || inRanges code rest)) := rfl

end FluentWrap.Text
