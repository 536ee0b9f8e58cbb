import FluentWrap.Naming.Identifier
import FluentWrap.Proofs.Text.Cutting
import FluentWrap.TypeRef.Parser

/-!
Qualified names: which characters they are made of, and the types whose class goes by one that is
no keyword. Packages are qualified names too.
-/

set_option autoImplicit false

namespace FluentWrap.TypeRef

def WellNamed (t : TypeRef) : Prop :=
  ∀ name, t.base = .class name →
    isQualified name.toList = true ∧ Primitive.ofKeyword? name = none

theorem base_arrayOf (t : TypeRef) (dimensions : Nat) : (arrayOf t dimensions).base = t.base := by
  induction dimensions with
  | zero => rfl
  | succ dimensions ih => rw [arrayOf, base, ih]

theorem isNamePart_of_isNameStart {c : Char} (start : isNameStart c = true) :
    isNamePart c = true := by
  unfold isNameStart at start
  unfold isNamePart Text.isAlphanumeric
  grind

theorem isNamePart_of_mem_segment {segment : List Char} {c : Char}
    (named : isNameSegment segment = true) (member : c ∈ segment) : isNamePart c = true := by
  cases segment with
  | nil => cases member
  | cons first rest =>
    obtain ⟨start, parts⟩ := (Bool.and_eq_true _ _).mp named
    rcases List.mem_cons.1 member with rfl | member
    · exact isNamePart_of_isNameStart start
    · exact List.all_eq_true.1 parts c member

theorem mem_of_isQualified {s : List Char} {c : Char} (qualified : isQualified s = true)
    (member : c ∈ s) : c = '.' ∨ isNamePart c = true := by
  rcases Text.mem_splitOn member with separator | ⟨segment, cut, inside⟩
  · exact .inl separator
  · have named := List.all_eq_true.1 qualified segment cut
    exact .inr (isNamePart_of_mem_segment named inside)

theorem bracket_not_mem_of_isQualified {s : List Char} (qualified : isQualified s = true) :
    ']' ∉ s := by
  intro member
  rcases mem_of_isQualified qualified member with separator | part
  · revert separator
    decide
  · revert part
    decide

end FluentWrap.TypeRef

namespace FluentWrap.Naming

theorem isQualified_of_isPackage {package : String} (packaged : isPackage package = true) :
    TypeRef.isQualified package.toList = true := by
  refine List.all_eq_true.2 fun segment cut => ?_
  obtain ⟨first, rest, whole, starts, parts, -⟩ :=
    isIdentifier_iff.1 (List.all_eq_true.1 packaged segment cut)
  rw [String.toList_ofList] at whole
  rw [whole]
  exact (Bool.and_eq_true _ _).mpr ⟨starts, List.all_eq_true.2 parts⟩

end FluentWrap.Naming
