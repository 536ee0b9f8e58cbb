import FluentWrap.Naming.QualifiedName
import FluentWrap.Proofs.Text.Cutting

/-!
How dotted names are split. The last dot parts the package from the simple name, and so two names give
the same only if they are the same, a dot in front of a name without dots apart.
-/

set_option autoImplicit false

namespace FluentWrap

namespace QualifiedName

theorem ofDotted_of_plain {name : String} (plain : '.' ∉ name.toList) :
    ofDotted name = ⟨"", name⟩ := by
  rw [ofDotted, Text.splitAtLast?_eq_none.2 plain]

theorem toList_dotted (package simple : String) :
    (package ++ "." ++ simple).toList = package.toList ++ '.' :: simple.toList := by
  simp

theorem ofDotted_append (package : String) {simple : String} (plain : '.' ∉ simple.toList) :
    ofDotted (package ++ "." ++ simple) = ⟨package, simple⟩ := by
  rw [ofDotted, toList_dotted, Text.splitAtLast?_append plain]
  simp only [String.ofList_toList]

theorem plain_or_dotted (name : String) :
    '.' ∉ name.toList ∨
      ∃ package simple : String, '.' ∉ simple.toList ∧ name = package ++ "." ++ simple := by
  cases cut : Text.splitAtLast? '.' name.toList with
  | none => exact .inl (Text.splitAtLast?_eq_none.1 cut)
  | some parts =>
    obtain ⟨whole, plain⟩ := Text.splitAtLast?_eq_some cut
    refine .inr ⟨String.ofList parts.1, String.ofList parts.2, by simpa using plain, ?_⟩
    apply String.toList_injective
    simpa using whole

theorem dot_not_mem_simpleName_ofDotted (name : String) :
    '.' ∉ (ofDotted name).simpleName.toList := by
  rcases plain_or_dotted name with plain | ⟨package, simple, plain, rfl⟩
  · rwa [ofDotted_of_plain plain]
  · rwa [ofDotted_append package plain]

/-- Two names are split alike only if they are the same, or if one of them is the other behind a dot
and this one has no dots. -/
theorem ofDotted_eq_iff {a b : String} :
    ofDotted a = ofDotted b ↔
      a = b ∨ ('.' ∉ a.toList ∧ b = "." ++ a) ∨ ('.' ∉ b.toList ∧ a = "." ++ b) := by
  have dotted : ∀ {name : String}, '.' ∉ name.toList → ofDotted ("." ++ name) = ofDotted name := by
    intro name plain
    have split := ofDotted_append "" plain
    rw [String.empty_append] at split
    rw [split, ofDotted_of_plain plain]
  constructor
  · -- A name without dots and one with them agree only if nothing stands before the last dot.
    intro same
    rcases plain_or_dotted a with left | ⟨p, s, left, rfl⟩ <;>
      rcases plain_or_dotted b with right | ⟨q, t, right, rfl⟩
    · rw [ofDotted_of_plain left, ofDotted_of_plain right] at same
      exact .inl (QualifiedName.mk.inj same).2
    · rw [ofDotted_of_plain left, ofDotted_append q right] at same
      obtain ⟨rfl, rfl⟩ := QualifiedName.mk.inj same
      exact .inr (.inl ⟨left, by rw [String.empty_append]⟩)
    · rw [ofDotted_append p left, ofDotted_of_plain right] at same
      obtain ⟨rfl, rfl⟩ := QualifiedName.mk.inj same
      exact .inr (.inr ⟨right, by rw [String.empty_append]⟩)
    · rw [ofDotted_append p left, ofDotted_append q right] at same
      obtain ⟨rfl, rfl⟩ := QualifiedName.mk.inj same
      exact .inl rfl
  · rintro (rfl | ⟨plain, rfl⟩ | ⟨plain, rfl⟩)
    · rfl
    · exact (dotted plain).symm
    · exact dotted plain

end QualifiedName

end FluentWrap
