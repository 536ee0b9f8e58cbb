import FluentWrap.Text.Blank
import FluentWrap.Text.Letter
import Mathlib.Data.List.TakeWhile

/-!
Trimming takes blanks off both ends of a text and nothing else. Letters and digits are no blanks.
-/

set_option autoImplicit false

namespace FluentWrap.Text

variable {s front back : List Char}

section Trim

theorem trimEnd_append (blank : ∀ c ∈ back, isBlank c = true) :
    trimEnd (s ++ back) = trimEnd s := by
  rw [trimEnd, List.reverse_append, List.dropWhile_append_of_pos, trimEnd]
  intro c member
  exact blank c (List.mem_reverse.1 member)

theorem trim_blanks_append (blank : ∀ c ∈ front, isBlank c = true) :
    trim (front ++ s) = trim s := by
  rw [trim, List.dropWhile_append_of_pos blank, trim]

theorem trim_append_blanks (blank : ∀ c ∈ back, isBlank c = true) :
    trim (s ++ back) = trim s := by
  rw [trim, trim, List.dropWhile_append]
  split
  · next none =>
    -- All of it is blank, and so is what stands behind.
    rw [List.isEmpty_iff.1 none, List.dropWhile_eq_nil_iff.2 blank]
  · exact trimEnd_append blank

theorem exists_trimEnd (s : List Char) :
    ∃ back, (∀ c ∈ back, isBlank c = true) ∧ s = trimEnd s ++ back := by
  refine ⟨(s.reverse.takeWhile isBlank).reverse, fun c member => ?_, ?_⟩
  · exact List.all_eq_true.1 List.all_takeWhile c (List.mem_reverse.1 member)
  · rw [trimEnd, ← List.reverse_append, List.takeWhile_append_dropWhile, List.reverse_reverse]

theorem exists_trim (s : List Char) :
    ∃ front back, (∀ c ∈ front, isBlank c = true) ∧ (∀ c ∈ back, isBlank c = true) ∧
      s = front ++ trim s ++ back := by
  obtain ⟨back, blank, cut⟩ := exists_trimEnd (s.dropWhile isBlank)
  refine ⟨s.takeWhile isBlank, back, List.all_eq_true.1 List.all_takeWhile, blank, ?_⟩
  rw [List.append_assoc, trim, ← cut, List.takeWhile_append_dropWhile]

theorem dropWhile_blank_eq_self (first : ∀ c ∈ s.head?, isBlank c = false) :
    s.dropWhile isBlank = s := by
  cases s with
  | nil => rfl
  | cons c rest => exact List.dropWhile_cons_of_neg (by simp [first c rfl])

theorem trim_of_no_blank (plain : ∀ c ∈ s, isBlank c = false) : trim s = s := by
  have front : s.dropWhile isBlank = s :=
    dropWhile_blank_eq_self fun c first => plain c (List.mem_of_mem_head? first)
  have back : s.reverse.dropWhile isBlank = s.reverse :=
    dropWhile_blank_eq_self fun c first =>
      plain c (List.mem_reverse.1 (List.mem_of_mem_head? first))
  rw [trim, front, trimEnd, back, List.reverse_reverse]

end Trim

section Classes

theorem exists_range_of_inRanges {code : Nat} {table : List (Nat × Nat)}
    (found : inRanges code table = true) :
    ∃ range ∈ table, range.1 ≤ code ∧ code ≤ range.2 := by
  induction table with
  | nil => cases found
  | cons range rest ih =>
    rw [inRanges_cons] at found
    simp only [Bool.and_eq_true, Bool.or_eq_true, decide_eq_true_eq] at found
    obtain ⟨low, high | later⟩ := found
    · exact ⟨range, List.mem_cons_self, low, high⟩
    · obtain ⟨other, member, bounds⟩ := ih later
      exact ⟨other, List.mem_cons_of_mem _ member, bounds⟩

theorem not_alphanumeric_of_blankRange : ∀ range ∈ blankRanges,
    ∀ code ∈ List.range' range.1 (range.2 + 1 - range.1),
      isAlphanumeric (Char.ofNat code) = false := by
  decide +kernel

theorem isAlphanumeric_of_isBlank {c : Char} (blank : isBlank c = true) :
    isAlphanumeric c = false := by
  obtain ⟨range, member, low, high⟩ := exists_range_of_inRanges blank
  have listed : c.toNat ∈ List.range' range.1 (range.2 + 1 - range.1) :=
    List.mem_range'_1.2 (by omega)
  simpa using not_alphanumeric_of_blankRange range member c.toNat listed

end Classes

end FluentWrap.Text
