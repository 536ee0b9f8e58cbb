import FluentWrap.Naming.Derived
import FluentWrap.Naming.Pattern
import FluentWrap.Proofs.Naming.QualifiedNames

/-!
What patterns make of a package and a simple name. The two take the places of the marks. Where there is
no package, the dots at the beginning of the whole text are dropped, and not the separator behind the
package's mark; when this comes to the same is said exactly.
-/

set_option autoImplicit false

namespace FluentWrap

namespace NamePattern

def undotted (text : String) : String :=
  String.ofList (text.toList.dropWhile (· = '.'))

/-- Whether a pattern is so many texts around its two marks, none of which could begin a mark. -/
structure Around (pattern : NamePattern) (pre mid post : String) : Prop where
  text : pattern.text = pre ++ "%s" ++ mid ++ "%s" ++ post
  pre : '%' ∉ pre.toList
  mid : '%' ∉ mid.toList
  post : '%' ∉ post.toList

variable {pattern : NamePattern} {pre mid post : String}

section Filling

theorem apply_eq (around : pattern.Around pre mid post) {package : String}
    (unmarked : '%' ∉ package.toList) (simpleName : String) :
    pattern.apply package simpleName =
      let filled := pre ++ package ++ mid ++ simpleName ++ post
      .ofDotted (if package = "" then undotted filled else filled) := by
  have text : pattern.text.toList =
      pre.toList ++ '%' :: 's' :: (mid.toList ++ '%' :: 's' :: post.toList) := by
    rw [around.text]
    simp
  have first := Text.replacePair_append 's' package.toList
    (mid.toList ++ '%' :: 's' :: post.toList) around.pre
  -- What takes the place of the first mark brings no mark that would stand before the second.
  have absent : '%' ∉ pre.toList ++ package.toList ++ mid.toList := by
    simp [around.pre, around.mid, unmarked]
  have second := Text.replacePair_append 's' simpleName.toList post.toList absent
  unfold apply
  dsimp only
  rw [text, first, ← List.append_assoc (pre.toList ++ package.toList), second]
  split
  · congr 1
    apply String.toList_injective
    simp [undotted]
  · congr 1
    apply String.toList_injective
    simp

end Filling

section Dots

variable {text rest : String}

theorem undotted_dot (text : String) : undotted ("." ++ text) = undotted text := by
  simp [undotted]

theorem undotted_ne_dot (text rest : String) : undotted text ≠ "." ++ rest := by
  intro same
  have first := congrArg (fun t => t.toList.head?) same
  have dropped := List.head?_dropWhile_not (fun c => decide (c = '.')) text.toList
  simp only [undotted, String.toList_ofList] at first
  rw [first] at dropped
  simp at dropped

theorem dot_or_undotted (text : String) : (∃ rest, text = "." ++ rest) ∨ undotted text = text := by
  cases chars : text.toList with
  | nil => exact .inr (by simp [undotted, chars, ← String.toList_inj])
  | cons c rest =>
    by_cases dot : c = '.'
    · refine .inl ⟨String.ofList rest, String.toList_injective ?_⟩
      simp [chars, dot]
    · refine .inr (String.toList_injective ?_)
      simp [undotted, chars, dot]

theorem undotted_dots_append {dots : String} (only : ∀ c ∈ dots.toList, c = '.') (text : String) :
    undotted (dots ++ text) = undotted text := by
  unfold undotted
  rw [String.toList_append, List.dropWhile_append_of_pos (by simpa using only)]

theorem undotted_append (other : ∃ c ∈ text.toList, c ≠ '.') (rest : String) :
    undotted (text ++ rest) = undotted text ++ rest := by
  have kept : text.toList.dropWhile (fun c => decide (c = '.')) ≠ [] := by
    intro none
    obtain ⟨c, member, different⟩ := other
    have dots := List.dropWhile_eq_nil_iff.1 none c member
    exact different (by simpa using dots)
  apply String.toList_injective
  simp only [undotted, String.toList_append, String.toList_ofList, List.dropWhile_append,
    List.isEmpty_iff, kept, if_false]

/-- Dropping the dots in front makes no difference to the name exactly if there is none, or if the
only one of all stands there. -/
theorem ofDotted_undotted_iff :
    QualifiedName.ofDotted (undotted text) = .ofDotted text ↔
      ∀ rest, text = "." ++ rest → '.' ∉ rest.toList := by
  rcases dot_or_undotted text with ⟨rest, rfl⟩ | same
  · rw [undotted_dot, QualifiedName.ofDotted_eq_iff]
    constructor
    · rintro (same | ⟨plain, same⟩ | ⟨-, same⟩) other dotted
      · exact absurd same (undotted_ne_dot _ _)
      · rw [← (String.append_right_inj ".").1 dotted, (String.append_right_inj ".").1 same]
        exact plain
      · exact absurd same (undotted_ne_dot _ _)
    · intro single
      have plain := single rest rfl
      rcases dot_or_undotted rest with ⟨other, rfl⟩ | same
      · simp at plain
      · rw [same]
        exact .inr (.inl ⟨plain, rfl⟩)
  · rw [same]
    refine iff_of_true rfl fun rest dotted => ?_
    rw [dotted] at same
    exact absurd same (undotted_ne_dot _ _)

end Dots

section Separator

theorem dropPrefix_dot (rest : String) : Naming.dropPrefix "." ("." ++ rest) = rest := by
  apply String.toList_injective
  simp only [Naming.dropPrefix, String.toList_append, Text.dropPrefix_append, String.toList_ofList]

theorem dropPrefix_of_undotted {text : String} (none : ∀ rest, text ≠ "." ++ rest) :
    Naming.dropPrefix "." text = text := by
  have unmarked : ¬ ".".toList <+: text.toList := by
    rintro ⟨tail, whole⟩
    exact none (String.ofList tail) (String.toList_injective (by simp [← whole]))
  rw [Naming.dropPrefix, Text.dropPrefix_of_unmarked unmarked, String.ofList_toList]

/-- A separator in the middle is dropped with the dots in front exactly if nothing but dots stands
before it. -/
theorem ofDotted_separator_iff (pre mid tail : String) :
    let bare := pre ++ Naming.dropPrefix "." mid ++ tail
    QualifiedName.ofDotted (undotted (pre ++ mid ++ tail)) = .ofDotted bare ↔
      (∀ rest, mid = "." ++ rest → ∀ c ∈ pre.toList, c = '.') ∧
        ∀ rest, bare = "." ++ rest → '.' ∉ rest.toList := by
  intro bare
  by_cases separated : ∃ rest, mid = "." ++ rest
  · obtain ⟨rest, rfl⟩ := separated
    have dropped : bare = pre ++ rest ++ tail := by
      rw [← dropPrefix_dot rest]
    by_cases dots : ∀ c ∈ pre.toList, c = '.'
    · have same : undotted (pre ++ ("." ++ rest) ++ tail) = undotted bare := by
        rw [dropped, String.append_assoc, String.append_assoc, undotted_dots_append dots,
          String.append_assoc, undotted_dot, undotted_dots_append dots]
      rw [same, ofDotted_undotted_iff]
      exact ⟨fun single => ⟨fun _ _ => dots, single⟩, fun both => both.2⟩
    · refine iff_of_false ?_ fun both => dots (both.1 rest rfl)
      have other : ∃ c ∈ pre.toList, c ≠ '.' := by simpa using dots
      rw [String.append_assoc, dropped, QualifiedName.ofDotted_eq_iff]
      -- The dot in the middle stays, and so the two are neither the same nor one of them plain.
      rintro (same | ⟨plain, -⟩ | ⟨-, same⟩)
      · rcases dot_or_undotted pre with ⟨front, rfl⟩ | kept
        · simp only [String.append_assoc] at same
          exact absurd same (undotted_ne_dot _ _)
        · rw [undotted_append other, kept] at same
          have lengths := congrArg String.length same
          have one : ".".length = 1 := rfl
          simp only [String.length_append] at lengths
          omega
      · rw [undotted_append other] at plain
        simp at plain
      · exact absurd same (undotted_ne_dot _ _)
  · have unmarked : ∀ rest, mid ≠ "." ++ rest := fun rest same => separated ⟨rest, same⟩
    have whole : bare = pre ++ mid ++ tail := by
      rw [← dropPrefix_of_undotted unmarked]
    rw [whole, ofDotted_undotted_iff]
    exact ⟨fun single => ⟨fun rest same => absurd same (unmarked rest), single⟩,
      fun both => both.2⟩

end Separator

/-- A pattern puts a package and a simple name between its three texts. Without a package the dots at
the beginning are dropped instead of the separator behind the package's mark; the name is the same
exactly if there is no such separator or only dots before it, and the text that remains does not begin
with a dot or has no other. -/
theorem apply_around (around : pattern.Around pre mid post) (package simpleName : String)
    (unmarked : '%' ∉ package.toList) :
    (package ≠ "" → pattern.apply package simpleName =
      .ofDotted (pre ++ package ++ mid ++ simpleName ++ post)) ∧
    pattern.apply "" simpleName = .ofDotted (undotted (pre ++ mid ++ simpleName ++ post)) ∧
    let bare := pre ++ Naming.dropPrefix "." mid ++ simpleName ++ post
    (pattern.apply "" simpleName = .ofDotted bare ↔
      (∀ rest, mid = "." ++ rest → ∀ c ∈ pre.toList, c = '.') ∧
        ∀ rest, bare = "." ++ rest → '.' ∉ rest.toList) := by
  have without : pattern.apply "" simpleName =
      .ofDotted (undotted (pre ++ mid ++ simpleName ++ post)) := by
    rw [apply_eq around List.not_mem_nil]
    simp only [if_true, String.append_empty]
  refine ⟨fun present => ?_, without, ?_⟩
  · rw [apply_eq around unmarked]
    exact congrArg QualifiedName.ofDotted (if_neg present)
  · have separator := ofDotted_separator_iff pre mid (simpleName ++ post)
    simp only [← String.append_assoc] at separator
    rw [without]
    exact separator

theorem apply_around_fluent :
    let pattern : NamePattern := { text := "%s.fluent.%sBuilder" }
    pattern.Around "" ".fluent." "Builder" ∧ '%' ∉ "com.example".toList ∧
      ("com.example" ≠ "" → pattern.apply "com.example" "Point" =
        .ofDotted ("" ++ "com.example" ++ ".fluent." ++ "Point" ++ "Builder")) ∧
      pattern.apply "" "Point" = .ofDotted (undotted ("" ++ ".fluent." ++ "Point" ++ "Builder")) ∧
      let bare := "" ++ Naming.dropPrefix "." ".fluent." ++ "Point" ++ "Builder"
      (pattern.apply "" "Point" = .ofDotted bare ↔
        (∀ rest, ".fluent." = "." ++ rest → ∀ c ∈ "".toList, c = '.') ∧
          ∀ rest, bare = "." ++ rest → '.' ∉ rest.toList) := by
  intro pattern
  have around : pattern.Around "" ".fluent." "Builder" := ⟨rfl, by decide, by decide, by decide⟩
  have unmarked : '%' ∉ "com.example".toList := by decide
  exact ⟨around, unmarked, apply_around around "com.example" "Point" unmarked⟩

/-- Where something stands before the mark of an absent package, the separator behind it stays. -/
theorem separator_kept :
    let pattern : NamePattern := { text := "gen.%s.Fluent%s" }
    let bare := "gen." ++ Naming.dropPrefix "." ".Fluent" ++ "Point" ++ ""
    pattern.Around "gen." ".Fluent" "" ∧ pattern.apply "" "Point" = ⟨"gen.", "FluentPoint"⟩ ∧
      QualifiedName.ofDotted bare = ⟨"gen", "FluentPoint"⟩ ∧
      pattern.apply "" "Point" ≠ .ofDotted bare := by
  intro pattern bare
  exact ⟨⟨rfl, by decide, by decide, by decide⟩, by decide, by decide, by decide⟩

end NamePattern

end FluentWrap
