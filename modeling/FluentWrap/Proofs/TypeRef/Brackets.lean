import FluentWrap.Proofs.Text.Trimming
import FluentWrap.TypeRef.Parser

/-!
Angle brackets in type spellings. Erasing generic arguments succeeds exactly if the brackets pair
up, and leaves what stands outside of them; blanks at both ends may be trimmed before or after.
-/

set_option autoImplicit false

namespace FluentWrap.TypeRef

/-- Whether angle brackets pair up: none is closed before it was opened, and none stays open. -/
structure Balanced (s : List Char) : Prop where
  opened : ∀ front, front <+: s → front.count '>' ≤ front.count '<'
  closed : s.count '<' = s.count '>'

/-- What remains of a text without its groups in angle brackets. -/
inductive Outside : List Char → List Char → Prop where
  | nil : Outside [] []
  | keep {c : Char} {s rest : List Char} : c ≠ '<' → c ≠ '>' → Outside s rest →
      Outside (c :: s) (c :: rest)
  | drop {inside s rest : List Char} : Balanced inside → Outside s rest →
      Outside ('<' :: inside ++ '>' :: s) rest

section Brackets

variable {depth : Nat} {c : Char} {s rest bare : List Char}

/-- A text is looked at character by character, and brackets stand out. -/
@[elab_as_elim] theorem bracketInduction {motive : List Char → Prop} (s : List Char)
    (nil : motive [])
    (opening : ∀ rest, motive rest → motive ('<' :: rest))
    (closing : ∀ rest, motive rest → motive ('>' :: rest))
    (plain : ∀ c rest, c ≠ '<' → c ≠ '>' → motive rest → motive (c :: rest)) : motive s := by
  induction s with
  | nil => exact nil
  | cons c rest ih =>
    by_cases isOpening : c = '<'
    · subst isOpening
      exact opening rest ih
    · by_cases isClosing : c = '>'
      · subst isClosing
        exact closing rest ih
      · exact plain c rest isOpening isClosing ih

section Erasing

@[simp] theorem eraseGenerics_opening :
    eraseGenerics depth ('<' :: s) = eraseGenerics (depth + 1) s := by
  rw [eraseGenerics]

@[simp] theorem eraseGenerics_closing :
    eraseGenerics (depth + 1) ('>' :: s) = eraseGenerics depth s := by
  rw [eraseGenerics]

@[simp] theorem eraseGenerics_unopened : eraseGenerics 0 ('>' :: s) = none := by
  rw [eraseGenerics]

theorem eraseGenerics_outside (opening : c ≠ '<') (closing : c ≠ '>') :
    eraseGenerics 0 (c :: s) = (eraseGenerics 0 s).map (c :: ·) := by
  rw [eraseGenerics]
  · exact if_pos rfl
  · exact opening
  · exact closing

theorem eraseGenerics_inside (opening : c ≠ '<') (closing : c ≠ '>') :
    eraseGenerics (depth + 1) (c :: s) = eraseGenerics (depth + 1) s := by
  rw [eraseGenerics]
  · exact if_neg (Nat.succ_ne_zero depth)
  · exact opening
  · exact closing

theorem eraseGenerics_cons_congr {other : List Char}
    (same : ∀ depth, eraseGenerics depth s = eraseGenerics depth other) :
    eraseGenerics depth (c :: s) = eraseGenerics depth (c :: other) := by
  by_cases isOpening : c = '<'
  · subst isOpening
    rw [eraseGenerics_opening, eraseGenerics_opening, same]
  · by_cases isClosing : c = '>'
    · subst isClosing
      cases depth with
      | zero => rw [eraseGenerics_unopened, eraseGenerics_unopened]
      | succ depth => rw [eraseGenerics_closing, eraseGenerics_closing, same]
    · cases depth with
      | zero =>
        rw [eraseGenerics_outside isOpening isClosing, eraseGenerics_outside isOpening isClosing,
          same]
      | succ depth =>
        rw [eraseGenerics_inside isOpening isClosing, eraseGenerics_inside isOpening isClosing,
          same]

end Erasing

section Counting

/-- Whether a text closes so many brackets beside those that it opens. -/
structure Closes (depth : Nat) (s : List Char) : Prop where
  opened : ∀ front, front <+: s → front.count '>' ≤ depth + front.count '<'
  closed : depth + s.count '<' = s.count '>'

theorem closes_zero_iff : Closes 0 s ↔ Balanced s := by
  constructor
  · rintro ⟨opened, closed⟩
    exact ⟨by simpa using opened, by simpa using closed⟩
  · rintro ⟨opened, closed⟩
    exact ⟨by simpa using opened, by simpa using closed⟩

theorem closes_nil : Closes depth [] ↔ depth = 0 := by
  constructor
  · rintro ⟨-, closed⟩
    simpa using closed
  · rintro rfl
    exact ⟨fun front cut => by simp [List.prefix_nil.1 cut], rfl⟩

/-- A character in front moves the depth at which the rest begins. -/
theorem closes_cons_iff {inner : Nat} (moved : depth + [c].count '<' = inner + [c].count '>') :
    Closes depth (c :: s) ↔ Closes inner s := by
  have count_cons : ∀ t d, (c :: t).count d = [c].count d + t.count d := by
    intro t d
    rw [← List.count_append, List.singleton_append]
  constructor
  · rintro ⟨opened, closed⟩
    refine ⟨fun front cut => ?_, ?_⟩
    · have whole := opened (c :: front) ((List.prefix_cons_inj c).2 cut)
      rw [count_cons front '<', count_cons front '>'] at whole
      omega
    · rw [count_cons s '<', count_cons s '>'] at closed
      omega
  · rintro ⟨opened, closed⟩
    refine ⟨fun front cut => ?_, ?_⟩
    · -- The empty part opens no less than it closes; any other begins with the character.
      rcases List.prefix_cons_iff.1 cut with rfl | ⟨tail, rfl, inside⟩
      · simp
      · have part := opened tail inside
        rw [count_cons tail '<', count_cons tail '>']
        omega
    · rw [count_cons s '<', count_cons s '>']
      omega

theorem closes_opening : Closes depth ('<' :: s) ↔ Closes (depth + 1) s :=
  closes_cons_iff (by simp)

theorem closes_closing : Closes (depth + 1) ('>' :: s) ↔ Closes depth s :=
  closes_cons_iff (by simp)

theorem not_closes_unopened : ¬ Closes 0 ('>' :: s) := by
  rintro ⟨opened, -⟩
  have first := opened ['>'] ⟨s, rfl⟩
  simp at first

theorem closes_plain (opening : c ≠ '<') (closing : c ≠ '>') :
    Closes depth (c :: s) ↔ Closes depth s :=
  closes_cons_iff (by simp [opening, closing])

end Counting

theorem exists_eraseGenerics_iff :
    (∃ bare, eraseGenerics depth s = some bare) ↔ Closes depth s := by
  induction s using bracketInduction generalizing depth with
  | nil => simp [eraseGenerics, closes_nil]
  | opening rest ih => rw [eraseGenerics_opening, ih, closes_opening]
  | closing rest ih =>
    cases depth with
    | zero => simp [not_closes_unopened]
    | succ depth => rw [eraseGenerics_closing, ih, closes_closing]
  | plain c rest opening closing ih =>
    rw [closes_plain opening closing, ← ih]
    cases depth with
    | zero =>
      rw [eraseGenerics_outside opening closing]
      constructor
      · rintro ⟨_, erased⟩
        obtain ⟨bare, later, -⟩ := Option.map_eq_some_iff.1 erased
        exact ⟨bare, later⟩
      · rintro ⟨bare, later⟩
        exact ⟨c :: bare, by rw [later, Option.map_some]⟩
    | succ depth => rw [eraseGenerics_inside opening closing]

theorem eraseGenerics_append_of_closes (depth : Nat) {inner : Nat} {inside : List Char}
    (closes : Closes inner inside) (rest : List Char) :
    eraseGenerics (depth + inner + 1) (inside ++ rest) = eraseGenerics (depth + 1) rest := by
  induction inside using bracketInduction generalizing inner with
  | nil =>
    obtain rfl := closes_nil.1 closes
    rfl
  | opening tail ih =>
    rw [List.cons_append, eraseGenerics_opening]
    exact ih (closes_opening.1 closes)
  | closing tail ih =>
    cases inner with
    | zero => exact absurd closes not_closes_unopened
    | succ inner =>
      rw [List.cons_append, eraseGenerics_closing]
      exact ih (closes_closing.1 closes)
  | plain c tail opening closing ih =>
    rw [List.cons_append, eraseGenerics_inside opening closing]
    exact ih ((closes_plain opening closing).1 closes)

theorem exists_closes_of_eraseGenerics (depth inner : Nat)
    (erased : eraseGenerics (depth + inner + 1) s = some bare) :
    ∃ inside rest, s = inside ++ '>' :: rest ∧ Closes inner inside ∧
      eraseGenerics depth rest = some bare := by
  induction s using bracketInduction generalizing inner with
  | nil => simp [eraseGenerics] at erased
  | opening tail ih =>
    rw [eraseGenerics_opening] at erased
    obtain ⟨inside, rest, rfl, closes, later⟩ := ih (inner + 1) erased
    exact ⟨'<' :: inside, rest, rfl, closes_opening.2 closes, later⟩
  | closing tail ih =>
    rw [eraseGenerics_closing] at erased
    cases inner with
    -- This bracket is the one that is looked for.
    | zero => exact ⟨[], tail, rfl, closes_nil.2 rfl, erased⟩
    | succ inner =>
      obtain ⟨inside, rest, rfl, closes, later⟩ := ih inner erased
      exact ⟨'>' :: inside, rest, rfl, closes_closing.2 closes, later⟩
  | plain c tail opening closing ih =>
    rw [eraseGenerics_inside opening closing] at erased
    obtain ⟨inside, rest, rfl, closes, later⟩ := ih inner erased
    exact ⟨c :: inside, rest, rfl, (closes_plain opening closing).2 closes, later⟩

theorem outside_of_eraseGenerics (s bare : List Char) (erased : eraseGenerics 0 s = some bare) :
    Outside s bare := by
  match s with
  | [] =>
    obtain rfl : [] = bare := by simpa [eraseGenerics] using erased
    exact .nil
  | c :: tail =>
    by_cases isOpening : c = '<'
    · subst isOpening
      rw [eraseGenerics_opening] at erased
      obtain ⟨inside, rest, rfl, closes, later⟩ := exists_closes_of_eraseGenerics 0 0 erased
      exact .drop (closes_zero_iff.1 closes) (outside_of_eraseGenerics rest bare later)
    · by_cases isClosing : c = '>'
      · subst isClosing
        simp at erased
      · rw [eraseGenerics_outside isOpening isClosing] at erased
        obtain ⟨rest, later, rfl⟩ := Option.map_eq_some_iff.1 erased
        exact .keep isOpening isClosing (outside_of_eraseGenerics tail rest later)
termination_by s.length

theorem eraseGenerics_eq_some_iff : eraseGenerics 0 s = some bare ↔ Outside s bare := by
  refine ⟨outside_of_eraseGenerics s bare, fun outside => ?_⟩
  induction outside with
  | nil => simp [eraseGenerics]
  | keep opening closing _ ih => rw [eraseGenerics_outside opening closing, ih, Option.map_some]
  | drop balanced _ ih =>
    have closes := closes_zero_iff.2 balanced
    rw [List.cons_append, eraseGenerics_opening, eraseGenerics_append_of_closes 0 closes,
      eraseGenerics_closing, ih]

theorem eraseGenerics_insert {inside : List Char} (balanced : Balanced inside)
    (before after : List Char) (depth : Nat) :
    eraseGenerics depth (before ++ ('<' :: inside ++ '>' :: after)) =
      eraseGenerics depth (before ++ after) := by
  induction before generalizing depth with
  | nil =>
    have closes := closes_zero_iff.2 balanced
    rw [List.nil_append, List.nil_append, List.cons_append, eraseGenerics_opening,
      eraseGenerics_append_of_closes depth closes, eraseGenerics_closing]
  | cons c before ih => exact eraseGenerics_cons_congr ih

theorem Outside.balanced (outside : Outside s bare) : Balanced s :=
  closes_zero_iff.1 (exists_eraseGenerics_iff.1 ⟨bare, eraseGenerics_eq_some_iff.2 outside⟩)

end Brackets

section Blanks

variable {depth : Nat} {s front back : List Char}

theorem eraseGenerics_plain_append (plain : ∀ c ∈ front, c ≠ '<' ∧ c ≠ '>') :
    eraseGenerics 0 (front ++ s) = (eraseGenerics 0 s).map (front ++ ·) := by
  induction front with
  | nil => simp
  | cons c front ih =>
    obtain ⟨opening, closing⟩ := plain c List.mem_cons_self
    have rest := ih fun d member => plain d (List.mem_cons_of_mem _ member)
    rw [List.cons_append, eraseGenerics_outside opening closing, rest, Option.map_map]
    rfl

theorem eraseGenerics_plain (plain : ∀ c ∈ s, c ≠ '<' ∧ c ≠ '>') :
    eraseGenerics depth s = if depth = 0 then some s else none := by
  cases depth with
  | zero =>
    have whole := eraseGenerics_plain_append (s := []) plain
    simpa [eraseGenerics] using whole
  | succ depth =>
    induction s with
    | nil => simp [eraseGenerics]
    | cons c s ih =>
      obtain ⟨opening, closing⟩ := plain c List.mem_cons_self
      rw [eraseGenerics_inside opening closing]
      exact ih fun d member => plain d (List.mem_cons_of_mem _ member)

theorem eraseGenerics_append_plain (plain : ∀ c ∈ back, c ≠ '<' ∧ c ≠ '>') :
    eraseGenerics depth (s ++ back) = (eraseGenerics depth s).map (· ++ back) := by
  induction s using bracketInduction generalizing depth with
  | nil =>
    rw [List.nil_append, eraseGenerics_plain plain, eraseGenerics]
    split <;> simp
  | opening tail ih => rw [List.cons_append, eraseGenerics_opening, eraseGenerics_opening, ih]
  | closing tail ih =>
    rw [List.cons_append]
    cases depth with
    | zero => rw [eraseGenerics_unopened, eraseGenerics_unopened, Option.map_none]
    | succ depth => rw [eraseGenerics_closing, eraseGenerics_closing, ih]
  | plain c tail opening closing ih =>
    rw [List.cons_append]
    cases depth with
    | zero =>
      rw [eraseGenerics_outside opening closing, eraseGenerics_outside opening closing, ih,
        Option.map_map, Option.map_map]
      rfl
    | succ depth =>
      rw [eraseGenerics_inside opening closing, eraseGenerics_inside opening closing, ih]

theorem ne_bracket_of_isBlank {c : Char} (blank : Text.isBlank c = true) : c ≠ '<' ∧ c ≠ '>' := by
  constructor
  · rintro rfl
    revert blank
    decide
  · rintro rfl
    revert blank
    decide

theorem eraseGenerics_trim (s : List Char) :
    (eraseGenerics 0 (Text.trim s)).map Text.trim = (eraseGenerics 0 s).map Text.trim := by
  obtain ⟨front, back, blankFront, blankBack, cut⟩ := Text.exists_trim s
  have plainFront : ∀ c ∈ front, c ≠ '<' ∧ c ≠ '>' := fun c member =>
    ne_bracket_of_isBlank (blankFront c member)
  have plainBack : ∀ c ∈ back, c ≠ '<' ∧ c ≠ '>' := fun c member =>
    ne_bracket_of_isBlank (blankBack c member)
  have trimmed : ∀ bare, Text.trim (front ++ bare ++ back) = Text.trim bare := fun bare => by
    rw [Text.trim_append_blanks blankBack, Text.trim_blanks_append blankFront]
  have whole : (eraseGenerics 0 (front ++ Text.trim s ++ back)).map Text.trim =
      (eraseGenerics 0 (Text.trim s)).map Text.trim := by
    rw [eraseGenerics_append_plain plainBack, eraseGenerics_plain_append plainFront,
      Option.map_map, Option.map_map]
    exact congrFun (congrArg Option.map (funext trimmed)) _
  rw [← whole, ← cut]

end Blanks

end FluentWrap.TypeRef
