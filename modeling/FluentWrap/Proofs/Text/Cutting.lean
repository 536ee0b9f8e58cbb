import FluentWrap.Text.Split
import Mathlib.Data.List.Infix
import Mathlib.Data.List.TakeWhile

/-!
What cutting a text apart leaves behind: the parts around the last separator make up the text
again, no piece loses a character that is no separator, an affix that was put on comes off, and a pair
is replaced where it first stands and counted wherever it does.
-/

set_option autoImplicit false

namespace FluentWrap.Text

variable {sep : Char} {s affix : List Char}

section LastSeparator

theorem splitAtLast?_eq_none : splitAtLast? sep s = none ↔ sep ∉ s := by
  induction s with
  | nil => simp [splitAtLast?]
  | cons c rest ih =>
    cases later : splitAtLast? sep rest with
    | none =>
      have absent := ih.1 later
      by_cases same : c = sep
      · simp [splitAtLast?, later, same]
      · simp [splitAtLast?, later, same, absent, Ne.symm same]
    | some parts =>
      have present : sep ∈ rest := by
        by_contra absent
        rw [ih.2 absent] at later
        cases later
      simp [splitAtLast?, later, present]

theorem splitAtLast?_eq_some {before after : List Char}
    (found : splitAtLast? sep s = some (before, after)) :
    s = before ++ sep :: after ∧ sep ∉ after := by
  induction s generalizing before with
  | nil => cases found
  | cons c rest ih =>
    cases later : splitAtLast? sep rest with
    | none =>
      have absent := splitAtLast?_eq_none.1 later
      simp only [splitAtLast?, later, Option.ite_none_right_eq_some, Option.some.injEq,
        Prod.mk.injEq] at found
      obtain ⟨rfl, rfl, rfl⟩ := found
      exact ⟨rfl, absent⟩
    | some parts =>
      obtain ⟨front, back⟩ := parts
      simp only [splitAtLast?, later, Option.some.injEq, Prod.mk.injEq] at found
      obtain ⟨rfl, rfl⟩ := found
      obtain ⟨whole, absent⟩ := ih later
      exact ⟨congrArg (c :: ·) whole, absent⟩

theorem splitAtLast?_append {after : List Char} (last : sep ∉ after) (before : List Char) :
    splitAtLast? sep (before ++ sep :: after) = some (before, after) := by
  induction before with
  | nil => simp [splitAtLast?, splitAtLast?_eq_none.2 last]
  | cons c before ih => simp [splitAtLast?, ih]

theorem not_mem_afterLast {isSep : Char → Bool} {c : Char} (separates : isSep c = true) :
    c ∉ afterLast isSep s := by
  intro member
  have kept := List.all_takeWhile (p := fun d => !isSep d) (l := s.reverse)
  have passed := List.all_eq_true.1 kept c (List.mem_reverse.1 member)
  simp [separates] at passed

theorem afterLast_of_absent {isSep : Char → Bool} (absent : ∀ c ∈ s, isSep c = false) :
    afterLast isSep s = s := by
  have all : s.reverse.takeWhile (fun c => !isSep c) = s.reverse := by
    refine List.takeWhile_eq_self_iff.2 fun c member => ?_
    simp [absent c (List.mem_reverse.1 member)]
  rw [afterLast, all, List.reverse_reverse]

theorem takeWhile_congr {p q : Char → Bool} (same : ∀ c ∈ s, p c = q c) :
    s.takeWhile p = s.takeWhile q := by
  induction s with
  | nil => rfl
  | cons c rest ih =>
    rw [List.takeWhile_cons, List.takeWhile_cons, same c List.mem_cons_self,
      ih fun d member => same d (List.mem_cons_of_mem _ member)]

theorem afterLast_congr {p q : Char → Bool} (same : ∀ c ∈ s, p c = q c) :
    afterLast p s = afterLast q s := by
  unfold afterLast
  congr 1
  refine takeWhile_congr fun c member => ?_
  rw [same c (List.mem_reverse.1 member)]

theorem afterLast_suffix (isSep : Char → Bool) (s : List Char) : afterLast isSep s <:+ s := by
  have front := List.takeWhile_prefix (l := s.reverse) fun c => !isSep c
  exact List.reverse_prefix.1 (by rwa [afterLast, List.reverse_reverse])

theorem afterLast_append {isSep : Char → Bool} {c : Char} (separates : isSep c = true)
    (front back : List Char) : afterLast isSep (front ++ c :: back) = afterLast isSep back := by
  have stopped : (c :: front.reverse).takeWhile (fun d => !isSep d) = [] :=
    List.takeWhile_cons_of_neg (by simp [separates])
  unfold afterLast
  rw [List.reverse_append, List.reverse_cons, List.append_assoc, List.singleton_append,
    List.takeWhile_append, stopped, List.append_nil]
  split
  · next whole => rw [(List.takeWhile_prefix _).eq_of_length whole]
  · rfl

theorem afterLast_concat {isSep : Char → Bool} {c : Char} (separates : isSep c = true) :
    afterLast isSep (s ++ [c]) = [] :=
  afterLast_append separates s []

end LastSeparator

section Stops

variable {p : Char → Bool} {c : Char} {front rest : List Char}

theorem length_takeWhile_le (stops : p c = false) :
    ((front ++ c :: rest).takeWhile p).length ≤ front.length := by
  induction front with
  | nil => simp [stops]
  | cons d front ih =>
    rw [List.cons_append, List.takeWhile_cons]
    split
    · exact Nat.succ_le_succ ih
    · exact Nat.zero_le _

theorem mem_dropWhile {d : Char} (stops : p c = false) (member : d ∈ rest) :
    d ∈ (front ++ c :: rest).dropWhile p := by
  induction front with
  | nil =>
    rw [List.nil_append, List.dropWhile_cons_of_neg (by simp [stops])]
    exact List.mem_cons_of_mem _ member
  | cons a front ih =>
    rw [List.cons_append, List.dropWhile_cons]
    split
    · exact ih
    · simp [member]

end Stops

theorem mem_splitOn {c : Char} (member : c ∈ s) : c = sep ∨ ∃ piece ∈ splitOn sep s, c ∈ piece := by
  induction s with
  | nil => cases member
  | cons d rest ih =>
    by_cases separator : d = sep
    · rcases List.mem_cons.1 member with rfl | member
      · exact .inl separator
      · rcases ih member with same | ⟨piece, cut, inside⟩
        · exact .inl same
        · refine .inr ⟨piece, ?_, inside⟩
          rw [splitOn, if_pos separator]
          exact List.mem_cons_of_mem _ cut
    · cases cut : splitOn sep rest with
      | nil => exact absurd cut (splitOn_ne_nil sep rest)
      | cons first others =>
        -- The character in front belongs to the first piece of the rest.
        have pieces : splitOn sep (d :: rest) = (d :: first) :: others := by
          rw [splitOn, if_neg separator, cut]
        rw [pieces]
        rcases List.mem_cons.1 member with rfl | member
        · exact .inr ⟨_, List.mem_cons_self, List.mem_cons_self⟩
        · rcases ih member with same | ⟨piece, chosen, inside⟩
          · exact .inl same
          · rw [cut] at chosen
            rcases List.mem_cons.1 chosen with rfl | chosen
            · exact .inr ⟨_, List.mem_cons_self, List.mem_cons_of_mem _ inside⟩
            · exact .inr ⟨piece, List.mem_cons_of_mem _ chosen, inside⟩

theorem sep_not_mem_piece {piece : List Char} (cut : piece ∈ splitOn sep s) : sep ∉ piece := by
  induction s generalizing piece with
  | nil =>
    rw [List.mem_singleton.1 cut]
    exact List.not_mem_nil
  | cons c rest ih =>
    rw [splitOn] at cut
    split at cut
    · rcases List.mem_cons.1 cut with rfl | later
      · exact List.not_mem_nil
      · exact ih later
    · next other =>
      split at cut
      · next none => exact absurd none (splitOn_ne_nil sep rest)
      · next first others pieces =>
        rw [pieces] at ih
        -- The character is put in front of the first piece.
        rcases List.mem_cons.1 cut with rfl | later
        · rw [List.mem_cons, not_or]
          exact ⟨Ne.symm other, ih List.mem_cons_self⟩
        · exact ih (List.mem_cons_of_mem _ later)

/-- The pieces are those of the list library, whose laws about joining them again apply. -/
theorem splitOn_eq (sep : Char) (s : List Char) : splitOn sep s = s.splitOn sep := by
  induction s with
  | nil => rfl
  | cons c rest ih =>
    rw [splitOn, List.splitOn_cons_eq_if_modifyHead, ← ih]
    by_cases same : c = sep
    · simp [same]
    · obtain ⟨piece, pieces, cut⟩ := List.exists_cons_of_ne_nil (splitOn_ne_nil sep rest)
      simp [same, cut]

theorem splitOn_of_absent (absent : sep ∉ s) : splitOn sep s = [s] := by
  rw [splitOn_eq, List.splitOn_eq_singleton absent]

theorem splitOn_append (sep : Char) (front back : List Char) :
    splitOn sep (front ++ sep :: back) = splitOn sep front ++ splitOn sep back := by
  simp only [splitOn_eq, List.splitOn_append_cons_self]

theorem getLast?_splitOn (sep : Char) (s : List Char) :
    (splitOn sep s).getLast? = some (afterLast (fun c => c = sep) s) := by
  cases cut : splitAtLast? sep s with
  | none =>
    have absent := splitAtLast?_eq_none.1 cut
    rw [splitOn_of_absent absent, afterLast_of_absent]
    · rfl
    · intro c member
      exact decide_eq_false fun same => absent (same ▸ member)
  | some parts =>
    obtain ⟨rfl, absent⟩ := splitAtLast?_eq_some cut
    rw [splitOn_append, splitOn_of_absent absent, List.getLast?_concat,
      afterLast_append (decide_eq_true rfl), afterLast_of_absent]
    intro c member
    exact decide_eq_false fun same => absent (same ▸ member)

theorem intercalate_splitOn (sep other : Char) (s : List Char) :
    [other].intercalate (splitOn sep s) = s.map fun c => if c = sep then other else c := by
  induction s with
  | nil => rfl
  | cons c rest ih =>
    rw [splitOn, List.map_cons, ← ih]
    by_cases separator : c = sep
    · rw [if_pos separator, if_pos separator,
        List.intercalate_cons_of_ne_nil (splitOn_ne_nil sep rest)]
      rfl
    · rw [if_neg separator, if_neg separator]
      obtain ⟨piece, pieces, cut⟩ := List.exists_cons_of_ne_nil (splitOn_ne_nil sep rest)
      rw [cut]
      exact List.intercalate_cons_cons_left

section Lines

variable {texts : List (List Char)}

theorem splitOn_flatMap (absent : ∀ text ∈ texts, sep ∉ text) :
    splitOn sep (texts.flatMap fun text => text ++ [sep]) = texts ++ [[]] := by
  induction texts with
  | nil => rfl
  | cons text rest ih =>
    obtain ⟨first, others⟩ := List.forall_mem_cons.1 absent
    rw [List.flatMap_cons, List.append_assoc, List.singleton_append, splitOn_append,
      splitOn_of_absent first, ih others]
    rfl

theorem lines_flatMap (single : ∀ text ∈ texts, '\n' ∉ text ∧ '\r' ∉ text) :
    lines (texts.flatMap fun text => text ++ ['\n']) = texts := by
  unfold lines
  rw [splitOn_flatMap fun text member => (single text member).1]
  dsimp only
  rw [List.dropLast_concat, List.getLast?_concat]
  refine (List.map_congr_left (g := id) fun text member => ?_).trans (List.map_id texts)
  split
  · next front reversed =>
    have ended : '\r' ∈ text := by
      rw [← List.mem_reverse, reversed]
      exact List.mem_cons_self
    exact absurd ended (single text member).2
  · rfl

theorem lines_of_absent (absent : '\n' ∉ s) : lines s = if s = [] then [] else [s] := by
  unfold lines
  rw [splitOn_of_absent absent]
  cases s <;> rfl

end Lines

section Affixes

@[simp] theorem dropSuffix_append (affix s : List Char) : dropSuffix affix (s ++ affix) = s := by
  have found : affix.isSuffixOf? (s ++ affix) = some s :=
    List.isSuffixOf?_eq_some_iff_append_eq.2 rfl
  rw [dropSuffix, found, Option.getD_some]

@[simp] theorem dropPrefix_append (affix s : List Char) : dropPrefix affix (affix ++ s) = s := by
  have found : affix.isPrefixOf? (affix ++ s) = some s :=
    List.isPrefixOf?_eq_some_iff_append_eq.2 rfl
  rw [dropPrefix, found, Option.getD_some]

theorem dropPrefix_of_unmarked (missing : ¬ affix <+: s) : dropPrefix affix s = s := by
  cases found : affix.isPrefixOf? s with
  | none => rw [dropPrefix, found, Option.getD_none]
  | some rest => exact absurd ⟨rest, List.isPrefixOf?_eq_some_iff_append_eq.1 found⟩ missing

theorem dropPrefix_concat {c : Char} (other : affix.getLast? ≠ some c) :
    dropPrefix affix (s ++ [c]) = dropPrefix affix s ++ [c] := by
  by_cases marked : affix <+: s
  · obtain ⟨rest, rfl⟩ := marked
    rw [List.append_assoc, dropPrefix_append, dropPrefix_append]
  · have still : ¬ affix <+: s ++ [c] := by
      intro prefixed
      rcases List.prefix_concat_iff.1 prefixed with whole | inside
      · rw [whole, List.getLast?_concat] at other
        exact other rfl
      · exact marked inside
    rw [dropPrefix_of_unmarked marked, dropPrefix_of_unmarked still]

end Affixes

section Pairs

/-- Pairs of different characters do not overlap, and so each place where one begins counts. -/
theorem countPairs_eq {first second : Char} (differ : first ≠ second) (s : List Char) :
    countPairs first second s = (s.zip s.tail).count (first, second) := by
  fun_induction countPairs first second s with
  | case1 => rfl
  | case2 => rfl
  | case3 a b rest pair ih =>
    obtain ⟨rfl, rfl⟩ := pair
    -- The second character of a pair begins no other.
    have next : ((b :: rest).zip rest).count (a, b) = (rest.zip rest.tail).count (a, b) := by
      cases rest with
      | nil => rfl
      | cons c rest => simp [differ.symm]
    rw [ih, List.tail_cons, List.zip_cons_cons, List.count_cons_self, next]
  | case4 a b rest other ih =>
    have apart : (a, b) ≠ (first, second) := fun same => other (Prod.mk.inj same)
    rw [ih, List.tail_cons, List.tail_cons, List.zip_cons_cons, List.count_cons_of_ne apart]

/-- A text is put in the place of a pair in front of which its first character does not stand. -/
theorem replacePair_append {first : Char} (second : Char) {front : List Char} (text rest : List Char)
    (absent : first ∉ front) :
    replacePair first second text (front ++ first :: second :: rest) = front ++ text ++ rest := by
  induction front with
  | nil => simp [replacePair]
  | cons c front ih =>
    obtain ⟨other, later⟩ := not_or.1 (List.mem_cons.not.1 absent)
    -- The pair is looked for two characters at a time, and so the tail has to show its first.
    obtain ⟨d, tail, whole⟩ : ∃ d tail, front ++ first :: second :: rest = d :: tail :=
      List.exists_cons_of_ne_nil (by simp)
    have passed : ¬ (c = first ∧ d = second) := fun both => other both.1.symm
    rw [List.cons_append, whole, replacePair, if_neg passed, ← whole, ih later]
    rfl

end Pairs

end FluentWrap.Text
