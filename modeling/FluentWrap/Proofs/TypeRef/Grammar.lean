import FluentWrap.Proofs.TypeRef.Brackets
import FluentWrap.Proofs.TypeRef.Parsing

/-!
The grammar of type spellings. Groups in angle brackets do not count, and neither do blanks at both
ends. What remains is the name of a primitive or a class, followed by `[]` for each dimension of an
array. Exactly these spellings are read, and each as the type that it names.
-/

set_option autoImplicit false

namespace FluentWrap.TypeRef

inductive Segment : List Char → Prop where
  | mk {first : Char} {rest : List Char} :
      (Text.isAlphabetic first = true ∨ first = '_' ∨ first = '$') →
      (∀ c ∈ rest, Text.isAlphanumeric c = true ∨ c = '_' ∨ c = '$') → Segment (first :: rest)

/-- The names that a class can be read from: segments with a `.` between any two, and no word that
is a primitive or `void`. -/
structure ClassName (name : String) : Prop where
  segments : ∃ segments, segments ≠ [] ∧ (∀ segment ∈ segments, Segment segment) ∧
    ['.'].intercalate segments = name.toList
  keyword : ∀ p : Primitive, name ≠ p.keyword
  void : name ≠ "void"

inductive Named : String → TypeRef → Prop where
  | primitive (p : Primitive) : Named p.keyword (.primitive p)
  | class {name : String} : ClassName name → Named name (.class name)

/-- A text with so many `[]` behind it, each with any number of blanks in front. -/
inductive Dimensioned (base : List Char) : Nat → List Char → Prop where
  | base : Dimensioned base 0 base
  | group {n : Nat} {s blanks : List Char} : Dimensioned base n s →
      (∀ c ∈ blanks, Text.isBlank c = true) →
      Dimensioned base (n + 1) (s ++ blanks ++ ['[', ']'])

section Names

variable {c : Char} {s : List Char} {name : String} {t : TypeRef}

theorem isNameSegment_iff : isNameSegment s = true ↔ Segment s := by
  constructor
  · intro named
    cases s with
    | nil => cases named
    | cons first rest =>
      simp only [isNameSegment, isNameStart, isNamePart, Bool.and_eq_true, Bool.or_eq_true,
        List.all_eq_true, decide_eq_true_eq, or_assoc] at named
      exact .mk named.1 named.2
  · rintro ⟨start, parts⟩
    simp only [isNameSegment, isNameStart, isNamePart, Bool.and_eq_true, Bool.or_eq_true,
      List.all_eq_true, decide_eq_true_eq, or_assoc]
    exact ⟨start, parts⟩

theorem Segment.dot_not_mem (segment : Segment s) : '.' ∉ s := by
  intro member
  have part := isNamePart_of_mem_segment (isNameSegment_iff.2 segment) member
  revert part
  decide

theorem isQualified_iff :
    isQualified s = true ↔ ∃ segments, segments ≠ [] ∧ (∀ segment ∈ segments, Segment segment) ∧
      ['.'].intercalate segments = s := by
  constructor
  · intro qualified
    refine ⟨Text.splitOn '.' s, Text.splitOn_ne_nil _ _, fun segment cut => ?_, ?_⟩
    · exact isNameSegment_iff.1 (List.all_eq_true.1 qualified segment cut)
    · rw [Text.splitOn_eq, List.intercalate_splitOn]
  · rintro ⟨segments, some, named, rfl⟩
    have pieces := List.splitOn_intercalate '.' (fun l member => (named l member).dot_not_mem) some
    rw [isQualified, Text.splitOn_eq, pieces, List.all_eq_true]
    exact fun segment member => isNameSegment_iff.2 (named segment member)

theorem ofKeyword?_eq_none_iff :
    Primitive.ofKeyword? name = none ↔ ∀ p : Primitive, name ≠ p.keyword := by
  constructor
  · rintro none p rfl
    rw [Primitive.ofKeyword?_keyword] at none
    cases none
  · intro none
    cases found : Primitive.ofKeyword? name with
    | none => rfl
    | some p => exact absurd (Primitive.keyword_of_ofKeyword? found).symm (none p)

theorem className_iff : ClassName name ↔
    isQualified name.toList = true ∧ Primitive.ofKeyword? name = none ∧ name ≠ "void" := by
  rw [isQualified_iff, ofKeyword?_eq_none_iff]
  exact ⟨fun ⟨segments, keyword, void⟩ => ⟨segments, keyword, void⟩,
    fun ⟨segments, keyword, void⟩ => ⟨segments, keyword, void⟩⟩

theorem parseBase_eq_ok_iff : parseBase name.toList = .ok t ↔ Named name t := by
  unfold parseBase
  rw [String.ofList_toList]
  constructor
  · intro parsed
    split at parsed
    · cases parsed
    · next nonempty =>
      split at parsed
      · cases parsed
      · next void =>
        split at parsed
        · next p keyword =>
          cases parsed
          rw [← Primitive.keyword_of_ofKeyword? keyword]
          exact .primitive p
        · next keyword =>
          split at parsed
          · next qualified =>
            cases parsed
            refine .class (className_iff.2 ⟨qualified, keyword, ?_⟩)
            rintro rfl
            exact void rfl
          · cases parsed
  · intro named
    cases named with
    | primitive p => cases p <;> rfl
    | «class» named =>
      obtain ⟨qualified, keyword, void⟩ := className_iff.1 named
      have nonempty : name.toList ≠ [] := by
        intro empty
        rw [empty] at qualified
        cases qualified
      -- The tests are made in this order, and a class has to pass all of them.
      have noVoid : name.toList ≠ "void".toList := fun same => void (String.toList_inj.1 same)
      rw [if_neg nonempty, if_neg noVoid, keyword, if_pos qualified]

theorem Named.mem (named : Named name t) (member : c ∈ name.toList) :
    c = '.' ∨ isNamePart c = true := by
  cases named with
  | primitive p =>
    have letters : p.keyword.toList.all isNamePart = true := by
      cases p <;> decide
    exact .inr (List.all_eq_true.1 letters c member)
  | «class» named => exact mem_of_isQualified (className_iff.1 named).1 member

theorem isBlank_of_isNamePart (part : c = '.' ∨ isNamePart c = true) : Text.isBlank c = false := by
  cases blank : Text.isBlank c with
  | false => rfl
  | true =>
    have letter := Text.isAlphanumeric_of_isBlank blank
    rcases part with rfl | part
    · revert blank
      decide
    · simp only [isNamePart, letter, Bool.false_or, Bool.or_eq_true, decide_eq_true_eq] at part
      rcases part with rfl | rfl <;> revert blank <;> decide

theorem Named.isBlank_of_mem (named : Named name t) (member : c ∈ name.toList) :
    Text.isBlank c = false :=
  isBlank_of_isNamePart (named.mem member)

theorem Named.not_bracket_of_mem (named : Named name t) (member : c ∈ name.toList) :
    c ∉ ['<', '>', '[', ']'] := by
  intro bracket
  have none : ['<', '>', '[', ']'].all (fun d => d != '.' && !isNamePart d) = true := by decide
  have neither := List.all_eq_true.1 none c bracket
  rcases named.mem member with rfl | part
  · exact absurd neither (by decide)
  · simp [part] at neither

end Names

section Dimensions

variable {n : Nat} {s base : List Char}

theorem takeDimensions_plain (last : ∀ c ∈ s.head?, c ≠ ']') : takeDimensions s = (s, 0) := by
  rw [takeDimensions]
  rintro rest rfl
  exact last ']' rfl rfl

theorem takeDimensions_group (s : List Char) :
    takeDimensions (']' :: '[' :: s) =
      ((takeDimensions (s.dropWhile Text.isBlank)).1,
        (takeDimensions (s.dropWhile Text.isBlank)).2 + 1) := by
  rw [takeDimensions]

theorem dimensioned_takeDimensions (s : List Char) :
    Dimensioned (takeDimensions s).1.reverse (takeDimensions s).2 s.reverse := by
  induction s using takeDimensions.induct with
  | case1 rest base n taken ih =>
    have cut : rest.reverse =
        (rest.dropWhile Text.isBlank).reverse ++ (rest.takeWhile Text.isBlank).reverse := by
      rw [← List.reverse_append, List.takeWhile_append_dropWhile]
    have blank : ∀ c ∈ (rest.takeWhile Text.isBlank).reverse, Text.isBlank c = true :=
      fun c member => List.all_eq_true.1 List.all_takeWhile c (List.mem_reverse.1 member)
    have grouped := Dimensioned.group ih blank
    rw [takeDimensions_group, List.reverse_cons, List.reverse_cons, cut, List.append_assoc]
    exact grouped
  | case2 s other =>
    rw [takeDimensions]
    · exact .base
    · exact other

theorem Dimensioned.isBlank_of_last (dimensioned : Dimensioned base n s)
    (plain : ∀ c ∈ base, Text.isBlank c = false) {c : Char} (last : c ∈ s.reverse.head?) :
    Text.isBlank c = false := by
  cases dimensioned with
  | base => exact plain c (List.mem_reverse.1 (List.mem_of_mem_head? last))
  | group inner blank =>
    obtain rfl : ']' = c := by simpa using last
    decide

theorem Dimensioned.takeDimensions_eq (dimensioned : Dimensioned base n s)
    (plain : ∀ c ∈ base, Text.isBlank c = false) (noBracket : ']' ∉ base) :
    takeDimensions s.reverse = (base.reverse, n) := by
  induction dimensioned with
  | base =>
    refine takeDimensions_plain fun c last => ?_
    rintro rfl
    exact noBracket (List.mem_reverse.1 (List.mem_of_mem_head? last))
  | @group n s blanks inner blank ih =>
    have reversed : (s ++ blanks ++ ['[', ']']).reverse =
        ']' :: '[' :: (blanks.reverse ++ s.reverse) := by simp
    have blanksFirst : ∀ c ∈ blanks.reverse, Text.isBlank c = true := fun c member =>
      blank c (List.mem_reverse.1 member)
    have rest : s.reverse.dropWhile Text.isBlank = s.reverse :=
      Text.dropWhile_blank_eq_self fun c last => inner.isBlank_of_last plain last
    rw [reversed, takeDimensions_group, List.dropWhile_append_of_pos blanksFirst, rest, ih]

end Dimensions

section Reading

variable {bare : List Char} {t : TypeRef}

def readBare (bare : List Char) : Except ParseError TypeRef :=
  (parseBase (takeDimensions (Text.trim bare).reverse).1.reverse).map
    (arrayOf · (takeDimensions (Text.trim bare).reverse).2)

/-- It does not matter that a spelling is also trimmed before its brackets are looked at. -/
theorem parse_eq (spelling : String) :
    parse spelling =
      match eraseGenerics 0 spelling.toList with
      | none => .error .unbalanced
      | some bare => readBare bare := by
  have same := eraseGenerics_trim spelling.toList
  unfold parse
  cases outer : eraseGenerics 0 spelling.toList with
  | none =>
    rw [outer, Option.map_none, Option.map_eq_none_iff] at same
    rw [same]
  | some bare =>
    rw [outer, Option.map_some, Option.map_eq_some_iff] at same
    obtain ⟨inner, erased, trimmed⟩ := same
    rw [erased]
    dsimp only
    rw [trimmed, readBare]

theorem readBare_eq_ok_iff : readBare bare = .ok t ↔
    ∃ base n element, Dimensioned base.toList n (Text.trim bare) ∧ Named base element ∧
      t = arrayOf element n := by
  unfold readBare
  constructor
  · intro read
    -- Dimensions are taken off the reversed text; what is left need not be a name.
    have dimensioned := dimensioned_takeDimensions (Text.trim bare).reverse
    rw [List.reverse_reverse] at dimensioned
    generalize takeDimensions (Text.trim bare).reverse = taken at read dimensioned
    obtain ⟨reversed, n⟩ := taken
    cases parsed : parseBase reversed.reverse with
    | error e =>
      rw [parsed] at read
      cases read
    | ok element =>
      rw [parsed] at read
      refine ⟨String.ofList reversed.reverse, n, element, ?_, ?_, (Except.ok.inj read).symm⟩
      · rw [String.toList_ofList]
        exact dimensioned
      · rw [← parseBase_eq_ok_iff, String.toList_ofList]
        exact parsed
  · rintro ⟨base, n, element, dimensioned, named, rfl⟩
    have taken := dimensioned.takeDimensions_eq (fun c member => named.isBlank_of_mem member)
      fun member => named.not_bracket_of_mem member (by decide)
    rw [taken, List.reverse_reverse, parseBase_eq_ok_iff.2 named]
    rfl

/-- A spelling whose brackets do not pair up is refused for that reason alone. -/
theorem parse_eq_ok_iff {spelling : String} : parse spelling = .ok t ↔
    ∃ rest, Outside spelling.toList rest ∧ readBare rest = .ok t := by
  rw [parse_eq]
  cases erased : eraseGenerics 0 spelling.toList with
  | none =>
    refine iff_of_false nofun ?_
    rintro ⟨rest, outside, -⟩
    rw [eraseGenerics_eq_some_iff.2 outside] at erased
    cases erased
  | some bare =>
    have outside := eraseGenerics_eq_some_iff.1 erased
    refine ⟨fun read => ⟨bare, outside, read⟩, ?_⟩
    rintro ⟨rest, other, read⟩
    rw [eraseGenerics_eq_some_iff.2 other] at erased
    obtain rfl := Option.some.inj erased
    exact read

/-- A spelling is read exactly if its brackets pair up and outside of them, trimmed, stands a name
with so many dimensions behind it; it then gives the array type of so many dimensions. A group in
brackets changes neither the type nor the reason for which a spelling is refused. -/
theorem parse_grammar :
    (∀ spelling t, parse spelling = .ok t ↔
      Balanced spelling.toList ∧
        ∃ rest base n element, Outside spelling.toList rest ∧
          Dimensioned base.toList n (Text.trim rest) ∧ Named base element ∧
          t = arrayOf element n) ∧
    ∀ before inside after : String, Balanced inside.toList →
      parse (before ++ "<" ++ inside ++ ">" ++ after) = parse (before ++ after) := by
  refine ⟨fun spelling t => ?_, fun before inside after balanced => ?_⟩
  · rw [parse_eq_ok_iff]
    constructor
    · rintro ⟨rest, outside, read⟩
      obtain ⟨base, n, element, described⟩ := readBare_eq_ok_iff.1 read
      exact ⟨outside.balanced, rest, base, n, element, outside, described⟩
    · rintro ⟨-, rest, base, n, element, outside, described⟩
      exact ⟨rest, outside, readBare_eq_ok_iff.2 ⟨base, n, element, described⟩⟩
  · have inserted := eraseGenerics_insert balanced before.toList after.toList 0
    have texts : (before ++ "<" ++ inside ++ ">" ++ after).toList =
        before.toList ++ ('<' :: inside.toList ++ '>' :: after.toList) := by simp
    rw [parse_eq, parse_eq, texts, inserted, String.toList_append]

end Reading

end FluentWrap.TypeRef
