import FluentWrap.Proofs.TypeRef.Grammar

/-!
Types that can be written down and read again. Types can be built from any text as the name of a
class, but only those that reading can give are read back from their own spelling.
-/

set_option autoImplicit false

namespace FluentWrap.TypeRef

def Readable (t : TypeRef) : Prop :=
  (∃ p, t.base = .primitive p) ∨ ∃ name, t.base = .class name ∧ ClassName name

variable {n : Nat} {name : String} {t element : TypeRef}

theorem Named.spelling_eq (named : Named name t) : t.spelling = name := by
  cases named <;> rfl

theorem Named.base_eq (named : Named name t) : t.base = t := by
  cases named <;> rfl

theorem readable_iff_named : t.Readable ↔ ∃ name, Named name t.base := by
  unfold Readable
  constructor
  · rintro (⟨p, same⟩ | ⟨name, same, named⟩)
    · exact ⟨p.keyword, by rw [same]; exact .primitive p⟩
    · exact ⟨name, by rw [same]; exact .class named⟩
  · rintro ⟨name, named⟩
    generalize t.base = base at named ⊢
    cases named with
    | primitive p => exact .inl ⟨p, rfl⟩
    | «class» named => exact .inr ⟨name, rfl, named⟩

theorem exists_arrayOf_base (t : TypeRef) : ∃ n, arrayOf t.base n = t := by
  induction t with
  | primitive | «class» => exact ⟨0, rfl⟩
  | array element ih =>
    obtain ⟨n, same⟩ := ih
    exact ⟨n + 1, congrArg array same⟩

section Written

theorem dimensioned_spelling (element : TypeRef) (n : Nat) :
    Dimensioned element.spelling.toList n (arrayOf element n).spelling.toList := by
  induction n with
  | zero => exact .base
  | succ n ih =>
    have group := @Dimensioned.group _ _ _ [] ih nofun
    rw [List.append_nil] at group
    rw [arrayOf, spelling, String.toList_append]
    exact group

theorem mem_spelling_arrayOf {c : Char} (member : c ∈ (arrayOf element n).spelling.toList) :
    c ∈ element.spelling.toList ∨ c = '[' ∨ c = ']' := by
  induction n with
  | zero => exact .inl member
  | succ n ih =>
    rw [arrayOf, spelling, String.toList_append] at member
    rcases List.mem_append.1 member with inside | bracket
    · exact ih inside
    · exact .inr (by simpa using bracket)

theorem outside_self {s : List Char} (plain : ∀ c ∈ s, c ≠ '<' ∧ c ≠ '>') : Outside s s := by
  induction s with
  | nil => exact .nil
  | cons c rest ih =>
    obtain ⟨opening, closing⟩ := plain c List.mem_cons_self
    exact .keep opening closing (ih fun d member => plain d (List.mem_cons_of_mem _ member))

end Written

theorem parse_spelling_arrayOf (named : Named name element) (n : Nat) :
    parse (arrayOf element n).spelling = .ok (arrayOf element n) := by
  have chars : ∀ c ∈ (arrayOf element n).spelling.toList,
      Text.isBlank c = false ∧ c ≠ '<' ∧ c ≠ '>' := by
    intro c member
    rcases mem_spelling_arrayOf member with inside | rfl | rfl
    · rw [named.spelling_eq] at inside
      have bracket := named.not_bracket_of_mem inside
      simp only [List.mem_cons, not_or] at bracket
      exact ⟨named.isBlank_of_mem inside, bracket.1, bracket.2.1⟩
    · decide
    · decide
  have dimensioned := dimensioned_spelling element n
  rw [named.spelling_eq, ← Text.trim_of_no_blank fun c member => (chars c member).1] at dimensioned
  refine parse_eq_ok_iff.2 ⟨_, outside_self fun c member => (chars c member).2, ?_⟩
  exact readBare_eq_ok_iff.2 ⟨name, n, element, dimensioned, named, rfl⟩

theorem parse_spelling_of_readable (readable : t.Readable) : parse t.spelling = .ok t := by
  obtain ⟨name, named⟩ := readable_iff_named.1 readable
  obtain ⟨n, same⟩ := exists_arrayOf_base t
  have parsed := parse_spelling_arrayOf named n
  rwa [same] at parsed

theorem readable_of_parse {spelling : String} (parsed : parse spelling = .ok t) : t.Readable := by
  obtain ⟨rest, -, read⟩ := parse_eq_ok_iff.1 parsed
  obtain ⟨base, n, element, -, named, rfl⟩ := readBare_eq_ok_iff.1 read
  refine readable_iff_named.2 ⟨base, ?_⟩
  rwa [base_arrayOf, named.base_eq]

theorem wellNamed_of_parse {spelling : String} (parsed : parse spelling = .ok t) : t.WellNamed := by
  intro name same
  rcases readable_of_parse parsed with ⟨p, primitive⟩ | ⟨other, «class», named⟩
  · rw [primitive] at same
    cases same
  · obtain rfl := TypeRef.class.inj («class».symm.trans same)
    obtain ⟨qualified, keyword, -⟩ := className_iff.1 named
    exact ⟨qualified, keyword⟩

theorem exists_parse_iff : (∃ spelling, parse spelling = .ok t) ↔ t.Readable :=
  ⟨fun ⟨_, parsed⟩ => readable_of_parse parsed,
    fun readable => ⟨t.spelling, parse_spelling_of_readable readable⟩⟩

/-- A type is read back from its own spelling exactly if it is, arrays aside, a primitive or a class
under a name that can be read, and reading gives no other types. -/
theorem parse_spelling_iff (t : TypeRef) :
    (parse t.spelling = .ok t ↔ t.Readable) ∧
      ((∃ spelling, parse spelling = .ok t) ↔ t.Readable) :=
  ⟨⟨readable_of_parse, parse_spelling_of_readable⟩, exists_parse_iff⟩

end FluentWrap.TypeRef
