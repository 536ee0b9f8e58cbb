import FluentWrap.Proofs.Class.Building
import FluentWrap.Proofs.Class.Layout
import FluentWrap.Proofs.Plan.Declarability
import FluentWrap.Proofs.Source.Encoding
import FluentWrap.Samples

/-!
Source files are well nested. Every depth in a written class is what the layout says, no brace is
closed that was not opened, and a reader who looks at the lines alone, without knowing what they
were written for, finds the members by their depth.
-/

set_option autoImplicit false

namespace FluentWrap

namespace ClassDeclaration

open Text

section Reading

def bare (line : List Char) : List Char :=
  line.dropWhile (· = ' ')

def isJavadoc (line : List Char) : Bool :=
  "/**".toList.isPrefixOf (bare line) || "*".toList.isPrefixOf (bare line)

def isCode (line : List Char) : Bool :=
  !((bare line).isEmpty || isJavadoc line || bare line = ['\x7d'])

def outline (scanned : List (Int × List Char)) : List (List Char) :=
  (scanned.filter fun line => line.1 = 1 && isCode line.2).map Prod.snd

theorem isCode_of_bare {line rest : List Char} {d : Char} (begins : bare line = d :: rest)
    (letter : d ∉ ['/', '*', '\x7d']) : isCode line = true := by
  simp only [List.mem_cons, List.not_mem_nil, or_false, not_or] at letter
  obtain ⟨slash, star, brace⟩ := letter
  simp [isCode, isJavadoc, begins, List.isPrefixOf, brace, Ne.symm slash, Ne.symm star]

end Reading

/-- Whether braces nest in the source file of a class as the layout says, and the lines at depth one
are, javadoc aside, the first lines of the members. -/
structure WellNested (c : ClassDeclaration) : Prop where
  lines : depths 0 (Text.lines c.source.toList) =
    c.layout.map fun line => ((line.1 : Int), line.2.toList)
  nonneg : ∀ front, front <+: c.source.toList → 0 ≤ braceDepth front
  closed : braceDepth c.source.toList = 0
  /-- Behind the line that opens the class, no line begins at depth zero. -/
  outside : ∃ inside, c.layout = (c.preamble ++ [c.classLine]).map (0, ·) ++ inside ∧
    ∀ line ∈ inside, 1 ≤ line.1
  headers : outline (depths 0 (Text.lines c.source.toList)) =
    c.members.map fun m => (c.memberLine m).toList

variable {c : ClassDeclaration} {m : Member}

section Outline

def codeLines (noted : List (Nat × String)) : List String :=
  (noted.filter fun line => line.1 = 1 && isCode line.2.toList).map Prod.snd

theorem outline_noted (noted : List (Nat × String)) :
    outline (noted.map fun line => ((line.1 : Int), line.2.toList)) =
      (codeLines noted).map String.toList := by
  unfold outline codeLines
  rw [List.filter_map, List.map_map, List.map_map]
  have same : (fun line : Int × List Char => decide (line.1 = 1) && isCode line.2) ∘
      (fun line : Nat × String => ((line.1 : Int), line.2.toList)) =
        fun line => line.1 = 1 && isCode line.2.toList := by
    funext line
    have cast : ((line.1 : Int) = 1) ↔ line.1 = 1 := by omega
    simp only [Function.comp_apply, cast]
  rw [same]
  rfl

theorem codeLines_append (first second : List (Nat × String)) :
    codeLines (first ++ second) = codeLines first ++ codeLines second := by
  simp only [codeLines, List.filter_append, List.map_append]

theorem codeLines_of_none {noted : List (Nat × String)}
    (none : ∀ line ∈ noted, line.1 = 1 → isCode line.2.toList = false) : codeLines noted = [] := by
  rw [codeLines, List.map_eq_nil_iff, List.filter_eq_nil_iff]
  intro line member
  simpa using none line member

theorem bare_indent (level : Nat) (text : String) :
    bare (indent level text).toList = bare text.toList := by
  unfold bare
  rw [indent, String.toList_append, String.toList_ofList]
  exact List.dropWhile_append_of_pos fun d member => by simp [List.eq_of_mem_replicate member]

theorem modifiersCode_begins {modifiers : List Modifier} (modified : modifiers ≠ []) :
    ∃ d rest, (modifiersCode modifiers).toList = d :: rest ∧ d ∈ ['p', 's', 'f'] := by
  obtain ⟨first, others, rfl⟩ := List.exists_cons_of_ne_nil modified
  have begins : ∃ d rest, first.keyword.toList = d :: rest ∧ d ∈ ['p', 's', 'f'] := by
    cases first <;> exact ⟨_, _, rfl, by decide⟩
  obtain ⟨d, rest, keyword, letter⟩ := begins
  obtain ⟨tail, whole⟩ : ∃ tail, modifiersCode (first :: others) = first.keyword ++ tail := by
    unfold modifiersCode
    rw [List.map_cons]
    by_cases last : others.map Modifier.keyword = []
    · exact ⟨"", by simp [last]⟩
    · rw [String.intercalate_cons_of_ne_nil last, String.append_assoc]
      exact ⟨_, rfl⟩
  refine ⟨d, rest ++ tail.toList, ?_, letter⟩
  rw [whole, String.toList_append, keyword, List.cons_append]

theorem memberLine_begins (c : ClassDeclaration) (m : Member) :
    ∃ rest, c.memberLine m = indent 1 (modifiersCode m.modifiers ++ rest) := by
  unfold memberLine fieldLine headerLine
  split
  · simp only [String.append_assoc]
    exact ⟨_, rfl⟩
  · simp only [String.append_assoc]
    exact ⟨_, rfl⟩

theorem isCode_memberLine (modified : m.modifiers ≠ []) :
    isCode (c.memberLine m).toList = true := by
  obtain ⟨rest, whole⟩ := c.memberLine_begins m
  obtain ⟨d, others, begins, letter⟩ := modifiersCode_begins modified
  have apart : d ≠ ' ' ∧ d ∉ ['/', '*', '\x7d'] := by
    simp only [List.mem_cons, List.not_mem_nil, or_false] at letter
    rcases letter with rfl | rfl | rfl <;> decide
  have bared : bare (c.memberLine m).toList = d :: (others ++ rest.toList) := by
    rw [whole, bare_indent, String.toList_append, begins, bare]
    simp [apart.1]
  exact isCode_of_bare bared apart.2

theorem isCode_javadocLines (text : String) :
    ∀ line ∈ javadocLines text, isCode line.toList = false := by
  intro line member
  simp only [javadocLines, List.mem_append, List.mem_map, List.mem_singleton] at member
  rcases member with (rfl | ⟨shown, -, rfl⟩) | rfl
  · decide
  · have bared : bare (indent 1 (" * " ++ String.ofList shown)).toList = '*' :: ' ' :: shown := by
      have letters : (String.ofList shown).toList = shown := String.toList_ofList
      rw [bare_indent, String.toList_append, letters]
      rfl
    simp [isCode, isJavadoc, bared, List.isPrefixOf]
  · decide

theorem two_le_bodyLayout : ∀ line ∈ c.bodyLayout m, 2 ≤ line.1 := by
  unfold bodyLayout
  split
  · nofun
  · simp only [List.forall_mem_append, List.forall_mem_flatMap, List.forall_mem_singleton]
    refine ⟨fun s _ line member => ?_, le_rfl⟩
    have noted : line.1 ∈ s.depths := (List.of_mem_zip member).1
    cases s <;> simp [Statement.depths] at noted <;> omega

/-- Of the lines of a member only the first is code at depth one. -/
theorem codeLines_memberLayout (modified : m.modifiers ≠ []) :
    codeLines ((1, "") :: c.memberLayout m) = [c.memberLine m] := by
  -- The gap and the javadoc stand at depth one but are no code; the body stands deeper.
  have javadoc : codeLines (((m.javadoc.map javadocLines).getD []).map (1, ·)) = [] := by
    refine codeLines_of_none fun line member _ => ?_
    obtain ⟨text, listed, rfl⟩ := List.mem_map.1 member
    cases written : m.javadoc with
    | none => simp [written] at listed
    | some comment =>
      rw [written] at listed
      exact isCode_javadocLines comment text listed
  have body : codeLines (c.bodyLayout m) = [] := by
    refine codeLines_of_none fun line member one => ?_
    have deeper := two_le_bodyLayout line member
    omega
  have gap : codeLines [(1, "")] = [] := by decide
  have first : codeLines [(1, c.memberLine m)] = [c.memberLine m] := by
    simp [codeLines, isCode_memberLine modified]
  rw [memberLayout, ← List.singleton_append, codeLines_append, gap, codeLines_append, javadoc,
    ← List.singleton_append, codeLines_append, first, body]
  rfl

theorem codeLines_layout (modified : ∀ m ∈ c.members, m.modifiers ≠ []) :
    codeLines c.layout = c.members.map c.memberLine := by
  have front : codeLines ((c.preamble ++ [c.classLine]).map (0, ·)) = [] := by
    refine codeLines_of_none fun line member one => ?_
    obtain ⟨text, -, rfl⟩ := List.mem_map.1 member
    cases one
  have last : codeLines [(1, "\x7d")] = [] := by decide
  have members : ∀ members : List Member, (∀ m ∈ members, m.modifiers ≠ []) →
      codeLines (members.flatMap fun m => (1, "") :: c.memberLayout m) =
        members.map c.memberLine := by
    intro members each
    induction members with
    | nil => rfl
    | cons m rest ih =>
      obtain ⟨first, others⟩ := List.forall_mem_cons.1 each
      rw [List.flatMap_cons, codeLines_append, codeLines_memberLayout first, ih others]
      rfl
  rw [layout, codeLines_append, codeLines_append, front, members c.members modified, last,
    List.nil_append, List.append_nil]

end Outline

theorem Printable.wellNested (printable : c.Printable) : c.WellNested := by
  have steps := printable.steps_layout
  -- Everything is read off the layout once the scan of the text is known to give it back.
  have scanned : depths 0 (Text.lines c.source.toList) =
      c.layout.map fun line => ((line.1 : Int), line.2.toList) := by
    rw [← c.joined_layout, steps.lines_joined]
    exact steps.depths_eq
  refine ⟨scanned, fun front part => ?_, ?_, ⟨_, List.append_assoc _ _ _, ?_⟩, ?_⟩
  · rw [← c.joined_layout] at part
    simpa using steps.depth_nonneg part
  · rw [← c.joined_layout]
    simpa using steps.braceDepth_joined
  · simp only [List.forall_mem_append, List.forall_mem_flatMap, List.forall_mem_cons]
    refine ⟨fun m _ => ⟨le_rfl, fun line member => ?_⟩, le_rfl, nofun⟩
    rcases List.mem_append.1 member with javadoc | rest
    · obtain ⟨text, -, rfl⟩ := List.mem_map.1 javadoc
      exact le_rfl
    · rcases List.mem_cons.1 rest with rfl | body
      · exact le_rfl
      · exact le_trans (by decide) (two_le_bodyLayout line body)
  · rw [scanned, outline_noted,
      codeLines_layout fun m member => (printable.members m member).modified, List.map_map]
    rfl

end ClassDeclaration

section Planned

open Text

theorem Text.tidy_of_isIdentifier {name : String} (named : Naming.isIdentifier name = true) :
    Tidy name := by
  intro d member brace
  revert member
  simp only [List.mem_cons, List.not_mem_nil, or_false] at brace
  rcases brace with rfl | rfl | rfl | rfl <;>
    exact QualifiedName.not_mem_of_isIdentifier named (by decide) (by decide)

theorem Text.tidy_of_isQualified {name : String}
    (qualified : TypeRef.isQualified name.toList = true) : Tidy name := by
  intro d member brace
  rcases TypeRef.mem_of_isQualified qualified member with rfl | part
  · revert brace
    decide
  · simp only [List.mem_cons, List.not_mem_nil, or_false] at brace
    rcases brace with rfl | rfl | rfl | rfl <;> exact absurd part (by decide)

theorem Text.tidy_of_isPackage {package : String} (packaged : Naming.isPackage package = true) :
    Tidy package :=
  tidy_of_isQualified (Naming.isQualified_of_isPackage packaged)

theorem TypeRef.WellNamed.tidy {t : TypeRef} (named : t.WellNamed) {name : String}
    (same : t.base = .class name) : Tidy name :=
  tidy_of_isQualified (named name same).1

namespace Planner

variable {planner : Planner} {source : SourceType} {w : Member}

theorem types_of_produces (produces : planner.Produces source w) :
    ∀ t ∈ ClassDeclaration.typesOfMember w, t ∈ source.typeRef :: source.types := by
  have taken : ∀ {m : Method} {mark : String} {type : TypeRef}, m ∈ source.methods →
      m.Takes mark type → type ∈ source.typeRef :: source.types := by
    intro m mark type member takes
    have listed : type ∈ m.parameters.map Parameter.type := by
      rw [takes.single]
      exact List.mem_singleton_self type
    exact List.mem_cons_of_mem _ (List.mem_append_right _ (List.mem_flatMap.2 ⟨m, member, listed⟩))
  cases produces with
  | field | getter | booleanDefault => nofun
  | hiddenConstructor =>
    intro t member
    obtain rfl := List.mem_singleton.1 member
    exact List.mem_cons_self
  | factory member =>
    intro t named
    rw [ClassDeclaration.mem_typesOfMember] at named
    rcases named with ⟨p, parameter, rfl⟩ | ⟨method, variableName, argument, looped⟩
    · have listed := List.mem_map_of_mem (f := FormalParameter.type) parameter
      rw [map_type_factoryOf] at listed
      exact List.mem_cons_of_mem _ (List.mem_append_left _ (List.mem_flatMap.2 ⟨_, member, listed⟩))
    · cases List.mem_singleton.1 looped
  | setter member _ takes =>
    intro t named
    obtain rfl := List.mem_singleton.1 named
    exact taken member takes
  | adder member _ takes =>
    -- The type of the parameter is that of the loop's variable as well.
    intro t named
    obtain rfl | rfl := List.mem_pair.1 named <;> exact taken member takes

theorem printable_of_produces (produces : planner.Produces source w) (usable : w.Usable) :
    w.Printable := by
  have sound := usable.soundlyNamed_iff.2 (closed_of_produces produces).bound
  refine ⟨?_, ?_, fun name member => tidy_of_isIdentifier (sound.parameters name member),
    fun s stands name member => tidy_of_isIdentifier (sound.body s stands name member), ?_⟩
  · cases produces <;> nofun
  · cases produces with
    -- The constructor has no name of its own, and none that was looked at.
    | hiddenConstructor => exact (by decide : Tidy "")
    | _ => exact tidy_of_isIdentifier (usable.name rfl)
  · intro text written
    cases produces with
    | field | getter | hiddenConstructor =>
      obtain rfl := Option.some.inj written
      decide
    | factory | setter | adder => cases written
    | booleanDefault =>
      obtain rfl := Option.some.inj written
      have wrapper := tidy_of_isIdentifier (usable.name rfl)
      rw [Template.name_booleanDefault] at wrapper
      simp +decide only [tidy_append, wrapper, and_self]

variable {model : CodeModel} {c : ClassDeclaration}

theorem printable_of_stage (unstamped : model.stamp = none)
    (read : ∀ t ∈ source.typeRef :: source.types, ∃ spelling, TypeRef.parse spelling = .ok t)
    (staged : model.stage (planner.plan source) = .ok c) : c.Printable := by
  obtain ⟨members, stamp, -⟩ := CodeModel.stage_ok staged
  obtain ⟨name, delegateType, fieldName, -⟩ := CodeModel.realizes_of_stage staged
  obtain ⟨-, declarable⟩ := CodeModel.stage_isOk_iff.1 ⟨c, staged⟩
  refine ⟨?_, ?_, ?_, fun referred refers => ?_, ?_, fun m member => ?_⟩
  · rw [name]
    rcases declarable.openable.package with absent | packaged
    · rw [absent]
      decide
    · exact tidy_of_isPackage packaged
  · rw [name]
    exact tidy_of_isIdentifier declarable.openable.simpleName
  · rw [fieldName]
    exact tidy_of_isIdentifier declarable.openable.fieldName
  · rw [← ClassDeclaration.mem_referencedTypes, ClassDeclaration.referencedTypes,
      List.mem_eraseDups, List.mem_map] at refers
    obtain ⟨t, named, same⟩ := refers
    -- The class is named by the delegate or by a member, and so by the source.
    have listed : t ∈ source.typeRef :: source.types := by
      rcases List.mem_cons.1 named with rfl | inMembers
      · rw [delegateType]
        exact List.mem_cons_self
      · obtain ⟨m, member, stands⟩ := List.mem_flatMap.1 inMembers
        rw [members] at member
        exact types_of_produces (mem_members_plan.1 member) t stands
    obtain ⟨spelling, parsed⟩ := read t listed
    exact (TypeRef.wellNamed_of_parse parsed).tidy same
  · rw [stamp, unstamped]
    nofun
  · rw [members] at member
    exact printable_of_produces (mem_members_plan.1 member) (declarable.usable m member)

/-- The source file of a planned class is well nested, if the types of its source were read. -/
theorem wellNested_of_stage (planner : Planner) (source : SourceType) (model : CodeModel)
    (c : ClassDeclaration) (unstamped : model.stamp = none)
    (read : ∀ t ∈ source.typeRef :: source.types, ∃ spelling, TypeRef.parse spelling = .ok t)
    (staged : model.stage (planner.plan source) = .ok c) : c.WellNested :=
  (printable_of_stage unstamped read staged).wellNested

theorem wellNested_point :
    (∀ t ∈ Samples.point.typeRef :: Samples.point.types,
      ∃ spelling, TypeRef.parse spelling = .ok t) ∧
    ∃ c, (CodeModel.stampedWith none).stage (Planner.plan default Samples.point) = .ok c ∧
      c.WellNested := by
  have parsed : ∀ t ∈ Samples.point.typeRef :: Samples.point.types,
      TypeRef.parse t.spelling = .ok t := by decide +kernel
  have read : ∀ t ∈ Samples.point.typeRef :: Samples.point.types,
      ∃ spelling, TypeRef.parse spelling = .ok t := fun t member => ⟨_, parsed t member⟩
  have stages : ((CodeModel.stampedWith none).stage
      (Planner.plan default Samples.point)).isOk = true := by decide +kernel
  obtain ⟨c, staged⟩ := exists_ok stages
  exact ⟨read, c, staged, wellNested_of_stage default Samples.point _ c rfl read staged⟩

end Planner

end Planned

end FluentWrap
