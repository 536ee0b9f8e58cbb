import FluentWrap.Metadata.Manifest
import FluentWrap.Plan.Planner
import FluentWrap.Proofs.TypeRef.BinaryNames
import FluentWrap.Proofs.TypeRef.Spelling
import Mathlib.Data.List.Forall2

/-!
The names of classes in manifests. An entry is accepted if its name can be read as a class, but what
is kept is the name as it was written, generic arguments and blanks included. It is the name that
was read exactly if it holds neither blanks nor angle brackets.
-/

set_option autoImplicit false

namespace FluentWrap

def Text.Plain (text : String) : Prop :=
  ∀ c ∈ text.toList, isBlank c = false ∧ c ≠ '<' ∧ c ≠ '>'

namespace TypeRef

open Text

variable {spelling name : String}

section Reading

theorem ClassName.plain (named : ClassName name) : Plain name := by
  intro c member
  have named : Named name (.class name) := .class named
  have bracket := named.not_bracket_of_mem member
  simp only [List.mem_cons, not_or] at bracket
  exact ⟨named.isBlank_of_mem member, bracket.1, bracket.2.1⟩

theorem exists_of_parse_class (parsed : parse spelling = .ok (.class name)) :
    ClassName name ∧ ∃ rest, Outside spelling.toList rest ∧ trim rest = name.toList := by
  obtain ⟨rest, outside, read⟩ := parse_eq_ok_iff.1 parsed
  obtain ⟨base, n, element, dimensioned, named, same⟩ := readBare_eq_ok_iff.1 read
  -- An array is no class, so there are no dimensions.
  cases n with
  | succ n => cases same
  | zero =>
    obtain rfl : .class name = element := same
    have trimmed : trim rest = base.toList := by
      generalize trim rest = bare at dimensioned
      cases dimensioned
      rfl
    cases named with
    | «class» named => exact ⟨named, rest, outside, trimmed⟩

theorem Outside.eq_of_plain {s rest : List Char} (outside : Outside s rest)
    (plain : ∀ c ∈ s, c ≠ '<' ∧ c ≠ '>') : rest = s := by
  have erased := eraseGenerics_eq_some_iff.2 outside
  rw [eraseGenerics_eq_some_iff.2 (outside_self plain)] at erased
  exact (Option.some.inj erased).symm

theorem eq_of_parse_plain (parsed : parse spelling = .ok (.class name)) (plain : Plain spelling) :
    name = spelling := by
  obtain ⟨-, rest, outside, trimmed⟩ := exists_of_parse_class parsed
  obtain rfl := outside.eq_of_plain fun c member => (plain c member).2
  rw [trim_of_no_blank fun c member => (plain c member).1] at trimmed
  exact (String.toList_inj.1 trimmed).symm

/-- A spelling that is read as a class is the name of that class exactly if it is plain. -/
theorem parse_self_iff (parsed : parse spelling = .ok (.class name)) :
    parse spelling = .ok (.class spelling) ↔ Plain spelling := by
  constructor
  · intro fixed
    exact (exists_of_parse_class fixed).1.plain
  · intro plain
    have same := eq_of_parse_plain parsed plain
    rwa [same] at parsed

end Reading

section Derived

theorem plain_packageOfClass (plain : Plain name) : Plain (packageOfClass name) := by
  intro c member
  exact plain c ((List.takeWhile_prefix _).subset (mem_of_mem_packageOfClass member))

theorem plain_simpleClass (plain : Plain name) : Plain (simpleClass name) := by
  intro c member
  rw [simpleClass, String.toList_ofList] at member
  exact plain c ((afterLast_suffix _ _).subset member)

theorem plain_canonicalClass (plain : Plain name) : Plain (canonicalClass name) := by
  intro c member
  rw [canonicalClass, String.toList_ofList] at member
  obtain ⟨d, inside, rfl⟩ := List.mem_map.1 member
  split
  · decide
  · exact plain d inside

end Derived

end TypeRef

namespace Manifest

open Text TypeRef

structure Spelled (spelling : String) (source : SourceType) : Prop where
  qualifiedName : source.qualifiedName = spelling
  simpleName : source.simpleName = simpleClass spelling
  delegateType : ∀ planner : Planner, (planner.plan source).delegateType = .class spelling
  /-- The spelling was read as a class, whose name stands in it outside of brackets. -/
  validated : ∃ name rest, parse spelling = .ok (.class name) ∧ ClassName name ∧
    Outside spelling.toList rest ∧ trim rest = name.toList
  /-- Only of a plain spelling the name that was read is also the one that is kept. -/
  stable : parse source.qualifiedName = .ok source.typeRef ↔ Plain spelling
  derived : Plain spelling →
    parse source.typeRef.spelling = .ok source.typeRef ∧ Plain source.package ∧
      Plain source.simpleName ∧ Plain source.typeRef.canonicalName

variable {entry : TypeEntry} {source : SourceType}

theorem isClassName_iff {name : String} :
    isClassName name = true ↔ ∃ «class», parse name = .ok (.class «class») := by
  unfold isClassName
  split
  · next «class» parsed => simp [parsed]
  · next other =>
    refine iff_of_false nofun ?_
    rintro ⟨«class», parsed⟩
    exact other «class» parsed

theorem toSourceType_ok (accepted : entry.toSourceType = .ok source) :
    isClassName entry.name = true ∧ ∃ constructors methods,
      source = { SourceType.ofName entry.name with constructors, methods } := by
  unfold TypeEntry.toSourceType at accepted
  split at accepted
  · next named =>
    cases constructors : entry.constructors.mapM (ConstructorEntry.toConstructor entry.name) with
    | error problem => simp [constructors, bind, Except.bind] at accepted
    | ok made =>
      cases methods : entry.methods.mapM (MethodEntry.toMethod entry.name) with
      | error problem => simp [constructors, methods, bind, Except.bind] at accepted
      | ok given =>
        simp only [constructors, methods, bind, Except.bind, Except.ok.injEq] at accepted
        exact ⟨named, made, given, accepted.symm⟩
  · cases accepted

theorem spelled_of_toSourceType (accepted : entry.toSourceType = .ok source) :
    Spelled entry.name source := by
  obtain ⟨named, constructors, methods, rfl⟩ := toSourceType_ok accepted
  obtain ⟨«class», parsed⟩ := isClassName_iff.1 named
  obtain ⟨className, rest, outside, trimmed⟩ := exists_of_parse_class parsed
  refine ⟨rfl, rfl, fun _ => rfl, ⟨«class», rest, parsed, className, outside, trimmed⟩,
    parse_self_iff parsed, fun plain => ?_⟩
  exact ⟨(parse_self_iff parsed).2 plain, plain_packageOfClass plain, plain_simpleClass plain,
    plain_canonicalClass plain⟩

theorem forall₂_of_mapM {ε α β : Type} {f : α → Except ε β} {entries : List α} {results : List β}
    (mapped : entries.mapM f = .ok results) :
    List.Forall₂ (fun entry result => f entry = .ok result) entries results := by
  induction entries generalizing results with
  | nil =>
    cases mapped
    exact .nil
  | cons entry rest ih =>
    rw [List.mapM_cons] at mapped
    cases first : f entry with
    | error e => simp [first, bind, Except.bind] at mapped
    | ok result =>
      cases others : rest.mapM f with
      | error e => simp [first, others, bind, Except.bind] at mapped
      | ok tail =>
        simp only [first, others, bind, Except.bind, pure, Except.pure, Except.ok.injEq] at mapped
        obtain rfl := mapped
        exact .cons first (ih others)

/-- A source type keeps the name of its entry as it was written. The name was read as a class, but
what is kept is read as itself exactly if it holds neither blanks nor angle brackets; only then are
the package, the simple name and the imported name sure to be free of them. -/
theorem read_spelled (format : Format) (path : Option String) (text : String) (entry : TypeEntry) :
    (∀ source, entry.toSourceType = .ok source → Spelled entry.name source) ∧
    ∀ sources, read format path text = .ok sources →
      ∃ entries, readEntries? format text = some entries ∧
        List.Forall₂ (fun entry source => Spelled entry.name source) entries sources := by
  refine ⟨fun source accepted => spelled_of_toSourceType accepted, fun sources accepted => ?_⟩
  unfold read at accepted
  split at accepted
  · cases accepted
  · next entries found =>
    cases converted : entries.mapM TypeEntry.toSourceType with
    | error problem =>
      rw [converted] at accepted
      cases accepted
    | ok given =>
      rw [converted] at accepted
      obtain rfl : given = sources := Except.ok.inj accepted
      exact ⟨entries, found, (forall₂_of_mapM converted).imp fun _ _ =>
        spelled_of_toSourceType⟩

theorem spelled_point :
    let text := "\x7b\"types\":[\x7b\"name\":\"a.Point\"\x7d]\x7d"
    ∃ source, TypeEntry.toSourceType ⟨"a.Point", [], []⟩ = .ok source ∧
      parse source.qualifiedName = .ok source.typeRef ∧
      read .json none text = .ok [source] ∧
      ∃ entry, readEntries? .json text = some [entry] ∧ Spelled entry.name source := by
  intro text
  have accepted : TypeEntry.toSourceType ⟨"a.Point", [], []⟩ =
      .ok (SourceType.ofName "a.Point") := by decide +kernel
  have whole : read .json none text = .ok [SourceType.ofName "a.Point"] := by decide +kernel
  obtain ⟨one, all⟩ := read_spelled .json none text ⟨"a.Point", [], []⟩
  have plain : Plain "a.Point" := by
    have all : "a.Point".toList.all (fun c => isBlank c = false ∧ c ≠ '<' ∧ c ≠ '>') = true := by
      decide +kernel
    simpa only [Plain, List.all_eq_true, decide_eq_true_eq] using all
  obtain ⟨entries, found, spelled⟩ := all _ whole
  obtain ⟨entry, rest, first, others, rfl⟩ := List.forall₂_cons_right_iff.1 spelled
  obtain rfl := List.forall₂_nil_right_iff.1 others
  exact ⟨_, accepted, (one _ accepted).stable.2 plain, whole, entry, found, first⟩

def boxed : String :=
  "\x7b\"types\":[\x7b\"name\":\"a.Box<java.lang.String>\"\x7d]\x7d"

/-- The name is read as `a.Box`, and it is kept with its type argument. -/
theorem boxed_not_stable :
    ∃ source, read .json none boxed = .ok [source] ∧
      parse source.qualifiedName = .ok (.class "a.Box") ∧
      parse source.qualifiedName ≠ .ok (.class source.qualifiedName) ∧
      source.package = "a.Box<java.lang" ∧ source.simpleName = "String>" ∧
      source.typeRef.canonicalName = "a.Box<java.lang.String>" := by
  refine ⟨SourceType.ofName "a.Box<java.lang.String>", ?_⟩
  decide +kernel

end Manifest

end FluentWrap
