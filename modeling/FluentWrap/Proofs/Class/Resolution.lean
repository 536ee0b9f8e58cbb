import FluentWrap.Class.Model
import FluentWrap.Plan.Planner
import FluentWrap.Proofs.Class.Edits
import FluentWrap.Proofs.Class.Imports
import FluentWrap.TypeRef.Parser

/-!
Which classes source code may name by their last segment. It is known where the class is imported,
and without an import for the top-level classes of three packages. A nested class without a package
is the exception: it is neither known nor imported.
-/

set_option autoImplicit false

namespace FluentWrap

namespace TypeRef

variable {name : String}

/-- Whether the class is enclosed by another: in front of a `$` of its binary name stands the name
of a class that is called something. -/
def Nested (name : String) : Prop :=
  ∃ (outer : String) (inner : List Char),
    name.toList = outer.toList ++ '$' :: inner ∧ simpleClass outer ≠ ""

theorem Nested.exists_last (nested : Nested name) :
    ∃ front last inner, name.toList = front ++ last :: '$' :: inner ∧ last ≠ '.' ∧ last ≠ '$' := by
  obtain ⟨outer, inner, whole, called⟩ := nested
  rcases List.eq_nil_or_concat' outer.toList with none | ⟨front, last, same⟩
  · refine absurd ?_ called
    rw [simpleClass, none]
    rfl
  · rw [simpleClass, same] at called
    have plain : (last = '.' || last = '$') = false := by
      refine Bool.eq_false_iff.2 fun separates => called ?_
      rw [Text.afterLast_concat separates, String.ofList_nil]
    simp only [Bool.or_eq_false_iff, decide_eq_false_iff_not] at plain
    refine ⟨front, last, inner, ?_, plain⟩
    rw [whole, same, List.append_assoc, List.singleton_append]

theorem dot_mem_canonicalClass (nested : Nested name) :
    '.' ∈ (canonicalClass name).toList := by
  obtain ⟨outer, inner, whole, -⟩ := nested
  rw [canonicalClass, String.toList_ofList, whole, List.map_append, List.map_cons]
  simp

theorem packageOfClass_of_plain (plain : '.' ∉ (canonicalClass name).toList) :
    packageOfClass name = "" :=
  packageOfClass_of_undotted fun member => plain (dot_mem_canonicalClass_of_mem member)

theorem length_packageOfClass_le {front rest : List Char} {last : Char}
    (whole : name.toList = front ++ last :: '$' :: rest) :
    (packageOfClass name).toList.length ≤ front.length := by
  rw [packageOfClass]
  split
  · next package simple cut =>
    have outermost : (name.toList.takeWhile fun c => c != '$').length ≤ front.length + 1 := by
      have stopped :=
        @Text.length_takeWhile_le (fun c => c != '$') '$' (front ++ [last]) rest rfl
      rwa [List.append_assoc, List.singleton_append, ← whole, List.length_append] at stopped
    rw [(Text.splitAtLast?_eq_some cut).1, List.length_append] at outermost
    rw [String.toList_ofList]
    simp only [List.length_cons] at outermost
    omega
  · exact Nat.zero_le _

end TypeRef

namespace Referenced

theorem isNested_of_nested {name : String} (nested : TypeRef.Nested name) :
    (ofClass name).isNested = true := by
  obtain ⟨front, last, inner, whole, dot, dollar⟩ := nested.exists_last
  have short := TypeRef.length_packageOfClass_le whole
  unfold isNested ofClass
  dsimp only
  rw [TypeRef.canonicalClass, String.toList_ofList, whole, List.map_append, List.map_cons,
    List.map_cons, if_neg dollar, if_pos rfl, List.drop_append_of_le_length (by simpa using short)]
  exact List.contains_iff_mem.2 (Text.mem_dropWhile (by simp [dot]) List.mem_cons_self)

theorem isImplicit_of_nested {name : String} (nested : TypeRef.Nested name) (package : String) :
    (ofClass name).isImplicit package = true ↔ TypeRef.packageOfClass name = "" := by
  refine isImplicit_iff.trans (or_iff_left fun outermost => ?_)
  rw [isNested_of_nested nested] at outermost
  cases outermost.1

theorem package_of_isImplicit {name package : String}
    (implicit : (ofClass name).isImplicit package = true) :
    TypeRef.packageOfClass name = "" ∨
      ¬ TypeRef.Nested name ∧ TypeRef.packageOfClass name ∈ ["java.lang", package] := by
  refine (isImplicit_iff.1 implicit).imp id fun known => ⟨fun nested => ?_, known.2⟩
  rw [isNested_of_nested nested] at known
  cases known.1

end Referenced

namespace ClassDeclaration

variable {c : ClassDeclaration} {name : String}

theorem mem_importLines {canonicalName : String} :
    "import " ++ canonicalName ++ ";" ∈ c.importLines ↔ canonicalName ∈ c.imports.toList := by
  have line : ∀ other : String, "import " ++ other ++ ";" = "import " ++ canonicalName ++ ";" ↔
      other = canonicalName := by
    intro other
    rw [String.append_left_inj, String.append_right_inj]
  have written : "import " ++ canonicalName ++ ";" ≠ "" := by simp
  unfold importLines
  split
  · next none =>
    rw [List.isEmpty_iff.1 none]
    exact ⟨nofun, nofun⟩
  · simp only [List.mem_append, List.mem_map, line, List.mem_singleton, written, or_false,
      exists_eq_right]

/-- A class is written by a single segment only where nothing contests it, or where it has no
other. -/
theorem single_segment_iff (refers : c.Refers (.class name)) :
    '.' ∉ (c.spell (.class name)).toList ↔
      ¬ c.Contested name ∨ '.' ∉ (TypeRef.canonicalClass name).toList := by
  by_cases contested : c.Contested name
  · rw [spell_of_shared ((two_le_claims_iff refers).2 contested)]
    simp [contested]
  · rw [(Mentions.referred refers).spell_of_alone ((claims_le_one_iff refers).2 contested)]
    simp [contested, Referenced.not_dot_mem_lastSegment]

/-- A class that is written by a single segment is imported, or it is a top-level class of
`java.lang` or of the wrapper's own package, or it has no package at all. Nested classes are among
the latter too, and then they are not imported. -/
theorem known_by_segment (refers : c.Refers (.class name)) :
    ('.' ∉ (c.spell (.class name)).toList →
      "import " ++ TypeRef.canonicalClass name ++ ";" ∈ c.importLines ∨
        TypeRef.packageOfClass name = "" ∨
          ¬ TypeRef.Nested name ∧ TypeRef.packageOfClass name ∈ ["java.lang", c.name.package]) ∧
      (TypeRef.Nested name →
        ('.' ∉ (c.spell (.class name)).toList ∧
          "import " ++ TypeRef.canonicalClass name ++ ";" ∉ c.importLines ↔
            ¬ c.Contested name ∧ TypeRef.packageOfClass name = "")) := by
  rw [mem_importLines, (Mentions.referred refers).mem_imports_iff, claims_le_one_iff refers,
    single_segment_iff refers]
  refine ⟨fun single => ?_, fun nested => ?_⟩
  · by_cases implicit : (Referenced.ofClass name).isImplicit c.name.package = true
    · exact .inr (Referenced.package_of_isImplicit implicit)
    · rcases single with free | plain
      · exact .inl ⟨free, Bool.eq_false_iff.2 implicit⟩
      · exact .inr (.inl (TypeRef.packageOfClass_of_plain plain))
-- Spelled in full a nested class has a dot, so a single segment is its last one.
  · have dotted := TypeRef.dot_mem_canonicalClass nested
    have implicit := Referenced.isImplicit_of_nested nested c.name.package
    rw [← implicit, Bool.eq_false_iff, not_and_or, not_not, not_not]
    constructor
    · rintro ⟨free | plain, contested | known⟩
      · exact absurd contested free
      · exact ⟨free, known⟩
      · exact absurd dotted plain
      · exact absurd dotted plain
    · rintro ⟨free, known⟩
      exact ⟨.inl free, .inr known⟩

end ClassDeclaration

namespace Samples

def packagelessForm : SourceType :=
  { SourceType.ofName "Form" with methods := [.ofTypes "setMode" [.class "Form$Mode"]] }

def packagelessModel : CodeModel :=
  (CodeModel.stampedWith none).editAll [.define (Planner.plan default packagelessForm)]

theorem nested_mode : TypeRef.Nested "Form$Mode" :=
  ⟨"Form", "Mode".toList, by decide, by decide⟩

end Samples

namespace ClassDeclaration

theorem known_by_segment_mode :
    ∃ c ∈ Samples.packagelessModel.classes, c.Refers (.class "Form$Mode") ∧
      ('.' ∉ (c.spell (.class "Form$Mode")).toList →
        "import " ++ TypeRef.canonicalClass "Form$Mode" ++ ";" ∈ c.importLines ∨
          TypeRef.packageOfClass "Form$Mode" = "" ∨
            ¬ TypeRef.Nested "Form$Mode" ∧
              TypeRef.packageOfClass "Form$Mode" ∈ ["java.lang", c.name.package]) ∧
      (TypeRef.Nested "Form$Mode" →
        ('.' ∉ (c.spell (.class "Form$Mode")).toList ∧
          "import " ++ TypeRef.canonicalClass "Form$Mode" ++ ";" ∉ c.importLines ↔
            ¬ c.Contested "Form$Mode" ∧ TypeRef.packageOfClass "Form$Mode" = "")) := by
  have listed : ∃ c ∈ Samples.packagelessModel.classes,
      .class "Form$Mode" ∈ c.referencedTypes := by
    decide +kernel
  obtain ⟨c, member, referenced⟩ := listed
  have refers := mem_referencedTypes.1 referenced
  exact ⟨c, member, refers, known_by_segment refers⟩

/-- A nested class without a package is written by its last segment and not imported. -/
theorem mode_unknown :
    ∃ c ∈ Samples.packagelessModel.classes, c.Refers (.class "Form$Mode") ∧
      TypeRef.parse "Form$Mode" = .ok (.class "Form$Mode") ∧ TypeRef.Nested "Form$Mode" ∧
        '.' ∉ (c.spell (.class "Form$Mode")).toList ∧
          "import " ++ TypeRef.canonicalClass "Form$Mode" ++ ";" ∉ c.importLines := by
  have written : ∃ c ∈ Samples.packagelessModel.classes,
      .class "Form$Mode" ∈ c.referencedTypes ∧
        '.' ∉ (c.spell (.class "Form$Mode")).toList ∧
          "import " ++ TypeRef.canonicalClass "Form$Mode" ++ ";" ∉ c.importLines := by
    decide +kernel
  obtain ⟨c, member, referenced, single, unknown⟩ := written
  exact ⟨c, member, mem_referencedTypes.1 referenced, by decide +kernel, Samples.nested_mode,
    single, unknown⟩

end ClassDeclaration

end FluentWrap
