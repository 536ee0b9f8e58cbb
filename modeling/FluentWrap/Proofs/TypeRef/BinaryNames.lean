import FluentWrap.Proofs.Naming.QualifiedNames
import FluentWrap.Proofs.TypeRef.Spelling
import FluentWrap.Source.Basic

/-!
How binary names of classes come apart. Behind the last `.` stand the names of the classes that enclose
each other, with a `$` between any two. The simple name is always the last of them; the package and the
canonical name agree with that exactly if no `$` stands before the last `.`.
-/

set_option autoImplicit false

namespace FluentWrap.TypeRef

/-- The classes that a binary name names behind its last `.`, from the outermost to the class itself. -/
def nesting (name : String) : List String :=
  (Text.splitOn '$' (QualifiedName.ofDotted name).simpleName.toList).map String.ofList

/-- Whether package, simple name and canonical name are what the last `.` and the `$`s behind it
make of a binary name, and no class goes without a name. -/
structure Decomposes (name : String) : Prop where
  sourcePackage : (SourceType.ofName name).package = (QualifiedName.ofDotted name).package
  package : (TypeRef.class name).package? = some (QualifiedName.ofDotted name).package
  named : ∀ outer ∈ nesting name, outer ≠ ""
  simpleName : (nesting name).getLast? = some (TypeRef.class name).simpleName
  canonicalName : (TypeRef.class name).canonicalName =
    QualifiedName.display ⟨(QualifiedName.ofDotted name).package, ".".intercalate (nesting name)⟩

variable {name package simple : String}

theorem ClassName.plain_or_dotted (named : ClassName name) :
    '.' ∉ name.toList ∨ ∃ package simple : String,
      package ≠ "" ∧ '.' ∉ simple.toList ∧ name = package ++ "." ++ simple := by
  rcases QualifiedName.plain_or_dotted name with plain | ⟨package, simple, plain, rfl⟩
  · exact .inl plain
  · refine .inr ⟨package, simple, ?_, plain, rfl⟩
    rintro rfl
    -- A name that begins with a dot has an empty segment.
    have qualified := (className_iff.1 named).1
    rw [isQualified, String.toList_append] at qualified
    cases qualified

section Simple

theorem simpleClass_of_plain (plain : '.' ∉ name.toList) :
    simpleClass name = String.ofList (Text.afterLast (fun c => c = '$') name.toList) := by
  unfold simpleClass
  congr 1
  refine Text.afterLast_congr fun c member => ?_
  have other : c ≠ '.' := fun same => plain (same ▸ member)
  simp [other]

theorem simpleClass_append (package simple : String) :
    simpleClass (package ++ "." ++ simple) = simpleClass simple := by
  rw [simpleClass, QualifiedName.toList_dotted, Text.afterLast_append (by decide), simpleClass]

theorem simpleClass_eq (name : String) :
    simpleClass name = simpleClass (QualifiedName.ofDotted name).simpleName := by
  rcases QualifiedName.plain_or_dotted name with plain | ⟨package, simple, plain, rfl⟩
  · rw [QualifiedName.ofDotted_of_plain plain]
  · rw [QualifiedName.ofDotted_append package plain, simpleClass_append]

theorem getLast?_nesting (name : String) : (nesting name).getLast? = some (simpleClass name) := by
  -- Behind the last dot there is none, and so only `$` separates there.
  have plain := QualifiedName.dot_not_mem_simpleName_ofDotted name
  rw [nesting, List.getLast?_map, Text.getLast?_splitOn, simpleClass_eq, simpleClass_of_plain plain,
    Option.map_some]

end Simple

section Package

/-- The package is looked for before the first `$`. -/
theorem mem_of_mem_packageOfClass {c : Char} (member : c ∈ (packageOfClass name).toList) :
    c ∈ name.toList.takeWhile fun c => c != '$' := by
  unfold packageOfClass at member
  split at member
  · next before after cut =>
    rw [String.toList_ofList] at member
    rw [(Text.splitAtLast?_eq_some cut).1]
    exact List.mem_append_left _ member
  · cases member

theorem dollar_not_mem_packageOfClass (name : String) : '$' ∉ (packageOfClass name).toList := by
  intro member
  have passed := List.all_eq_true.1 List.all_takeWhile '$' (mem_of_mem_packageOfClass member)
  simp at passed

theorem packageOfClass_of_undotted (plain : '.' ∉ name.toList) : packageOfClass name = "" := by
  have prefixed := List.takeWhile_prefix (l := name.toList) fun c => c != '$'
  have absent := Text.splitAtLast?_eq_none.2 fun member => plain (prefixed.subset member)
  rw [packageOfClass, absent]

theorem packageOfClass_append (unmarked : '$' ∉ package.toList) (plain : '.' ∉ simple.toList) :
    packageOfClass (package ++ "." ++ simple) = package := by
  have front : ∀ c ∈ package.toList, (c != '$') = true := by
    intro c member
    rw [bne_iff_ne]
    rintro rfl
    exact unmarked member
  have prefixed := List.takeWhile_prefix (l := simple.toList) fun c => c != '$'
  -- If there is a `$` at all, it stands behind the last dot.
  have taken : (package ++ "." ++ simple).toList.takeWhile (fun c => c != '$') =
      package.toList ++ '.' :: simple.toList.takeWhile fun c => c != '$' := by
    rw [QualifiedName.toList_dotted, List.takeWhile_append_of_pos front,
      List.takeWhile_cons_of_pos (by decide)]
  rw [packageOfClass, taken,
    Text.splitAtLast?_append fun member => plain (prefixed.subset member)]
  exact String.ofList_toList

theorem packageOfClass_eq_iff (name : String) :
    packageOfClass name = (QualifiedName.ofDotted name).package ↔
      '$' ∉ (QualifiedName.ofDotted name).package.toList := by
  refine ⟨fun same => same ▸ dollar_not_mem_packageOfClass name, fun unmarked => ?_⟩
  rcases QualifiedName.plain_or_dotted name with plain | ⟨package, simple, plain, rfl⟩
  · rw [packageOfClass_of_undotted plain, QualifiedName.ofDotted_of_plain plain]
  · rw [QualifiedName.ofDotted_append package plain] at unmarked ⊢
    exact packageOfClass_append unmarked plain

end Package

section Canonical

theorem canonicalClass_append (a b : String) :
    canonicalClass (a ++ b) = canonicalClass a ++ canonicalClass b := by
  simp [canonicalClass]

theorem canonicalClass_of_plain (plain : '$' ∉ name.toList) : canonicalClass name = name := by
  have kept : name.toList.map (fun c => if c = '$' then '.' else c) = name.toList := by
    have fixed : ∀ c ∈ name.toList, (if c = '$' then '.' else c) = id c := by
      intro c member
      refine if_neg ?_
      rintro rfl
      exact plain member
    rw [List.map_congr_left fixed, List.map_id]
  rw [canonicalClass, kept, String.ofList_toList]

theorem canonicalClass_eq_self_iff : canonicalClass name = name ↔ '$' ∉ name.toList := by
  refine ⟨fun same member => ?_, canonicalClass_of_plain⟩
  rw [← same, canonicalClass, String.toList_ofList] at member
  obtain ⟨c, -, replaced⟩ := List.mem_map.1 member
  split at replaced
  · cases replaced
  · next other => exact other replaced

theorem dot_mem_canonicalClass_of_mem (member : '.' ∈ name.toList) :
    '.' ∈ (canonicalClass name).toList := by
  rw [canonicalClass, String.toList_ofList]
  exact List.mem_map.2 ⟨'.', member, rfl⟩

theorem intercalate_nesting (name : String) :
    ".".intercalate (nesting name) = canonicalClass (QualifiedName.ofDotted name).simpleName := by
  have pieces : String.toList ∘ String.ofList = id := by
    funext s
    exact String.toList_ofList
  apply String.toList_injective
  rw [String.toList_intercalate, nesting, List.map_map, pieces, List.map_id, canonicalClass,
    String.toList_ofList, String.toList_ofList]
  exact Text.intercalate_splitOn '$' '.' _

theorem canonicalClass_eq (named : ClassName name) :
    canonicalClass name = QualifiedName.display
      ⟨canonicalClass (QualifiedName.ofDotted name).package, ".".intercalate (nesting name)⟩ := by
  rw [intercalate_nesting]
  rcases named.plain_or_dotted with plain | ⟨package, simple, present, plain, rfl⟩
  · rw [QualifiedName.ofDotted_of_plain plain]
    rfl
  · -- The dot behind the package is written, as replacing `$` does not make the package empty.
    have kept : canonicalClass package ≠ "" := by
      intro empty
      rw [canonicalClass, ← String.toList_inj, String.toList_ofList] at empty
      exact present (String.toList_inj.1 (List.map_eq_nil_iff.1 empty))
    rw [QualifiedName.ofDotted_append package plain, canonicalClass_append, canonicalClass_append,
      QualifiedName.display, if_neg kept]
    rfl

end Canonical

/-- The simple name of a class is the last of the names between the `$`s, and its canonical name joins
these with the canonical spelling of what stands before the last `.`. The package is that itself, and
the canonical name begins with it, exactly if it holds no `$`. -/
theorem decomposes_iff (accepted : parse name = .ok (.class name)) :
    let dotted := QualifiedName.ofDotted name
    (Decomposes name ↔ '$' ∉ dotted.package.toList ∧ ∀ outer ∈ nesting name, outer ≠ "") ∧
      (nesting name).getLast? = some (TypeRef.class name).simpleName ∧
      (TypeRef.class name).canonicalName = QualifiedName.display
        ⟨canonicalClass dotted.package, ".".intercalate (nesting name)⟩ ∧
      (TypeRef.class name).package? = some (SourceType.ofName name).package ∧
      ((SourceType.ofName name).package = dotted.package ↔ '$' ∉ dotted.package.toList) := by
  intro dotted
  have named : ClassName name := by
    rcases readable_of_parse accepted with ⟨p, primitive⟩ | ⟨other, same, named⟩
    · cases primitive
    · cases same
      exact named
  have last := getLast?_nesting name
  have canonical := canonicalClass_eq named
  have package := packageOfClass_eq_iff name
  refine ⟨⟨fun whole => ⟨package.1 whole.sourcePackage, whole.named⟩, ?_⟩, last, canonical, rfl,
    package⟩
  rintro ⟨unmarked, present⟩
  refine ⟨package.2 unmarked, congrArg some (package.2 unmarked), present, last, ?_⟩
  rw [canonicalClass_eq_self_iff.2 unmarked] at canonical
  exact canonical

theorem decomposes_inner :
    parse "com.example.Outer$Inner" = .ok (.class "com.example.Outer$Inner") ∧
      Decomposes "com.example.Outer$Inner" := by
  have accepted : parse "com.example.Outer$Inner" = .ok (.class "com.example.Outer$Inner") := by
    decide +kernel
  exact ⟨accepted, (decomposes_iff accepted).1.2 (by decide +kernel)⟩

/-- A `$` in a package cuts it off there, and it becomes a dot in the canonical name. -/
theorem package_cut :
    parse "a.b$c.D" = .ok (.class "a.b$c.D") ∧
      QualifiedName.ofDotted "a.b$c.D" = ⟨"a.b$c", "D"⟩ ∧
      (SourceType.ofName "a.b$c.D").package = "a" ∧
      (TypeRef.class "a.b$c.D").package? = some "a" ∧
      (TypeRef.class "a.b$c.D").canonicalName = "a.b.c.D" ∧
      ¬ Decomposes "a.b$c.D" := by
  refine ⟨by decide +kernel, by decide, by decide, by decide, by decide, fun whole => ?_⟩
  exact absurd whole.sourcePackage (by decide)

end FluentWrap.TypeRef
