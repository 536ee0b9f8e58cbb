import FluentWrap.Class.Source
import FluentWrap.Proofs.TypeRef.BinaryNames
import Mathlib.Data.List.Nodup
import Mathlib.Data.List.Perm.Subperm

/-!
How classes are named in source code. A class that has its last segment for itself is written by
it, and imported if need be; every other is written in full, so that no text stands for two
classes.
-/

set_option autoImplicit false

namespace FluentWrap

section Counting

variable {α : Type} {p : α → Bool} {entries : List α}

theorem nodup_eraseDups [DecidableEq α] (entries : List α) : entries.eraseDups.Nodup := by
  match entries with
  | [] => exact .nil
  | first :: rest =>
    have shorter : (rest.filter fun other => !other == first).length < rest.length + 1 :=
      Nat.lt_succ_of_le (List.length_filter_le _ rest)
    rw [List.eraseDups_cons]
    exact List.nodup_cons.2 ⟨by simp, nodup_eraseDups _⟩
termination_by entries.length

theorem two_le_countP {a b : α} (first : a ∈ entries) (second : b ∈ entries) (other : a ≠ b)
    (left : p a = true) (right : p b = true) : 2 ≤ entries.countP p := by
  have distinct : [a, b].Nodup := by simpa using other
  have inside : [a, b].Subperm entries := distinct.subperm (by simp [first, second])
  have counted : [a, b].countP p = 2 := by simp [left, right]
  have bound := inside.countP_le p
  omega

theorem exists_ne_of_two_le_countP (distinct : entries.Nodup) (counted : 2 ≤ entries.countP p)
    (a : α) : ∃ b ∈ entries, b ≠ a ∧ p b = true := by
  rw [List.countP_eq_length_filter] at counted
  have chosen : ∀ b ∈ entries.filter p, b ∈ entries ∧ p b = true := fun b member =>
    List.mem_filter.1 member
  have apart := distinct.filter p
  match found : entries.filter p with
  | [] | [_] => simp [found] at counted
  | first :: second :: rest =>
    rw [found] at chosen apart
    have inFront := chosen first List.mem_cons_self
    have behind := chosen second (List.mem_cons_of_mem _ List.mem_cons_self)
    have differ : first ≠ second := by
      rintro rfl
      exact (List.nodup_cons.1 apart).1 List.mem_cons_self
    -- Of two different ones one at least is not `a`.
    by_cases same : first = a
    · exact ⟨second, behind.1, fun h => differ (same.trans h.symm), behind.2⟩
    · exact ⟨first, inFront.1, same, inFront.2⟩

end Counting

namespace Referenced

def ofClass (name : String) : Referenced :=
  ⟨TypeRef.canonicalClass name, TypeRef.packageOfClass name⟩

theorem stamp_eq : stamp = ofClass "javax.annotation.Generated" := by decide

theorem not_dot_mem_lastSegment (canonicalName : String) :
    '.' ∉ (lastSegment canonicalName).toList := by
  rw [lastSegment, String.toList_ofList]
  exact Text.not_mem_afterLast (by simp)

theorem lastSegment_of_plain {canonicalName : String} (plain : '.' ∉ canonicalName.toList) :
    lastSegment canonicalName = canonicalName := by
  have kept : Text.afterLast (· = '.') canonicalName.toList = canonicalName.toList := by
    refine Text.afterLast_of_absent fun c member => ?_
    simp only [decide_eq_false_iff_not]
    rintro rfl
    exact plain member
  rw [lastSegment, kept, String.ofList_toList]

theorem lastSegment_lastSegment (canonicalName : String) :
    lastSegment (lastSegment canonicalName) = lastSegment canonicalName :=
  lastSegment_of_plain (not_dot_mem_lastSegment canonicalName)

section Plain

variable {name : String}

theorem isNested_of_plain (plain : '$' ∉ name.toList) : (ofClass name).isNested = false := by
  have outer : name.toList.takeWhile (fun c => c != '$') = name.toList := by
    refine List.takeWhile_eq_self_iff.2 fun c member => ?_
    simp only [bne_iff_ne, ne_eq]
    rintro rfl
    exact plain member
  unfold isNested ofClass
  dsimp only
  rw [TypeRef.canonicalClass_of_plain plain, TypeRef.packageOfClass, outer]
  -- Behind the package stand a `.` and the last segment, or the whole name if it has no `.`.
  have segment : ∀ s : List Char, '.' ∉ s →
      (s.dropWhile fun c => decide (c = '.')).contains '.' = false := by
    intro s absent
    have suffix := List.dropWhile_suffix (l := s) fun c => decide (c = '.')
    simpa using fun member => absent (suffix.subset member)
  cases cut : Text.splitAtLast? '.' name.toList with
  | none => exact segment _ (Text.splitAtLast?_eq_none.1 cut)
  | some parts =>
    obtain ⟨package, simple⟩ := parts
    obtain ⟨whole, absent⟩ := Text.splitAtLast?_eq_some cut
    simp only [String.toList_ofList]
    rw [whole, List.drop_left, List.dropWhile_cons_of_pos (by simp)]
    exact segment simple absent

theorem isImplicit_iff {r : Referenced} {package : String} :
    r.isImplicit package = true ↔
      r.package = "" ∨ r.isNested = false ∧ r.package ∈ ["java.lang", package] := by
  simp [isImplicit]

theorem isImplicit_of_plain (plain : '$' ∉ name.toList) (package : String) :
    (ofClass name).isImplicit package = true ↔
      TypeRef.packageOfClass name ∈ ["", "java.lang", package] := by
  have outer := isNested_of_plain plain
  rw [isImplicit_iff, and_iff_right outer, ← List.mem_cons]
  exact Iff.rfl

end Plain

end Referenced

namespace ClassDeclaration

variable {c : ClassDeclaration}

/-- The types that the source code of a class refers to, arrays aside: the delegate's, those of
parameters, and those of the elements of loops. -/
inductive Refers (c : ClassDeclaration) : TypeRef → Prop where
  | delegate : Refers c c.delegateType.base
  | parameter {m : Member} {p : FormalParameter} : m ∈ c.members → p ∈ m.parameters →
      Refers c p.type.base
  | loopElement {m : Member} {method variableName parameter : String} {elementType : TypeRef} :
      m ∈ c.members → .delegateLoop method elementType variableName parameter ∈ m.body →
      Refers c elementType.base

inductive Mentions (c : ClassDeclaration) : String → Prop where
  | referred {name : String} : c.Refers (.class name) → Mentions c name
  | stamp : c.stamp.isSome = true → Mentions c "javax.annotation.Generated"

/-- Whether another referenced class, the stamp or the class itself has the last segment of a
referenced class. -/
inductive Contested (c : ClassDeclaration) (name : String) : Prop where
  | other {other : String} : c.Refers (.class other) → other ≠ name →
      Referenced.lastSegment (TypeRef.canonicalClass other) =
        Referenced.lastSegment (TypeRef.canonicalClass name) → Contested c name
  | stamp : c.stamp.isSome = true →
      Referenced.stamp.simpleName = Referenced.lastSegment (TypeRef.canonicalClass name) →
      Contested c name
  | own : c.name.simpleName = Referenced.lastSegment (TypeRef.canonicalClass name) →
      Contested c name

section References

theorem mem_typesOfMember {m : Member} {t : TypeRef} :
    t ∈ typesOfMember m ↔ (∃ p ∈ m.parameters, p.type = t) ∨
      ∃ method variableName parameter, .delegateLoop method t variableName parameter ∈ m.body := by
  unfold typesOfMember
  rw [List.mem_append, List.mem_map, List.mem_filterMap]
  refine or_congr Iff.rfl ⟨?_, ?_⟩
  · rintro ⟨s, member, looped⟩
    cases s with
    | delegateLoop method elementType variableName parameter =>
      obtain rfl := Option.some.inj looped
      exact ⟨method, variableName, parameter, member⟩
    | _ => cases looped
  · rintro ⟨method, variableName, parameter, member⟩
    exact ⟨_, member, rfl⟩

theorem mem_referencedTypes {t : TypeRef} : t ∈ c.referencedTypes ↔ c.Refers t := by
  unfold referencedTypes
  rw [List.mem_eraseDups, List.mem_map]
  simp only [List.mem_cons, List.mem_flatMap, mem_typesOfMember]
  constructor
  · rintro ⟨u, rfl | ⟨m, member, ⟨p, stands, rfl⟩ | ⟨method, variableName, parameter, stands⟩⟩, rfl⟩
    · exact .delegate
    · exact .parameter member stands
    · exact .loopElement member stands
  · intro refers
    cases refers with
    | delegate => exact ⟨_, .inl rfl, rfl⟩
    | parameter member stands => exact ⟨_, .inr ⟨_, member, .inl ⟨_, stands, rfl⟩⟩, rfl⟩
    | loopElement member stands =>
      exact ⟨_, .inr ⟨_, member, .inr ⟨_, _, _, stands⟩⟩, rfl⟩

theorem mem_referencedClasses {r : Referenced} :
    r ∈ c.referencedClasses ↔ ∃ name, c.Mentions name ∧ Referenced.ofClass name = r := by
  unfold referencedClasses
  rw [List.mem_append, List.mem_filterMap]
  constructor
  · rintro (⟨t, member, built⟩ | stamped)
    · cases t with
      | «class» name =>
        exact ⟨name, .referred (mem_referencedTypes.1 member), Option.some.inj built⟩
      | primitive | array => cases built
    · split at stamped
      · next present =>
        rw [List.mem_singleton.1 stamped]
        exact ⟨_, .stamp present, Referenced.stamp_eq.symm⟩
      · cases stamped
  · rintro ⟨name, mentioned, rfl⟩
    cases mentioned with
    | referred refers => exact .inl ⟨.class name, mem_referencedTypes.2 refers, rfl⟩
    | stamp present =>
      rw [if_pos present, Referenced.stamp_eq]
      exact .inr List.mem_cons_self

end References

section Claims

def hasSegment (segment : String) : TypeRef → Bool
  | .class name => Referenced.lastSegment (TypeRef.canonicalClass name) = segment
  | .primitive _ | .array _ => false

theorem hasSegment_class {segment name : String} :
    hasSegment segment (.class name) = true ↔
      Referenced.lastSegment (TypeRef.canonicalClass name) = segment := by
  rw [hasSegment, decide_eq_true_iff]

/-- The stamp and the class itself have a segment at most once each. -/
theorem claims_eq (c : ClassDeclaration) (segment : String) :
    c.claims segment = c.referencedTypes.countP (hasSegment segment) +
      (if c.stamp.isSome = true ∧ Referenced.stamp.simpleName = segment then 1 else 0) +
      (if c.name.simpleName = segment then 1 else 0) := by
  have classes : (c.referencedTypes.filterMap fun t =>
      t.package?.map fun p => (⟨t.canonicalName, p⟩ : Referenced)).countP
        (fun r => r.simpleName = segment) = c.referencedTypes.countP (hasSegment segment) := by
    rw [List.countP_filterMap]
    refine List.countP_congr fun t _ => ?_
    cases t with
    | «class» name =>
      rw [hasSegment_class]
      simp only [TypeRef.package?, Option.map_some, Option.getD_some, decide_eq_true_eq]
      exact Iff.rfl
    | primitive | array => exact Iff.rfl
  have single : ∀ r : Referenced, (if c.stamp.isSome then [r] else []).countP
      (fun r => r.simpleName = segment) =
        if c.stamp.isSome = true ∧ r.simpleName = segment then 1 else 0 := by
    intro r
    by_cases present : c.stamp.isSome = true
    · simp [present, List.countP_cons]
    · simp [present]
  rw [claims, referencedClasses, List.countP_append, classes, single]

theorem Mentions.one_le {name : String} (mentioned : c.Mentions name) {segment : String}
    (same : Referenced.lastSegment (TypeRef.canonicalClass name) = segment) :
    1 ≤ c.referencedTypes.countP (hasSegment segment) +
      (if c.stamp.isSome = true ∧ Referenced.stamp.simpleName = segment then 1 else 0) := by
  cases mentioned with
  | referred refers =>
    have found : 0 < c.referencedTypes.countP (hasSegment segment) :=
      List.countP_pos_iff.2 ⟨_, mem_referencedTypes.2 refers, hasSegment_class.2 same⟩
    omega
  | stamp present =>
    rw [Referenced.stamp_eq, if_pos ⟨present, same⟩]
    omega

/-- A referenced class has its last segment for itself exactly if nothing contests it. -/
theorem two_le_claims_iff {name : String} (refers : c.Refers (.class name)) :
    2 ≤ c.claims (Referenced.lastSegment (TypeRef.canonicalClass name)) ↔ c.Contested name := by
  have itself := mem_referencedTypes.2 refers
  have named : hasSegment (Referenced.lastSegment (TypeRef.canonicalClass name))
      (.class name) = true := hasSegment_class.2 rfl
  have found := List.countP_pos_iff.2 ⟨_, itself, named⟩
  rw [claims_eq]
  constructor
  · -- The class itself is one of the claims, and the list of types holds no type twice.
    intro counted
    by_cases stamped : c.stamp.isSome = true ∧
        Referenced.stamp.simpleName = Referenced.lastSegment (TypeRef.canonicalClass name)
    · exact .stamp stamped.1 stamped.2
    · by_cases own : c.name.simpleName = Referenced.lastSegment (TypeRef.canonicalClass name)
      · exact .own own
      · rw [if_neg stamped, if_neg own] at counted
        obtain ⟨t, member, differs, has⟩ :=
          exists_ne_of_two_le_countP (nodup_eraseDups _) counted (.class name)
        cases t with
        | «class» other =>
          exact .other (mem_referencedTypes.1 member) (fun same => differs (congrArg _ same))
            (hasSegment_class.1 has)
        | primitive | array => cases has
  · intro contested
    cases contested with
    | other refersOther differs same =>
      -- Two different types have the segment, whatever the stamp and the class itself are called.
      have counted := two_le_countP (mem_referencedTypes.2 refersOther) itself
        (fun equal => differs (TypeRef.class.inj equal)) (hasSegment_class.2 same) named
      omega
    | stamp present same =>
      rw [if_pos ⟨present, same⟩]
      omega
    | own same =>
      rw [if_pos same]
      omega

theorem claims_le_one_iff {name : String} (refers : c.Refers (.class name)) :
    c.claims (Referenced.lastSegment (TypeRef.canonicalClass name)) ≤ 1 ↔ ¬ c.Contested name := by
  have shared := not_congr (two_le_claims_iff refers)
  rw [← shared]
  omega

theorem Mentions.eq_of_segment {a b : String} (first : c.Mentions a) (second : c.Mentions b)
    (same : Referenced.lastSegment (TypeRef.canonicalClass a) =
      Referenced.lastSegment (TypeRef.canonicalClass b))
    (alone : c.claims (Referenced.lastSegment (TypeRef.canonicalClass b)) ≤ 1) : a = b := by
  cases first with
  | referred left =>
    cases second with
    | referred right =>
      by_contra differs
      exact (claims_le_one_iff right).1 alone (.other left differs same)
    | stamp present =>
      rw [← same] at alone
      exact absurd (.stamp present same.symm) ((claims_le_one_iff left).1 alone)
  | stamp present =>
    cases second with
    | referred right =>
      exact absurd (.stamp present same) ((claims_le_one_iff right).1 alone)
    | stamp => rfl

theorem Mentions.own_ne {name : String} (mentioned : c.Mentions name)
    (alone : c.claims (Referenced.lastSegment (TypeRef.canonicalClass name)) ≤ 1) :
    c.name.simpleName ≠ Referenced.lastSegment (TypeRef.canonicalClass name) := by
  intro own
  have counted := mentioned.one_le rfl
  rw [claims_eq, if_pos own] at alone
  omega

end Claims

section Names

theorem mem_unambiguous {r : Referenced} :
    r ∈ c.unambiguous ↔ r ∈ c.referencedClasses ∧ c.claims r.simpleName ≤ 1 := by
  simp [unambiguous]

theorem contains_shortened {canonicalName : String} :
    c.shortened.contains canonicalName = true ↔
      (∃ name, c.Mentions name ∧ TypeRef.canonicalClass name = canonicalName) ∧
        c.claims (Referenced.lastSegment canonicalName) ≤ 1 := by
  rw [shortened, NameSet.contains_ofList, List.contains_iff_mem, List.mem_map]
  constructor
  · rintro ⟨r, member, rfl⟩
    obtain ⟨listed, alone⟩ := mem_unambiguous.1 member
    obtain ⟨name, mentioned, rfl⟩ := mem_referencedClasses.1 listed
    exact ⟨⟨name, mentioned, rfl⟩, alone⟩
  · rintro ⟨⟨name, mentioned, rfl⟩, alone⟩
    have listed := mem_referencedClasses.2 ⟨name, mentioned, rfl⟩
    exact ⟨_, mem_unambiguous.2 ⟨listed, alone⟩, rfl⟩

theorem mem_imports {canonicalName : String} :
    canonicalName ∈ c.imports.toList ↔
      ∃ name, c.Mentions name ∧ TypeRef.canonicalClass name = canonicalName ∧
        c.claims (Referenced.lastSegment canonicalName) ≤ 1 ∧
        (Referenced.ofClass name).isImplicit c.name.package = false := by
  rw [← List.contains_iff_mem]
  change c.imports.contains canonicalName = true ↔ _
  rw [imports, NameSet.contains_ofList, List.contains_iff_mem, List.mem_map]
  constructor
  · rintro ⟨r, member, rfl⟩
    obtain ⟨kept, explicit⟩ := List.mem_filter.1 member
    obtain ⟨listed, alone⟩ := mem_unambiguous.1 kept
    obtain ⟨name, mentioned, rfl⟩ := mem_referencedClasses.1 listed
    exact ⟨name, mentioned, rfl, alone, by simpa using explicit⟩
  · rintro ⟨name, mentioned, rfl, alone, explicit⟩
    have listed := mem_referencedClasses.2 ⟨name, mentioned, rfl⟩
    exact ⟨_, List.mem_filter.2 ⟨mem_unambiguous.2 ⟨listed, alone⟩, by simp [explicit]⟩, rfl⟩

theorem Mentions.mem_imports_iff {name : String} (mentioned : c.Mentions name) :
    TypeRef.canonicalClass name ∈ c.imports.toList ↔
      c.claims (Referenced.lastSegment (TypeRef.canonicalClass name)) ≤ 1 ∧
        (Referenced.ofClass name).isImplicit c.name.package = false := by
  rw [mem_imports]
  constructor
  · rintro ⟨other, mentionedOther, same, alone, explicit⟩
    obtain rfl : other = name :=
      mentionedOther.eq_of_segment mentioned (congrArg _ same) alone
    exact ⟨alone, explicit⟩
  · rintro ⟨alone, explicit⟩
    exact ⟨name, mentioned, rfl, alone, explicit⟩

theorem Mentions.spell_of_alone {name : String} (mentioned : c.Mentions name)
    (alone : c.claims (Referenced.lastSegment (TypeRef.canonicalClass name)) ≤ 1) :
    c.spell (.class name) = Referenced.lastSegment (TypeRef.canonicalClass name) :=
  if_pos (contains_shortened.2 ⟨⟨name, mentioned, rfl⟩, alone⟩)

theorem spell_of_shared {name : String}
    (shared : 2 ≤ c.claims (Referenced.lastSegment (TypeRef.canonicalClass name))) :
    c.spell (.class name) = TypeRef.canonicalClass name := by
  refine if_neg fun short => ?_
  have alone := (contains_shortened.1 short).2
  omega

theorem lastSegment_spell (c : ClassDeclaration) (name : String) :
    Referenced.lastSegment (c.spell (.class name)) =
      Referenced.lastSegment (TypeRef.canonicalClass name) := by
  rw [spell, shortName]
  split
  · exact Referenced.lastSegment_lastSegment _
  · rfl

/-- No text stands for two classes. -/
theorem Mentions.eq_of_spell {a b : String} (first : c.Mentions a) (second : c.Mentions b)
    (same : c.spell (.class a) = c.spell (.class b)) :
    TypeRef.canonicalClass a = TypeRef.canonicalClass b := by
  have segment : Referenced.lastSegment (TypeRef.canonicalClass a) =
      Referenced.lastSegment (TypeRef.canonicalClass b) := by
    rw [← lastSegment_spell c a, same, lastSegment_spell]
  -- Both are written by their common last segment, or both in full.
  by_cases alone : c.claims (Referenced.lastSegment (TypeRef.canonicalClass b)) ≤ 1
  · rw [first.eq_of_segment second segment alone]
  · have second : 2 ≤ c.claims (Referenced.lastSegment (TypeRef.canonicalClass b)) := by omega
    have first : 2 ≤ c.claims (Referenced.lastSegment (TypeRef.canonicalClass a)) := by
      rwa [segment]
    rw [spell_of_shared first, spell_of_shared second] at same
    exact same

end Names

section ImportLines

/-- Whether names can be imported: in order, each for its last segment, which is not the class's
own, and none that is known without an import. -/
structure Importable (c : ClassDeclaration) (names : List String) : Prop where
  increasing : names.Pairwise (· < ·)
  apart : names.Pairwise fun a b => Referenced.lastSegment a ≠ Referenced.lastSegment b
  foreign : ∀ n ∈ names, Referenced.lastSegment n ≠ c.name.simpleName
  used : ∀ n ∈ names, ∃ name, c.Mentions name ∧ TypeRef.canonicalClass name = n ∧
    c.spell (.class name) = Referenced.lastSegment n
  needed : ∀ name, c.Mentions name → TypeRef.canonicalClass name ∈ names → '$' ∉ name.toList →
    TypeRef.packageOfClass name ∉ ["", "java.lang", c.name.package]

theorem importable_imports (c : ClassDeclaration) : c.Importable c.imports.toList where
  increasing := c.imports.increasing
  apart := by
    refine c.imports.increasing.imp_of_mem fun {a b} first second before same => ?_
    obtain ⟨nameA, mentionedA, rfl, -, -⟩ := mem_imports.1 first
    obtain ⟨nameB, mentionedB, rfl, alone, -⟩ := mem_imports.1 second
    rw [mentionedA.eq_of_segment mentionedB same alone] at before
    exact String.lt_irrefl _ before
  foreign n member same := by
    obtain ⟨name, mentioned, rfl, alone, -⟩ := mem_imports.1 member
    exact mentioned.own_ne alone same.symm
  used n member := by
    obtain ⟨name, mentioned, rfl, alone, -⟩ := mem_imports.1 member
    exact ⟨name, mentioned, rfl, mentioned.spell_of_alone alone⟩
  needed name mentioned member plain known := by
    have explicit := (mentioned.mem_imports_iff.1 member).2
    rw [(Referenced.isImplicit_of_plain plain c.name.package).2 known] at explicit
    cases explicit

theorem importLines_dropLast (c : ClassDeclaration) :
    c.importLines.dropLast = c.imports.toList.map fun name => "import " ++ name ++ ";" := by
  unfold importLines
  split
  · next none =>
    rw [List.isEmpty_iff.1 none]
    rfl
  · exact List.dropLast_concat

/-- The import lines, a blank one behind them aside, stand in the order of the names that they
import, and these can be imported together. No text stands for two of the referenced classes. One
whose last segment is contested is written in full and not imported, and every other is written by
its last segment. -/
theorem imports_unambiguous (c : ClassDeclaration) :
    c.importLines.dropLast = c.imports.toList.map (fun name => "import " ++ name ++ ";") ∧
      c.Importable c.imports.toList ∧
      (∀ a b, c.Refers (.class a) → c.Refers (.class b) →
        c.spell (.class a) = c.spell (.class b) →
        TypeRef.canonicalClass a = TypeRef.canonicalClass b) ∧
      ∀ name, c.Refers (.class name) →
        (c.Contested name → c.spell (.class name) = TypeRef.canonicalClass name ∧
          TypeRef.canonicalClass name ∉ c.imports.toList) ∧
        (¬ c.Contested name →
          c.spell (.class name) = Referenced.lastSegment (TypeRef.canonicalClass name)) := by
  refine ⟨c.importLines_dropLast, c.importable_imports, fun a b left right same => ?_,
    fun name refers => ⟨fun contested => ?_, fun free => ?_⟩⟩
  · exact (Mentions.referred left).eq_of_spell (.referred right) same
  · have shared := (two_le_claims_iff refers).2 contested
    refine ⟨spell_of_shared shared, fun imported => ?_⟩
    obtain ⟨-, -, -, alone, -⟩ := mem_imports.1 imported
    omega
  · exact (Mentions.referred refers).spell_of_alone ((claims_le_one_iff refers).2 free)

end ImportLines

end ClassDeclaration

end FluentWrap
