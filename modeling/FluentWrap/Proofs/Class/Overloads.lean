import FluentWrap.Plan.Planner
import FluentWrap.Proofs.Class.Edits
import FluentWrap.Proofs.Class.Imports
import FluentWrap.Proofs.TypeRef.Spelling
import Mathlib.Data.List.Forall2

/-!
Overloads as source code writes them. A class tells its methods apart by the types that they take,
but two types can be written alike: classes of one canonical name, and a primitive beside a class
whose last segment is its keyword. There are no others.
-/

set_option autoImplicit false

namespace FluentWrap

theorem Primitive.eq_of_keyword {p q : Primitive} (same : p.keyword = q.keyword) : p = q := by
  have found := Primitive.ofKeyword?_keyword p
  rw [same, Primitive.ofKeyword?_keyword] at found
  exact (Option.some.inj found).symm

theorem map_eq_map_iff_forall₂ {α β : Type} {f : α → β} {R : α → α → Prop} {types others : List α}
    (same : ∀ t ∈ types, ∀ u ∈ others, f t = f u ↔ R t u) :
    types.map f = others.map f ↔ List.Forall₂ R types others := by
  induction types generalizing others with
  | nil => cases others <;> simp
  | cons t rest ih =>
    cases others with
    | nil => simp
    | cons u others =>
      have head := same t List.mem_cons_self u List.mem_cons_self
      have tail := ih fun t first u second =>
        same t (List.mem_cons_of_mem _ first) u (List.mem_cons_of_mem _ second)
      rw [List.map_cons, List.map_cons, List.cons_eq_cons, List.forall₂_cons, head, tail]

namespace ClassDeclaration

/-- The types in the parameter list of a member as source code writes them, with `[]` instead of
`...` behind the type of a variable number of arguments. -/
def writtenTypes (c : ClassDeclaration) (m : Member) : List String :=
  m.parameters.map fun p => c.spell p.type ++ if p.varargs then "[]" else ""

inductive Alike (c : ClassDeclaration) : TypeRef → TypeRef → Prop where
  | primitives (p : Primitive) : Alike c (.primitive p) (.primitive p)
  | classes {a b : String} : TypeRef.canonicalClass a = TypeRef.canonicalClass b →
      Alike c (.class a) (.class b)
  /-- The class is written by its last segment, which is the keyword. -/
  | keywordClass {p : Primitive} {name : String} : ¬ c.Contested name →
      Referenced.lastSegment (TypeRef.canonicalClass name) = p.keyword →
      Alike c (.primitive p) (.class name)
  | classKeyword {p : Primitive} {name : String} : ¬ c.Contested name →
      Referenced.lastSegment (TypeRef.canonicalClass name) = p.keyword →
      Alike c (.class name) (.primitive p)
  | arrays {t u : TypeRef} : Alike c t u → Alike c (.array t) (.array u)

variable {c : ClassDeclaration}

section Spelling

theorem writtenTypes_eq (c : ClassDeclaration) (m : Member) :
    c.writtenTypes m = m.signature.map c.spell := by
  have each : ∀ p : FormalParameter,
      c.spell p.type ++ (if p.varargs then "[]" else "") = c.spell p.signatureType := by
    intro p
    cases varargs : p.varargs <;> simp [FormalParameter.signatureType, varargs, spell]
  rw [writtenTypes, Member.signature, List.map_map]
  exact List.map_congr_left fun p _ => each p

theorem spell_primitive (c : ClassDeclaration) (p : Primitive) :
    c.spell (.primitive p) = p.keyword := by
  rw [spell]

theorem mem_of_mem_spell {name : String} {d : Char} (member : d ∈ (c.spell (.class name)).toList) :
    d = '.' ∨ d ∈ name.toList := by
  have canonical : d ∈ (TypeRef.canonicalClass name).toList := by
    rw [spell, shortName] at member
    split at member
    · rw [Referenced.lastSegment, String.toList_ofList] at member
      exact (Text.afterLast_suffix _ _).subset member
    · exact member
  rw [TypeRef.canonicalClass, String.toList_ofList] at canonical
  obtain ⟨e, inside, rfl⟩ := List.mem_map.1 canonical
  split
  · exact .inl rfl
  · exact .inr inside

theorem bracket_not_mem_keyword (p : Primitive) : ']' ∉ p.keyword.toList := by
  cases p <;> decide

theorem bracket_not_mem_class (c : ClassDeclaration) {name : String}
    (named : (TypeRef.class name).WellNamed) : ']' ∉ (c.spell (.class name)).toList := by
  intro member
  rcases mem_of_mem_spell member with separator | inside
  · revert separator
    decide
  · exact TypeRef.bracket_not_mem_of_isQualified (named name rfl).1 inside

theorem spell_array_ne (c : ClassDeclaration) (t : TypeRef) {text : String}
    (plain : ']' ∉ text.toList) : c.spell (.array t) ≠ text := by
  rintro rfl
  refine plain ?_
  rw [spell, String.toList_append]
  exact List.mem_append_right _ (by decide)

theorem spell_array_eq_iff {t u : TypeRef} :
    c.spell (.array t) = c.spell (.array u) ↔ c.spell t = c.spell u := by
  rw [spell, spell]
  constructor
  · intro same
    have texts := congrArg String.toList same
    rw [String.toList_append, String.toList_append] at texts
    exact String.toList_inj.1 (List.append_cancel_right texts)
  · intro same
    rw [same]

theorem spell_class_eq_iff {a b : String} (left : c.Refers (.class a))
    (right : c.Refers (.class b)) :
    c.spell (.class a) = c.spell (.class b) ↔
      TypeRef.canonicalClass a = TypeRef.canonicalClass b := by
  constructor
  · exact (Mentions.referred left).eq_of_spell (.referred right)
  · intro same
    rw [spell, spell, same]

/-- A class is written like a primitive if it is written by its last segment and that is the
keyword; its full name cannot be the keyword. -/
theorem keyword_eq_spell_iff {p : Primitive} {name : String} (refers : c.Refers (.class name))
    (named : (TypeRef.class name).WellNamed) :
    p.keyword = c.spell (.class name) ↔ ¬ c.Contested name ∧
      Referenced.lastSegment (TypeRef.canonicalClass name) = p.keyword := by
  by_cases contested : c.Contested name
  · rw [spell_of_shared ((two_le_claims_iff refers).2 contested)]
    constructor
    · intro whole
      have plain : '$' ∉ name.toList := by
        intro member
        have separator : '.' ∈ (TypeRef.canonicalClass name).toList := by
          rw [TypeRef.canonicalClass, String.toList_ofList]
          exact List.mem_map.2 ⟨'$', member, by simp⟩
        rw [← whole] at separator
        revert separator
        cases p <;> decide
      -- Without `$` the name is the keyword itself, which is no class.
      rw [TypeRef.canonicalClass_of_plain plain] at whole
      have keyword := (named name rfl).2
      rw [← whole, Primitive.ofKeyword?_keyword] at keyword
      cases keyword
    · rintro ⟨free, -⟩
      exact absurd contested free
  · have alone := (claims_le_one_iff refers).2 contested
    rw [(Mentions.referred refers).spell_of_alone alone, eq_comm]
    exact ⟨fun same => ⟨contested, same⟩, fun both => both.2⟩

theorem spell_eq_iff {t u : TypeRef} (left : t.WellNamed) (right : u.WellNamed)
    (first : c.Refers t.base) (second : c.Refers u.base) :
    c.spell t = c.spell u ↔ c.Alike t u := by
  -- Brackets stand behind arrays only, so arrays are compared with arrays, element by element.
  induction t generalizing u with
  | primitive p =>
    cases u with
    | primitive q =>
      constructor
      · intro same
        rw [Primitive.eq_of_keyword same]
        exact .primitives q
      · intro alike
        cases alike
        rfl
    | «class» name =>
      rw [spell_primitive, keyword_eq_spell_iff second right]
      constructor
      · rintro ⟨free, same⟩
        exact .keywordClass free same
      · intro alike
        cases alike with
        | keywordClass free same => exact ⟨free, same⟩
    | array element =>
      have differ := c.spell_array_ne element (bracket_not_mem_keyword p)
      exact iff_of_false (fun same => differ same.symm) nofun
  | «class» name =>
    cases u with
    | primitive p =>
      rw [spell_primitive, eq_comm, keyword_eq_spell_iff first left]
      constructor
      · rintro ⟨free, same⟩
        exact .classKeyword free same
      · intro alike
        cases alike with
        | classKeyword free same => exact ⟨free, same⟩
    | «class» other =>
      rw [spell_class_eq_iff first second]
      constructor
      · exact .classes
      · intro alike
        cases alike with
        | classes same => exact same
    | array element =>
      have differ := c.spell_array_ne element (c.bracket_not_mem_class left)
      exact iff_of_false (fun same => differ same.symm) nofun
  | array element ih =>
    cases u with
    | primitive p =>
      exact iff_of_false (c.spell_array_ne element (bracket_not_mem_keyword p)) nofun
    | «class» name =>
      exact iff_of_false (c.spell_array_ne element (c.bracket_not_mem_class right)) nofun
    | array other =>
      have elements := ih (u := other) left right first second
      rw [spell_array_eq_iff, elements]
      constructor
      · exact .arrays
      · intro alike
        cases alike with
        | arrays inside => exact inside

end Spelling

section Signatures

theorem base_signatureType (p : FormalParameter) : p.signatureType.base = p.type.base := by
  cases varargs : p.varargs <;> simp [FormalParameter.signatureType, varargs, TypeRef.base]

theorem writtenTypes_eq_iff {a b : Member} (first : a ∈ c.members) (second : b ∈ c.members)
    (left : ∀ p ∈ a.parameters, p.type.WellNamed) (right : ∀ p ∈ b.parameters, p.type.WellNamed) :
    c.writtenTypes a = c.writtenTypes b ↔ List.Forall₂ c.Alike a.signature b.signature := by
  have known : ∀ m ∈ c.members, (∀ p ∈ m.parameters, p.type.WellNamed) →
      ∀ t ∈ m.signature, t.WellNamed ∧ c.Refers t.base := by
    intro m member named t listed
    obtain ⟨p, parameter, rfl⟩ := List.mem_map.1 listed
    have wellNamed := named p parameter
    have refers := Refers.parameter member parameter
    unfold TypeRef.WellNamed at wellNamed ⊢
    rw [base_signatureType]
    exact ⟨wellNamed, refers⟩
  rw [writtenTypes_eq, writtenTypes_eq]
  refine map_eq_map_iff_forall₂ fun t inA u inB => ?_
  obtain ⟨namedT, refersT⟩ := known a first left t inA
  obtain ⟨namedU, refersU⟩ := known b second right u inB
  exact spell_eq_iff namedT namedU refersT refersU

end Signatures

end ClassDeclaration

namespace CodeModel

/-- Two methods of one name never take the same types, whatever edits have led to their class. If
all parameter types were read, the methods are written alike exactly if the types that they take
are, one by one. -/
theorem overloads_written (stamp : Option Stamp) (edits : List Edit)
    (read : ∀ edit ∈ edits, ∀ m ∈ edit.members, ∀ p ∈ m.parameters,
      ∃ spelling, TypeRef.parse spelling = .ok p.type) :
    ∀ c ∈ ((stampedWith stamp).editAll edits).classes,
      c.members.Pairwise fun a b => a.IsMethod → b.IsMethod → a.name = b.name →
        a.signature ≠ b.signature ∧
          (c.writtenTypes a = c.writtenTypes b ↔
            List.Forall₂ c.Alike a.signature b.signature) := by
  intro c member
  have consistent := (Consistent.stampedWith stamp).editAll edits
  have named := editAll_members (Q := fun m => ∀ p ∈ m.parameters, p.type.WellNamed) stamp
    (fun edit asked m brought p parameter => by
      obtain ⟨spelling, parsed⟩ := read edit asked m brought p parameter
      exact TypeRef.wellNamed_of_parse parsed) c member
  refine (consistent.apart c member).imp_of_mem fun {a b} first second apart => ?_
  intro methodA methodB name
  refine ⟨fun same => apart (.methods methodA methodB name same), ?_⟩
  exact ClassDeclaration.writtenTypes_eq_iff first second (named a first) (named b second)

end CodeModel

namespace Samples

/-- A setter is overloaded for a nested class under its binary and its canonical name. -/
def form : SourceType :=
  { SourceType.ofName "a.Form" with
    methods := [
      .ofTypes "setMode" [.class "a.Form$Mode"],
      .ofTypes "setMode" [.class "a.Form.Mode"]] }

theorem parse_form : ∀ edit ∈ [Edit.define (Planner.plan default form)], ∀ m ∈ edit.members,
    ∀ p ∈ m.parameters, ∃ spelling, TypeRef.parse spelling = .ok p.type := by
  have parsed : ∀ m ∈ (Planner.plan default form).members, ∀ p ∈ m.parameters,
      TypeRef.parse p.type.spelling = .ok p.type := by
    decide +kernel
  intro edit asked m brought p parameter
  rw [List.mem_singleton.1 asked] at brought
  exact ⟨_, parsed m brought p parameter⟩

end Samples

namespace CodeModel

theorem overloads_written_form :
    (∀ edit ∈ [Edit.define (Planner.plan default Samples.form)], ∀ m ∈ edit.members,
      ∀ p ∈ m.parameters, ∃ spelling, TypeRef.parse spelling = .ok p.type) ∧
    ∀ c ∈ ((stampedWith none).editAll [.define (Planner.plan default Samples.form)]).classes,
      c.members.Pairwise fun a b => a.IsMethod → b.IsMethod → a.name = b.name →
        a.signature ≠ b.signature ∧
          (c.writtenTypes a = c.writtenTypes b ↔
            List.Forall₂ c.Alike a.signature b.signature) :=
  ⟨Samples.parse_form, overloads_written none _ Samples.parse_form⟩

/-- Overloads that take different types need not be written differently. -/
theorem form_mode_written_twice :
    (∀ edit ∈ [Edit.define (Planner.plan default Samples.form)], ∀ m ∈ edit.members,
      ∀ p ∈ m.parameters, ∃ spelling, TypeRef.parse spelling = .ok p.type) ∧
    ∃ c ∈ ((stampedWith none).editAll [.define (Planner.plan default Samples.form)]).classes,
      ¬ c.members.Pairwise fun a b => a.IsMethod → b.IsMethod → a.name = b.name →
        c.writtenTypes a ≠ c.writtenTypes b :=
  ⟨Samples.parse_form, by decide +kernel⟩

end CodeModel

end FluentWrap
