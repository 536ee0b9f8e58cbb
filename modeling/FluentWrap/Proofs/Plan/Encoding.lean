import FluentWrap.Plan.Encoding
import FluentWrap.Proofs.Class.Imports
import FluentWrap.Proofs.Source.Encoding

/-!
Plans are read back from the data they are written as, in either notation, as far as the types in
them can be read.
-/

set_option autoImplicit false

namespace FluentWrap

variable (dialect : Dialect)

@[simp] theorem MemberKind.read_toData (k : MemberKind) :
    k.toData.memberKind? dialect = some k :=
  ofName?_name k

@[simp] theorem ResultType.read_toData (r : ResultType) :
    r.toData.resultType? dialect = some r :=
  ofName?_name r

theorem Modifier.readsBack : ReadsBack toData (Data.modifier? dialect) (fun _ => True) where
  back {m} _ := ofKeyword?_keyword m
  sound _ := trivial

@[simp] theorem QualifiedName.read_toData (name : QualifiedName) :
    name.toData.qualifiedName? dialect = some name := by
  rw [toData, Data.qualifiedName?, Data.fields?_table (by simp)]
  simp [Fields.required]

theorem FormalParameter.readsBack :
    ReadsBack toData (Data.formalParameter? dialect) (fun p => p.type.Readable) where
  back {p} readable := by
    have type := TypeRef.readsBack.back readable
    rw [toData, Data.formalParameter?, Data.fields?_table (by simp)]
    simp [Fields.required, Fields.defaulted, type]
  sound {data p} found := by
    simp only [Data.formalParameter?, bind, Option.bind_eq_some_iff] at found
    obtain ⟨fields, -, name, -, type, given, varargs, -, isFinal, -, same⟩ := found
    obtain rfl := Option.some.inj same
    exact TypeRef.readsBack.of_required given

namespace Statement

/-- Only the element type of a loop is a type that has to be read. -/
def Readable : Statement → Prop
  | delegateLoop _ elementType _ _ => elementType.Readable
  | _ => True

theorem readable_iff {s : Statement} :
    s.Readable ↔ ∀ method elementType variableName parameter,
      s = .delegateLoop method elementType variableName parameter → elementType.Readable := by
  constructor
  · rintro readable _ _ _ _ rfl
    exact readable
  · intro readable
    cases s with
    | delegateLoop => exact readable _ _ _ _ rfl
    | _ => trivial

theorem readable_of_fields {operation : String} {rest : Data} {s : Statement}
    (found : rest.statementFields? dialect operation = some s) : s.Readable := by
  cases s with
  | delegateLoop method elementType variableName parameter =>
    unfold Data.statementFields? at found
    split at found
    case h_4 =>
      simp only [bind, Option.bind_eq_some_iff] at found
      obtain ⟨fields, -, _, -, type, given, _, -, _, -, same⟩ := found
      cases same
      exact TypeRef.readsBack.of_required given
    -- No other operation gives a loop.
    all_goals simp [Option.bind_eq_some_iff] at found
  | _ => trivial

theorem readsBack : ReadsBack toData (Data.statement? dialect) Readable where
  back {s} readable := by
    cases s with
    | delegateLoop method elementType variableName parameter =>
      have type := TypeRef.readsBack.back readable
      rw [toData, Data.statement?, Data.fields?_table (by simp)]
      simp [Fields.required, Data.statementFields?, Data.fields?_table, type]
    | constructAndWrap arguments =>
      have listed := Data.readsBack_string.list.back fun a (_ : a ∈ arguments) => trivial
      rw [toData, Data.statement?, Data.fields?_table (by simp)]
      simp [Fields.required, Data.statementFields?, Data.fields?_table, listed]
    | _ =>
      rw [toData, Data.statement?, Data.fields?_table (by simp)]
      simp [Fields.required, Data.statementFields?, Data.fields?_table]
  sound {data s} found := by
    unfold Data.statement? at found
    split at found
    · exact readable_of_fields dialect found
    · simp only [bind, Option.bind_eq_some_iff] at found
      obtain ⟨fields, -, operation, -, given⟩ := found
      exact readable_of_fields dialect given
    · cases found

end Statement

theorem ResultType.read_field (returns : Option ResultType) :
    ((returns.map toData).getD .null).nullable? (Data.resultType? dialect) = some returns := by
  cases returns with
  | none => rfl
  | some r => exact congrArg (Option.map some) (r.read_toData dialect)

namespace Member

theorem forall_readable_iff {m : Member} :
    (∀ t ∈ ClassDeclaration.typesOfMember m, t.Readable) ↔
      (∀ p ∈ m.parameters, p.type.Readable) ∧ ∀ s ∈ m.body, s.Readable := by
  simp only [ClassDeclaration.mem_typesOfMember, Statement.readable_iff]
  constructor
  · intro readable
    refine ⟨fun p member => readable _ (.inl ⟨p, member, rfl⟩), ?_⟩
    rintro _ member method elementType variableName parameter rfl
    exact readable _ (.inr ⟨method, variableName, parameter, member⟩)
  · rintro ⟨ofParameters, ofLoops⟩ t (⟨p, member, rfl⟩ | ⟨method, variableName, parameter, member⟩)
    · exact ofParameters p member
    · exact ofLoops _ member _ _ _ _ rfl

theorem readsBack :
    ReadsBack toData (Data.member? dialect)
      (fun m => ∀ t ∈ ClassDeclaration.typesOfMember m, t.Readable) where
  back {m} readable := by
    obtain ⟨ofParameters, ofBody⟩ := forall_readable_iff.1 readable
    obtain ⟨kind, name, modifiers, returns, parameters, body, javadoc, origin⟩ := m
    have modifiersRead :=
      (Modifier.readsBack dialect).list.back fun a (_ : a ∈ modifiers) => trivial
    have returnsRead := ResultType.read_field dialect returns
    have parametersRead := (FormalParameter.readsBack dialect).list.back ofParameters
    have bodyRead := (Statement.readsBack dialect).list.back ofBody
    -- Without a text there is no entry, and an absent entry is read as no text.
    cases javadoc <;> cases origin <;>
      (rw [toData, Data.member?, Data.fields?_table (by simp [optionalEntry])]
       simp [Fields.required, Fields.defaulted, Fields.nullable, optionalEntry, modifiersRead,
         returnsRead, parametersRead, bodyRead])
  sound {data m} found := by
    simp only [Data.member?, bind, Option.bind_eq_some_iff] at found
    obtain ⟨fields, -, kind, -, name, -, modifiers, -, returns, -, parameters, givenParameters,
      body, givenBody, javadoc, -, origin, -, same⟩ := found
    obtain rfl := Option.some.inj same
    exact forall_readable_iff.2
      ⟨(FormalParameter.readsBack dialect).list.of_required givenParameters,
        (Statement.readsBack dialect).list.of_required givenBody⟩

end Member

section Texts

open Json (Plain)

theorem QualifiedName.plain (n : Nat) (name : QualifiedName) : Plain (n + 1) name.toData :=
  .table (by simp [Plain.string])

theorem FormalParameter.plain (n : Nat) (p : FormalParameter) : Plain (n + 1) p.toData :=
  .table (by simp [TypeRef.plain, Plain.string, Plain.bool])

theorem Statement.plain (n : Nat) (s : Statement) : Plain (n + 2) s.toData := by
  cases s with
  | constructAndWrap arguments =>
    exact .table (by simp [Plain.map (fun a => .string a), Plain.string])
  | _ => exact .table (by simp [TypeRef.plain, Plain.string, Plain.bool])

theorem Modifier.plain (n : Nat) (m : Modifier) : Plain n m.toData :=
  .string m.keyword

theorem ResultType.plain_field (n : Nat) (returns : Option ResultType) :
    Plain n ((returns.map toData).getD .null) := by
  cases returns with
  | none => exact .null
  | some r => exact .string r.name

theorem plain_optionalEntry (n : Nat) (name : String) (text : Option String) :
    ∀ e ∈ optionalEntry name text, Plain n e.2 := by
  cases text with
  | none => nofun
  | some text => simp [optionalEntry, Plain.string]

theorem Member.plain (n : Nat) (m : Member) : Plain (n + 4) m.toData := by
  have modifiers := Plain.map (Modifier.plain (n + 2)) m.modifiers
  have parameters := Plain.map (FormalParameter.plain (n + 1)) m.parameters
  have body := Plain.map (Statement.plain n) m.body
  refine .table (List.forall_mem_append.2 ⟨List.forall_mem_append.2 ⟨?_, ?_⟩, ?_⟩)
  · simp [MemberKind.toData, Plain.string, ResultType.plain_field, modifiers, parameters, body]
  · exact plain_optionalEntry _ _ _
  · exact plain_optionalEntry _ _ _

theorem Plan.plain (n : Nat) (plan : Plan) : Plain (n + 6) plan.toData :=
  .table (by simp [QualifiedName.plain, TypeRef.plain, Plain.map (Member.plain n), Plain.string])

end Texts

namespace Plan

def types (plan : Plan) : List TypeRef :=
  plan.delegateType :: plan.members.flatMap ClassDeclaration.typesOfMember

theorem readsBack :
    ReadsBack toData (Data.plan? dialect) (fun plan => ∀ t ∈ plan.types, t.Readable) where
  back {plan} readable := by
    rw [types, List.forall_mem_cons, List.forall_mem_flatMap] at readable
    have delegateRead := TypeRef.readsBack.back readable.1
    have membersRead := (Member.readsBack dialect).list.back readable.2
    rw [toData, Data.plan?, Data.fields?_table (by simp)]
    simp [Fields.required, delegateRead, membersRead]
  sound {data plan} found := by
    simp only [Data.plan?, bind, Option.bind_eq_some_iff] at found
    obtain ⟨fields, -, source, -, generated, -, fieldName, -, delegateType, givenDelegate, members,
      givenMembers, same⟩ := found
    obtain rfl := Option.some.inj same
    rw [types, List.forall_mem_cons, List.forall_mem_flatMap]
    exact ⟨TypeRef.readsBack.of_required givenDelegate,
      (Member.readsBack dialect).list.of_required givenMembers⟩

end Plan

/-- Plans and source types are read back from the data they are written as exactly if all types in
them can be read from a spelling, and what was read from any data can be written and read again.
Written out as JSON, the data is read back from the text. -/
theorem encodings_read_back :
    (∀ plan : Plan, plan.toData.plan? dialect = some plan ↔
      ∀ t ∈ plan.types, ∃ spelling, TypeRef.parse spelling = .ok t) ∧
    (∀ source : SourceType, source.toData.sourceType? dialect = some source ↔
      ∀ t ∈ source.types, ∃ spelling, TypeRef.parse spelling = .ok t) ∧
    (∀ (data : Data) (plan : Plan), data.plan? dialect = some plan →
      plan.toData.plan? dialect = some plan) ∧
    (∀ (data : Data) (source : SourceType), data.sourceType? dialect = some source →
      source.toData.sourceType? dialect = some source) ∧
    (∀ plan : Plan, Json.read? (Json.pretty 0 plan.toData) = some plan.toData) ∧
    ∀ source : SourceType, Json.read? (Json.pretty 0 source.toData) = some source.toData := by
  simp only [TypeRef.exists_parse_iff]
  refine ⟨fun plan => ?_, fun source => ?_, fun data plan found => ?_, fun data source found => ?_,
    fun plan => ?_, fun source => ?_⟩
  · exact (Plan.readsBack dialect).read_write_iff
  · exact (SourceType.readsBack dialect).read_write_iff
  · exact (Plan.readsBack dialect).again found
  · exact (SourceType.readsBack dialect).again found
  · exact Json.read?_pretty (plan.plain 0) (by decide)
  · exact Json.read?_pretty (source.plain 0) (by decide)

end FluentWrap
