import FluentWrap.Proofs.Data.Records
import FluentWrap.Proofs.Json.Texts
import FluentWrap.Proofs.TypeRef.Spelling
import FluentWrap.Source.Encoding

/-!
Source types are read back from the data they are written as, in either notation, as far as the
types of their parameters can be read.
-/

set_option autoImplicit false

namespace FluentWrap

variable (dialect : Dialect)

theorem TypeRef.readsBack : ReadsBack toData Data.typeRef? Readable where
  back {t} readable := by
    rw [toData, Data.typeRef?, Data.string?_string, Option.bind_some,
      parse_spelling_of_readable readable]
    rfl
  sound {data t} found := by
    obtain ⟨spelling, -, parsed⟩ := Option.bind_eq_some_iff.1 found
    cases read : parse spelling with
    | error e =>
      rw [read] at parsed
      cases parsed
    | ok u =>
      rw [read] at parsed
      obtain rfl := Option.some.inj parsed
      exact readable_of_parse read

theorem Data.word?_toNat (word : UInt64) : (integer word.toNat).word? = some word := by
  have small : (word.toNat : Int) < UInt64.size := Int.ofNat_lt.2 word.toNat_lt
  dsimp only [word?]
  rw [if_pos ⟨Int.natCast_nonneg _, small⟩, Int.toNat_natCast, UInt64.ofNat_toNat]

@[simp] theorem Visibility.read_toData (v : Visibility) :
    v.toData.visibility? dialect = some v :=
  ofName?_name v

/-- The data of both fields is left open here, since the bound of a word must not be computed. -/
theorem Data.parameter?_table {spelled placed : Data} {type : TypeRef} {position : UInt64}
    (typeRead : spelled.typeRef? = some type) (positionRead : placed.word? = some position) :
    (table [("type", spelled), ("position", placed)]).parameter? dialect =
      some ⟨type, position⟩ := by
  rw [parameter?, fields?_table (by simp)]
  simp [Fields.required, typeRead, positionRead]

theorem Parameter.readsBack :
    ReadsBack toData (Data.parameter? dialect) (fun p => p.type.Readable) where
  back {p} readable := by
    have type := TypeRef.readsBack.back readable
    exact Data.parameter?_table dialect type (Data.word?_toNat p.position)
  sound {data p} found := by
    simp only [Data.parameter?, bind, Option.bind_eq_some_iff] at found
    obtain ⟨fields, -, type, given, position, -, same⟩ := found
    obtain rfl := Option.some.inj same
    exact TypeRef.readsBack.of_required given

theorem Constructor.readsBack :
    ReadsBack toData (Data.constructor? dialect) (fun c => ∀ p ∈ c.parameters, p.type.Readable)
    where
  back {c} readable := by
    have parameters := (Parameter.readsBack dialect).list.back readable
    rw [toData, Data.constructor?, Data.fields?_table (by simp)]
    simp [Fields.required, Fields.defaulted, parameters]
  sound {data c} found := by
    simp only [Data.constructor?, bind, Option.bind_eq_some_iff] at found
    obtain ⟨fields, -, parameters, given, visibility, -, synthetic, -, same⟩ := found
    obtain rfl := Option.some.inj same
    exact (Parameter.readsBack dialect).list.of_required given

theorem Method.readsBack :
    ReadsBack toData (Data.method? dialect) (fun m => ∀ p ∈ m.parameters, p.type.Readable) where
  back {m} readable := by
    have parameters := (Parameter.readsBack dialect).list.back readable
    rw [toData, Data.method?, Data.fields?_table (by simp)]
    simp [Fields.required, Fields.defaulted, parameters]
  sound {data m} found := by
    simp only [Data.method?, bind, Option.bind_eq_some_iff] at found
    obtain ⟨fields, -, name, -, visibility, -, returnsVoid, -, parameters, given, deprecated, -,
      synthetic, -, bridge, -, same⟩ := found
    obtain rfl := Option.some.inj same
    exact (Parameter.readsBack dialect).list.of_required given

section Texts

open Json (Plain)

theorem TypeRef.plain (n : Nat) (t : TypeRef) : Plain n t.toData :=
  .string t.spelling

theorem Parameter.plain (n : Nat) (p : Parameter) : Plain (n + 1) p.toData :=
  .table (by simp [TypeRef.plain, Plain.integer])

theorem Constructor.plain (n : Nat) (c : Constructor) : Plain (n + 3) c.toData :=
  .table (by simp [Plain.map (Parameter.plain n), Visibility.toData, Plain.string, Plain.bool])

theorem Method.plain (n : Nat) (m : Method) : Plain (n + 3) m.toData :=
  .table (by simp [Plain.map (Parameter.plain n), Visibility.toData, Plain.string, Plain.bool])

theorem SourceType.plain (n : Nat) (source : SourceType) : Plain (n + 5) source.toData :=
  .table (by simp [Plain.map (Constructor.plain n), Plain.map (Method.plain n), Plain.string])

end Texts

namespace SourceType

def types (source : SourceType) : List TypeRef :=
  (source.constructors.flatMap fun c => c.parameters.map Parameter.type)
    ++ source.methods.flatMap fun m => m.parameters.map Parameter.type

theorem forall_types_iff {source : SourceType} {P : TypeRef → Prop} :
    (∀ t ∈ source.types, P t) ↔
      (∀ c ∈ source.constructors, ∀ p ∈ c.parameters, P p.type) ∧
        ∀ m ∈ source.methods, ∀ p ∈ m.parameters, P p.type := by
  simp only [types, List.forall_mem_append, List.forall_mem_flatMap, List.forall_mem_map]

theorem readsBack :
    ReadsBack toData (Data.sourceType? dialect) (fun source => ∀ t ∈ source.types, t.Readable)
    where
  back {source} readable := by
    obtain ⟨ofConstructors, ofMethods⟩ := forall_types_iff.1 readable
    have constructors := (Constructor.readsBack dialect).list.back ofConstructors
    have methods := (Method.readsBack dialect).list.back ofMethods
    rw [toData, Data.sourceType?, Data.fields?_table (by simp)]
    simp [Fields.required, Fields.defaulted, constructors, methods]
  sound {data source} found := by
    simp only [Data.sourceType?, bind, Option.bind_eq_some_iff] at found
    obtain ⟨fields, -, qualifiedName, -, simpleName, -, constructors, givenConstructors, methods,
      givenMethods, same⟩ := found
    obtain rfl := Option.some.inj same
    refine forall_types_iff.2 ⟨?_, ?_⟩
    · exact (Constructor.readsBack dialect).list.of_defaulted (List.forall_mem_nil _)
        givenConstructors
    · exact (Method.readsBack dialect).list.of_defaulted (List.forall_mem_nil _) givenMethods

end SourceType

end FluentWrap
