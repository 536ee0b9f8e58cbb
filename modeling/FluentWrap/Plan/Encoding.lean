import FluentWrap.Plan.Basic
import FluentWrap.TypeRef.Encoding

/-!
Plans in structured data. A statement is a record with its operation as the first field.
-/

set_option autoImplicit false

namespace FluentWrap

def MemberKind.toData (k : MemberKind) : Data :=
  .string k.name

def Data.memberKind? (dialect : Dialect) (data : Data) : Option MemberKind :=
  data.constant? dialect MemberKind.ofName?

def Modifier.toData (m : Modifier) : Data :=
  .string m.keyword

def Data.modifier? (dialect : Dialect) (data : Data) : Option Modifier :=
  data.constant? dialect Modifier.ofKeyword?

def ResultType.toData (r : ResultType) : Data :=
  .string r.name

def Data.resultType? (dialect : Dialect) (data : Data) : Option ResultType :=
  data.constant? dialect ResultType.ofName?

def QualifiedName.toData (name : QualifiedName) : Data :=
  .table [("package", .string name.package), ("simple_name", .string name.simpleName)]

def Data.qualifiedName? (dialect : Dialect) (data : Data) : Option QualifiedName := do
  let fields ← data.fields? dialect ["package", "simple_name"]
  let package ← fields.required "package" string?
  let simpleName ← fields.required "simple_name" string?
  some ⟨package, simpleName⟩

def FormalParameter.toData (p : FormalParameter) : Data :=
  .table [
    ("name", .string p.name),
    ("type", p.type.toData),
    ("varargs", .bool p.varargs),
    ("final", .bool p.isFinal)]

def Data.formalParameter? (dialect : Dialect) (data : Data) : Option FormalParameter := do
  let fields ← data.fields? dialect ["name", "type", "varargs", "final"]
  let name ← fields.required "name" string?
  let type ← fields.required "type" typeRef?
  let varargs ← fields.defaulted "varargs" false bool?
  let isFinal ← fields.defaulted "final" false bool?
  some ⟨name, type, varargs, isFinal⟩

def Statement.toData : Statement → Data
  | assignField parameter =>
    .table [("op", .string "assign_field"), ("parameter", .string parameter)]
  | returnField => .table [("op", .string "return_field")]
  | delegateCall method argument =>
    .table [
      ("op", .string "delegate_call"),
      ("method", .string method),
      ("argument", .string argument)]
  | delegateLoop method elementType variableName parameter =>
    .table [
      ("op", .string "delegate_call_in_loop"),
      ("method", .string method),
      ("element_type", elementType.toData),
      ("variable", .string variableName),
      ("parameter", .string parameter)]
  | constructAndWrap arguments =>
    .table [("op", .string "construct_and_wrap"), ("arguments", .list (arguments.map .string))]
  | returnSelf => .table [("op", .string "return_self")]
  | returnSelfCall method argument =>
    .table [
      ("op", .string "return_self_invocation"),
      ("method", .string method),
      ("argument", .bool argument)]

def Data.statementFields? (dialect : Dialect) (operation : String) (rest : Data) :
    Option Statement :=
  match operation with
  | "assign_field" => do
    let fields ← rest.fields? dialect ["parameter"]
    some (.assignField (← fields.required "parameter" string?))
  | "return_field" => do
    let _ ← rest.fields? dialect []
    some .returnField
  | "delegate_call" => do
    let fields ← rest.fields? dialect ["method", "argument"]
    let method ← fields.required "method" string?
    let argument ← fields.required "argument" string?
    some (.delegateCall method argument)
  | "delegate_call_in_loop" => do
    let fields ← rest.fields? dialect ["method", "element_type", "variable", "parameter"]
    let method ← fields.required "method" string?
    let elementType ← fields.required "element_type" typeRef?
    let variableName ← fields.required "variable" string?
    let parameter ← fields.required "parameter" string?
    some (.delegateLoop method elementType variableName parameter)
  | "construct_and_wrap" => do
    let fields ← rest.fields? dialect ["arguments"]
    some (.constructAndWrap (← fields.required "arguments" (list? string?)))
  | "return_self" => do
    let _ ← rest.fields? dialect []
    some .returnSelf
  | "return_self_invocation" => do
    let fields ← rest.fields? dialect ["method", "argument"]
    let method ← fields.required "method" string?
    let argument ← fields.required "argument" bool?
    some (.returnSelfCall method argument)
  | _ => none

/-- A statement as a table that holds its operation, or as a list that begins with it. -/
def Data.statement? (dialect : Dialect) : Data → Option Statement
  | list (string operation :: rest) => statementFields? dialect operation (list rest)
  | table entries => do
    let fields ← (table entries).fields? dialect ["op"]
    let operation ← fields.required "op" string?
    statementFields? dialect operation (table (entries.filter fun e => e.1 != "op"))
  | _ => none

def optionalEntry (name : String) : Option String → List (String × Data)
  | none => []
  | some text => [(name, .string text)]

def Member.toData (m : Member) : Data :=
  .table (
    [("kind", m.kind.toData),
      ("name", .string m.name),
      ("modifiers", .list (m.modifiers.map Modifier.toData)),
      ("returns", (m.returns.map ResultType.toData).getD .null),
      ("parameters", .list (m.parameters.map FormalParameter.toData)),
      ("body", .list (m.body.map Statement.toData))]
    ++ optionalEntry "javadoc" m.javadoc ++ optionalEntry "origin" m.origin)

def Data.member? (dialect : Dialect) (data : Data) : Option Member := do
  let fields ← data.fields? dialect
    ["kind", "name", "modifiers", "returns", "parameters", "body", "javadoc", "origin"]
  let kind ← fields.required "kind" (memberKind? dialect)
  let name ← fields.required "name" string?
  let modifiers ← fields.required "modifiers" (list? (modifier? dialect))
  let returns ← fields.nullable "returns" (resultType? dialect)
  let parameters ← fields.required "parameters" (list? (formalParameter? dialect))
  let body ← fields.required "body" (list? (statement? dialect))
  let javadoc ← fields.defaulted "javadoc" none (nullable? string?)
  let origin ← fields.defaulted "origin" none (nullable? string?)
  some ⟨kind, name, modifiers, returns, parameters, body, javadoc, origin⟩

def Plan.toData (plan : Plan) : Data :=
  .table [
    ("source", .string plan.source),
    ("generated", plan.generated.toData),
    ("field_name", .string plan.fieldName),
    ("delegate_type", plan.delegateType.toData),
    ("members", .list (plan.members.map Member.toData))]

def Data.plan? (dialect : Dialect) (data : Data) : Option Plan := do
  let fields ← data.fields? dialect
    ["source", "generated", "field_name", "delegate_type", "members"]
  let source ← fields.required "source" string?
  let generated ← fields.required "generated" (qualifiedName? dialect)
  let fieldName ← fields.required "field_name" string?
  let delegateType ← fields.required "delegate_type" typeRef?
  let members ← fields.required "members" (list? (member? dialect))
  some ⟨source, generated, fieldName, delegateType, members⟩

end FluentWrap
