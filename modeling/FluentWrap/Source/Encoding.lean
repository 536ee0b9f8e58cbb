import FluentWrap.Source.Basic
import FluentWrap.TypeRef.Encoding

/-!
Source types in structured data. Visibility and marks may be left out when reading.
-/

set_option autoImplicit false

namespace FluentWrap

def Visibility.toData (v : Visibility) : Data :=
  .string v.name

def Data.visibility? (dialect : Dialect) (data : Data) : Option Visibility :=
  data.constant? dialect Visibility.ofName?

def Parameter.toData (p : Parameter) : Data :=
  .table [("type", p.type.toData), ("position", .integer p.position.toNat)]

def Data.parameter? (dialect : Dialect) (data : Data) : Option Parameter := do
  let fields ← data.fields? dialect ["type", "position"]
  let type ← fields.required "type" typeRef?
  let position ← fields.required "position" word?
  some ⟨type, position⟩

def Constructor.toData (c : Constructor) : Data :=
  .table [
    ("parameters", .list (c.parameters.map Parameter.toData)),
    ("visibility", c.visibility.toData),
    ("synthetic", .bool c.synthetic)]

def Data.constructor? (dialect : Dialect) (data : Data) : Option Constructor := do
  let fields ← data.fields? dialect ["parameters", "visibility", "synthetic"]
  let parameters ← fields.required "parameters" (list? (parameter? dialect))
  let visibility ← fields.defaulted "visibility" .everyone (visibility? dialect)
  let synthetic ← fields.defaulted "synthetic" false bool?
  some ⟨parameters, visibility, synthetic⟩

def Method.toData (m : Method) : Data :=
  .table [
    ("name", .string m.name),
    ("visibility", m.visibility.toData),
    ("returns_void", .bool m.returnsVoid),
    ("parameters", .list (m.parameters.map Parameter.toData)),
    ("deprecated", .bool m.deprecated),
    ("synthetic", .bool m.synthetic),
    ("bridge", .bool m.bridge)]

def Data.method? (dialect : Dialect) (data : Data) : Option Method := do
  let fields ← data.fields? dialect
    ["name", "visibility", "returns_void", "parameters", "deprecated", "synthetic", "bridge"]
  let name ← fields.required "name" string?
  let visibility ← fields.defaulted "visibility" .everyone (visibility? dialect)
  let returnsVoid ← fields.required "returns_void" bool?
  let parameters ← fields.required "parameters" (list? (parameter? dialect))
  let deprecated ← fields.defaulted "deprecated" false bool?
  let synthetic ← fields.defaulted "synthetic" false bool?
  let bridge ← fields.defaulted "bridge" false bool?
  some ⟨name, visibility, returnsVoid, parameters, deprecated, synthetic, bridge⟩

def SourceType.toData (source : SourceType) : Data :=
  .table [
    ("qualified_name", .string source.qualifiedName),
    ("simple_name", .string source.simpleName),
    ("constructors", .list (source.constructors.map Constructor.toData)),
    ("methods", .list (source.methods.map Method.toData))]

def Data.sourceType? (dialect : Dialect) (data : Data) : Option SourceType := do
  let fields ← data.fields? dialect ["qualified_name", "simple_name", "constructors", "methods"]
  let qualifiedName ← fields.required "qualified_name" string?
  let simpleName ← fields.required "simple_name" string?
  let constructors ← fields.defaulted "constructors" [] (list? (constructor? dialect))
  let methods ← fields.defaulted "methods" [] (list? (method? dialect))
  some ⟨qualifiedName, simpleName, constructors, methods⟩

end FluentWrap
