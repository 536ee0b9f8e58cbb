import FluentWrap.Host.Basic
import FluentWrap.Json.Reader
import FluentWrap.Metadata.Registry
import FluentWrap.Source.Encoding
import FluentWrap.Toml.Reader

/-!
Manifests: files in JSON or TOML that describe source types. Members are public, without result
and unmarked unless the manifest says otherwise; entries of unknown names are refused.
-/

set_option autoImplicit false

namespace FluentWrap

namespace Manifest

inductive Format where
  | json
  | toml
  deriving DecidableEq, Repr

/-- A file whose extension is `toml`, in letters of any case, is TOML; all others are JSON. -/
def Format.ofPath (p : Path) : Format :=
  match p.extension? with
  | some extension =>
    if extension.toList.map Char.toLower = "toml".toList then toml else json
  | none => json

structure ConstructorEntry where
  parameters : List String
  visibility : Visibility
  synthetic : Bool
  deriving DecidableEq, Repr

structure MethodEntry where
  name : String
  parameters : List String
  visibility : Visibility
  returns : Option String
  deprecated : Bool
  synthetic : Bool
  bridge : Bool
  deriving DecidableEq, Repr

structure TypeEntry where
  name : String
  constructors : List ConstructorEntry
  methods : List MethodEntry
  deriving DecidableEq, Repr

end Manifest

open Manifest in
def Data.manifestConstructor? (dialect : Dialect) (data : Data) : Option ConstructorEntry := do
  let fields ← data.closedFields? dialect ["parameters", "visibility", "synthetic"]
  let parameters ← fields.defaulted "parameters" [] (list? string?)
  let visibility ← fields.defaulted "visibility" .everyone (visibility? dialect)
  let synthetic ← fields.defaulted "synthetic" false bool?
  some ⟨parameters, visibility, synthetic⟩

open Manifest in
def Data.manifestMethod? (dialect : Dialect) (data : Data) : Option MethodEntry := do
  let fields ← data.closedFields? dialect
    ["name", "parameters", "visibility", "returns", "deprecated", "synthetic", "bridge"]
  let name ← fields.required "name" string?
  let parameters ← fields.defaulted "parameters" [] (list? string?)
  let visibility ← fields.defaulted "visibility" .everyone (visibility? dialect)
  let returns ← fields.nullable "returns" string?
  let deprecated ← fields.defaulted "deprecated" false bool?
  let synthetic ← fields.defaulted "synthetic" false bool?
  let bridge ← fields.defaulted "bridge" false bool?
  some ⟨name, parameters, visibility, returns, deprecated, synthetic, bridge⟩

open Manifest in
def Data.manifestType? (dialect : Dialect) (data : Data) : Option TypeEntry := do
  let fields ← data.closedFields? dialect ["name", "constructors", "methods"]
  let name ← fields.required "name" string?
  let constructors ← fields.defaulted "constructors" [] (list? (manifestConstructor? dialect))
  let methods ← fields.defaulted "methods" [] (list? (manifestMethod? dialect))
  some ⟨name, constructors, methods⟩

open Manifest in
def Data.manifest? (dialect : Dialect) (data : Data) : Option (List TypeEntry) := do
  let fields ← data.closedFields? dialect ["types"]
  fields.defaulted "types" [] (list? (manifestType? dialect))

namespace Manifest

inductive EntryProblem where
  | notAClass (name : String)
  /-- A spelling that is no type, in a constructor or in the method of the name. -/
  | badType (typeName member : String) (spelling : String) (cause : TypeRef.ParseError)
  deriving DecidableEq, Repr

def EntryProblem.message : EntryProblem → String
  | notAClass name => "'" ++ name ++ "' is not a class name"
  | badType typeName member spelling cause =>
    typeName ++ " " ++ member ++ ": " ++ cause.message spelling

def isClassName (name : String) : Bool :=
  match TypeRef.parse name with
  | .ok (.class _) => true
  | _ => false

def typesOf (typeName member : String) (spellings : List String) :
    Except EntryProblem (List TypeRef) :=
  (TypeRef.parseAll spellings).mapError fun (s, e) => .badType typeName member s e

def ConstructorEntry.toConstructor (typeName : String) (entry : ConstructorEntry) :
    Except EntryProblem Constructor := do
  let types ← typesOf typeName "constructor" entry.parameters
  .ok { Constructor.ofTypes types with
    visibility := entry.visibility, synthetic := entry.synthetic }

/-- Whether a result is none: it is absent, or the word `void`. -/
def isVoid (returns : Option String) : Bool :=
  match returns with
  | none => true
  | some s => Text.trim s.toList = "void".toList

def MethodEntry.toMethod (typeName : String) (entry : MethodEntry) :
    Except EntryProblem Method := do
  let types ← typesOf typeName entry.name entry.parameters
  if !isVoid entry.returns then
    let _ ← typesOf typeName entry.name entry.returns.toList
  .ok { Method.ofTypes entry.name types with
    visibility := entry.visibility
    returnsVoid := isVoid entry.returns
    deprecated := entry.deprecated
    synthetic := entry.synthetic
    bridge := entry.bridge }

/-- The source type of an entry. Its name is kept in the spelling of the manifest. -/
def TypeEntry.toSourceType (entry : TypeEntry) : Except EntryProblem SourceType :=
  if isClassName entry.name then do
    let constructors ← entry.constructors.mapM (ConstructorEntry.toConstructor entry.name)
    let methods ← entry.methods.mapM (MethodEntry.toMethod entry.name)
    .ok { SourceType.ofName entry.name with constructors, methods }
  else .error (.notAClass entry.name)

def readEntries? : Format → String → Option (List TypeEntry)
  | .json, text => (Json.read? text).bind (Data.manifest? .json)
  | .toml, text => (Toml.read? text).bind (Data.manifest? .toml)

def Format.problem : Format → String
  | json => "invalid JSON: the text does not describe types"
  | toml => "invalid TOML: the text does not describe types"

/-- The source types of a manifest text, in its order. The path is named in errors. -/
def read (format : Format) (path : Option String) (text : String) :
    Except Error (List SourceType) :=
  match readEntries? format text with
  | none => .error (.metadata path format.problem)
  | some entries =>
    (entries.mapM TypeEntry.toSourceType).mapError fun problem =>
      .metadata path problem.message

variable {m : Type → Type} [Monad m] [Host m]

def load (p : Path) : m (Except Error Registry) := do
  match ← Host.readText p with
  | .error e => pure (.error (.metadata (some p.text) ("cannot read manifest: " ++ e.message)))
  | .ok text =>
    match read (.ofPath p) (some p.text) text with
    | .error e => pure (.error e)
    | .ok sources =>
      Host.report ⟨.debug, "Loaded " ++ toString sources.length ++ " types from " ++ p.text, []⟩
      Host.reportAll (Registry.empty.registerAllReport sources)
      pure (.ok (.ofList sources))

/-- Add the types of several files to a registry; later files win. -/
def loadInto (registry : Registry) : List Path → m (Except Error Registry)
  | [] => pure (.ok registry)
  | p :: rest => do
    match ← load p with
    | .error e => pure (.error e)
    | .ok loaded =>
      Host.reportAll (registry.registerAllReport loaded.types)
      loadInto (registry.extend loaded) rest

def loadAll (paths : List Path) : m (Except Error Registry) :=
  loadInto .empty paths

end Manifest

end FluentWrap
