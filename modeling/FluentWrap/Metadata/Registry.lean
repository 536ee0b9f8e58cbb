import FluentWrap.Dictionary
import FluentWrap.Error
import FluentWrap.Event
import FluentWrap.Source.Basic

/-!
Registries: the source types that are known by name. Names keep the order in which they were
first registered; a later description of a name takes the place of the earlier one.
-/

set_option autoImplicit false

namespace FluentWrap

structure Registry where
  /-- In the order in which their names were first registered. -/
  types : List SourceType
  /-- Where among the types the one of a name stands. -/
  index : Dictionary String Nat
  deriving Repr

namespace Registry

def empty : Registry := ⟨[], .empty⟩

instance : Inhabited Registry := ⟨empty⟩

def names (registry : Registry) : List String :=
  registry.types.map SourceType.qualifiedName

/-- Put a description in the place of the one of its name, or at the end. -/
def register (registry : Registry) (source : SourceType) : Registry :=
  match registry.index.get? source.qualifiedName with
  | some position => { registry with types := registry.types.set position source }
  | none =>
    { types := registry.types ++ [source]
      index := registry.index.insert source.qualifiedName registry.types.length }

def registerAll (registry : Registry) (sources : List SourceType) : Registry :=
  sources.foldl register registry

def ofList (sources : List SourceType) : Registry :=
  empty.registerAll sources

def extend (registry other : Registry) : Registry :=
  registry.registerAll other.types

/-- What registering a type reports: a warning if the name is taken. -/
def registerReport (registry : Registry) (source : SourceType) : List Event :=
  if registry.names.contains source.qualifiedName then
    [⟨.warn, "Replacing metadata for " ++ source.qualifiedName, []⟩]
  else []

def registerAllReport (registry : Registry) : List SourceType → List Event
  | [] => []
  | source :: rest =>
    registry.registerReport source ++ (registry.register source).registerAllReport rest

/-- The type of a binary name or else, since nested classes may be asked for as source code
writes them, the first type of that canonical name. -/
def get? (registry : Registry) (name : String) : Option SourceType :=
  match registry.index.get? name with
  | some position => registry.types[position]?
  | none => registry.types.find? fun t => TypeRef.canonicalClass t.qualifiedName = name

def resolve (registry : Registry) (name : String) : Except Error SourceType :=
  match registry.get? name with
  | some source => .ok source
  | none => .error (.unresolved name none)

def size (registry : Registry) : Nat :=
  registry.types.length

def isEmpty (registry : Registry) : Bool :=
  registry.types.isEmpty

end Registry

end FluentWrap
