import FluentWrap.Data.Fields
import FluentWrap.Files.Path
import FluentWrap.NameSet
import FluentWrap.Naming.Pattern

/-!
Settings of the generator, and their form in structured data.
-/

set_option autoImplicit false

namespace FluentWrap

structure Config where
  /-- Package of the generated classes; a blank one keeps the package of each source. -/
  rootPackage : String
  targetDirectory : Path
  namePattern : String
  /-- Methods that are never wrapped. -/
  ignoredMethods : NameSet
  stamped : Bool
  deriving Repr

namespace Config

def default : Config :=
  ⟨"", ⟨"target/generated-sources/java"⟩, NamePattern.defaultText, .empty, true⟩

instance : Inhabited Config := ⟨default⟩

def toData (config : Config) : Data :=
  .table [
    ("root_package", .string config.rootPackage),
    ("target_directory", .string config.targetDirectory.text),
    ("filename_pattern", .string config.namePattern),
    ("ignored_method_names", .list (config.ignoredMethods.toList.map .string)),
    ("generated_annotation", .bool config.stamped)]

end Config

/-- Settings that are not given have their usual value; unknown settings are refused. -/
def Data.config? (dialect : Dialect) (data : Data) : Option Config := do
  let fields ← data.closedFields? dialect
    ["root_package", "target_directory", "filename_pattern", "ignored_method_names",
      "generated_annotation"]
  let usual := Config.default
  let rootPackage ← fields.defaulted "root_package" usual.rootPackage string?
  let target ← fields.defaulted "target_directory" usual.targetDirectory.text string?
  let namePattern ← fields.defaulted "filename_pattern" usual.namePattern string?
  let ignored ← fields.defaulted "ignored_method_names" usual.ignoredMethods.toList (list? string?)
  let stamped ← fields.defaulted "generated_annotation" usual.stamped bool?
  some ⟨rootPackage, ⟨target⟩, namePattern, .ofList ignored, stamped⟩

end FluentWrap
