import FluentWrap.Command.Failure
import FluentWrap.Config.Search

/-!
The command that writes a settings file with the usual settings, each explained.
-/

set_option autoImplicit false

namespace FluentWrap.Command

def usualSettings : String :=
  "# fluentgen configuration

# Package for generated classes. Leave blank to keep each source type's package.
root_package = \"\"

# Where generated sources are written
target_directory = \"target/generated-sources/java\"

# Generated class name: first %s is the package, second the source simple name
filename_pattern = \"%s.Fluent%s\"

# Methods that never get a fluent wrapper
ignored_method_names = []

# Annotate generated classes with @Generated
generated_annotation = true
"

variable {m : Type → Type} [Monad m] [Host m]

/-- Write a settings file into a directory; gives its path. A file that is there is replaced
only by force. -/
def initIn (dir : Path) (force : Bool) : ExceptT Failure m Path := do
  let p := dir.push Config.fileName
  if (← Host.exists? p) && !force then
    throw (.plain "Configuration file already exists. Use --force to overwrite.")
  match ← Host.writeText p usualSettings with
  | .error e => throw ((Failure.plain e.message).within ("Failed to write " ++ p.text))
  | .ok () => pure p

def init (force : Bool) : ExceptT Failure m Unit := do
  let _ ← initIn ⟨"."⟩ force
  Host.print ("Created " ++ Config.fileName ++ " configuration file\n")

end FluentWrap.Command
