import FluentWrap.Command.Failure
import FluentWrap.Config.Search

/-!
The settings of a command: those of the settings file, which a command may name, with what the
command itself demands in their place.
-/

set_option autoImplicit false

namespace FluentWrap

structure Overrides where
  /-- The settings file; without one the nearest is looked for. -/
  config : Option Path := none
  rootPackage : Option String := none
  targetDirectory : Option Path := none
  namePattern : Option String := none
  /-- Ignored beside the methods that the settings file ignores. -/
  ignored : List String := []
  unstamped : Bool := false
  deriving DecidableEq, Repr, Inhabited

namespace Overrides

def apply (overrides : Overrides) (config : Config) : Config where
  rootPackage := overrides.rootPackage.getD config.rootPackage
  targetDirectory := overrides.targetDirectory.getD config.targetDirectory
  namePattern := overrides.namePattern.getD config.namePattern
  ignoredMethods := config.ignoredMethods.insertAll overrides.ignored
  stamped := config.stamped && !overrides.unstamped

@[simp] theorem apply_default (config : Config) : ({} : Overrides).apply config = config := by
  simp [apply, NameSet.insertAll]

end Overrides

namespace Command

variable {m : Type → Type} [Monad m] [Host m]

/-- A part of a command, whose error is told with what was being done. -/
def attempt {α : Type} (what : String) (action : m (Except Error α)) : ExceptT Failure m α :=
  ExceptT.mk (Failure.inside what <$> action)

/-- A result that needs no telling what was being done. -/
def settle {α : Type} (result : Except Error α) : ExceptT Failure m α :=
  ExceptT.mk (pure (result.mapError .ofError))

def baseSettings (overrides : Overrides) : ExceptT Failure m Config :=
  match overrides.config with
  | some p => attempt ("Failed to load config " ++ p.text) (Config.load p)
  | none => attempt ("Failed to load " ++ Config.fileName) Config.loadHere

/-- The settings of a command. What the command demands is not checked here. -/
def settings (overrides : Overrides) : ExceptT Failure m Config := do
  pure (overrides.apply (← baseSettings overrides))

end Command

end FluentWrap
