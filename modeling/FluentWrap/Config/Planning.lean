import FluentWrap.Config.Basic
import FluentWrap.Plan.Planner

/-!
Planning by settings.
-/

set_option autoImplicit false

namespace FluentWrap.Config

/-- The planner of settings whose pattern has been read. Blanks around the package of the
generated classes mean nothing. -/
def planner (config : Config) (pattern : NamePattern) : Planner where
  filter := .ignoring config.ignoredMethods
  pattern := pattern
  rootPackage := String.ofList (Text.trim config.rootPackage.toList)

end FluentWrap.Config
