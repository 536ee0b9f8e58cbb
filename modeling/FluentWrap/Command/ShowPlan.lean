import FluentWrap.Command.Settings
import FluentWrap.Config.Planning
import FluentWrap.Json.Printer
import FluentWrap.Metadata.Manifest
import FluentWrap.Plan.Encoding
import FluentWrap.Plan.Listing

/-!
The command that shows the plan of one type, as a listing or in JSON. Nothing is written.
-/

set_option autoImplicit false

namespace FluentWrap.Command

inductive PlanFormat where
  | terminal
  | json
  deriving DecidableEq, Repr

namespace PlanFormat

def all : List PlanFormat := [terminal, json]

def name : PlanFormat → String
  | terminal => "terminal"
  | json => "json"

def ofName? (name : String) : Option PlanFormat :=
  all.find? fun f => f.name == name

@[simp] theorem ofName?_name (f : PlanFormat) : ofName? f.name = some f := by
  cases f <;> decide

end PlanFormat

structure PlanRequest where
  manifests : List Path
  type : String
  format : PlanFormat
  overrides : Overrides
  deriving DecidableEq, Repr

def showPlan (format : PlanFormat) (styled : Bool) (plan : Plan) : String :=
  match format with
  | .json => Json.pretty 0 plan.toData ++ "\n"
  | .terminal => plan.listing styled

variable {m : Type → Type} [Monad m] [Host m]

/-- Show the plan of a type. The settings are checked before any manifest is read. -/
def plan (request : PlanRequest) : ExceptT Failure m Unit := do
  let config ← settings request.overrides
  attempt "Invalid generator configuration" (pure config.validate)
  let registry ← attempt "Failed to load manifests" (Manifest.loadAll request.manifests)
  let source ← settle (registry.resolve request.type)
  let planner := config.planner (← settle config.pattern)
  Host.reportAll (planner.report source)
  let styled := (← Host.onTerminal) && (← Host.styled)
  Host.print (showPlan request.format styled (planner.plan source))

end FluentWrap.Command
