import FluentWrap.Command.Settings
import FluentWrap.Generator
import FluentWrap.Metadata.Manifest
import FluentWrap.Text.Style

/-!
The command that writes wrapper classes. A type that collides or yields a name of no use is
skipped: the others are still written, and then the command fails and tells what was skipped.
-/

set_option autoImplicit false

namespace FluentWrap.Command

structure GenerateRequest where
  manifests : List Path
  /-- The types to generate; none at all stands for every type of the manifests. -/
  types : List String
  overrides : Overrides
  deriving DecidableEq, Repr

structure Skipped where
  type : String
  reason : Error
  deriving DecidableEq, Repr

variable {m : Type → Type} [Monad m] [Host m]

def tellSkipped (skipped : Skipped) : m Unit := do
  Host.report ⟨.warn, "Skipping type",
    [("source", skipped.type), ("error", skipped.reason.message)]⟩
  Host.printError
    (Text.paint (← Host.styled) .boldYellow "skipped" ++ " " ++ skipped.type ++ ": "
      ++ skipped.reason.message ++ "\n")

/-- Add types one after the other. A failure that concerns one type only skips that type. -/
def addAll (registry : Registry) :
    List String → Generator → ExceptT Failure m (Generator × List Skipped)
  | [], g => pure (g, [])
  | name :: rest, g => do
    match ← g.addNamedReporting registry.resolve name with
    | (.ok _, g) => addAll registry rest g
    | (.error e, g) =>
      if e.isTypeScoped then
        tellSkipped ⟨name, e⟩
        let (g, skipped) ← addAll registry rest g
        pure (g, ⟨name, e⟩ :: skipped)
      else throw ((Failure.ofError e).within ("Failed to add " ++ name))

/-- The failure of a command that skipped types. The first of them gives the reason. -/
def skippedFailure? (count : Nat) : List Skipped → Option Failure
  | [] => none
  | first :: rest =>
    some ((Failure.ofError first.reason).within
      ("Skipped " ++ toString (rest.length + 1) ++ " of " ++ toString count ++ " types: "
        ++ ", ".intercalate ((first :: rest).map Skipped.type)))

def generate (request : GenerateRequest) : ExceptT Failure m (List Path) := do
  let config ← settings request.overrides
  let registry ← attempt "Failed to load manifests" (Manifest.loadAll request.manifests)
  let types := if request.types.isEmpty then registry.names else request.types
  if types.isEmpty then
    throw (.plain "No types to generate: the manifests describe no types")
  let g ← attempt "Invalid generator configuration" (Generator.openAt config)
  let (g, skipped) ← addAll registry types g
  let written ← attempt "Failed to write sources" g.generate
  written.forM fun p => Host.print (p.text ++ "\n")
  match skippedFailure? types.length skipped with
  | some failure => throw failure
  | none => pure written

end FluentWrap.Command
