import FluentWrap.CommandLine.Parse
import FluentWrap.CommandLine.Usage

/-!
Running the program: an exit status, and on the error output whatever went wrong.
-/

set_option autoImplicit false

namespace FluentWrap.CommandLine

open Command Text

inductive ExitStatus where
  | success
  | failure
  /-- The command line was wrong; nothing was run. -/
  | misuse
  deriving DecidableEq, Repr

def ExitStatus.code : ExitStatus → Nat
  | success => 0
  | failure => 1
  | misuse => 2

def Misuse.message : Misuse → String
  | missingArgument => "a required argument was not provided"
  | unknownArgument => "unexpected argument found"
  | badValue => "invalid value for an option"
  | unknownCommand => "unrecognized subcommand"
  | repeated => "an option cannot be used multiple times"
  | surplusValue => "unexpected value for an option"

variable {m : Type → Type} [Monad m] [Host m]

def tell (label : String) (style : Style) (text : String) : m Unit := do
  Host.printError (paint (← Host.styled) style (label ++ ":") ++ " " ++ text ++ "\n")

def tellFailure (failure : Failure) : m Unit := do
  tell "error" .boldRed failure.report
  match failure.hint? with
  | some hint => tell "hint" .boldCyan hint
  | none => pure ()

def tellStop : Stop → m ExitStatus
  | .help command => do
    Host.print (usage command)
    pure .success
  | .version => do
    Host.print versionLine
    pure .success
  | .nothingAsked => do
    Host.printError (usage none)
    pure .misuse
  | .misuse what => do
    Host.printError ("error: " ++ what.message ++ "\n\nFor more information, try '--help'.\n")
    pure .misuse

def runRequest (request : Request) : m ExitStatus := do
  match ← request.run.run with
  | .ok () => pure .success
  | .error failure =>
    tellFailure failure
    pure .failure

def run (arguments : List String) : m ExitStatus :=
  match parse arguments with
  | .error stop => tellStop stop
  | .ok invocation => runRequest invocation.request

end FluentWrap.CommandLine
