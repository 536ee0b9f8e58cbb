import FluentWrap.Command.Request
import FluentWrap.CommandLine.Scan

/-!
Reading command lines: the first argument names a command, and the others are its options.
-/

set_option autoImplicit false

namespace FluentWrap.CommandLine

open Command

/-- A request, and how many flags ask for more to be told. -/
structure Invocation where
  request : Request
  verbosity : Nat
  deriving DecidableEq, Repr

/-- The number of verbosity flags is counted up to this. -/
def maxVerbosity : Nat := 255

def valuesOf (occurrences : List Occurrence) (topic : Topic) : List String :=
  (occurrences.filter fun o => o.topic = topic).flatMap Occurrence.values

def valueOf? (occurrences : List Occurrence) (topic : Topic) : Option String :=
  (valuesOf occurrences topic).head?

def isGiven (occurrences : List Occurrence) (topic : Topic) : Bool :=
  occurrences.any fun o => o.topic = topic

def verbosity (occurrences : List Occurrence) : Nat :=
  min maxVerbosity (occurrences.countP fun o => o.topic = .verbose)

/-- The names in a comma-separated list; blank ones count. -/
def splitNames (text : String) : List String :=
  (Text.splitOn ',' text.toList).map String.ofList

def overridesOf (occurrences : List Occurrence) : Overrides where
  config := (valueOf? occurrences .config).map Path.mk
  rootPackage := valueOf? occurrences .rootPackage
  targetDirectory := (valueOf? occurrences .targetDir).map Path.mk
  namePattern := valueOf? occurrences .pattern
  ignored := (valuesOf occurrences .ignore).flatMap splitNames
  unstamped := isGiven occurrences .unstamped

def requestOf (command : CommandName) (occurrences : List Occurrence) : Request :=
  let manifests := (valuesOf occurrences .manifest).map Path.mk
  let overrides := overridesOf occurrences
  match command with
  | .generate => .generate ⟨manifests, valuesOf occurrences .type, overrides⟩
  | .plan =>
    let format := (valueOf? occurrences .format).bind PlanFormat.ofName?
    let type := (valueOf? occurrences .type).getD ""
    .plan ⟨manifests, type, format.getD .terminal, overrides⟩
  | .init => .init (isGiven occurrences .force)

def parseCommand (command : CommandName) (arguments : List String) : Except Stop Invocation := do
  let occurrences ← scan command {} arguments
  if command.required.all (isGiven occurrences) then
    .ok ⟨requestOf command occurrences, verbosity occurrences⟩
  else .error (.misuse .missingArgument)

def helpWord : String := "help"

def isCommandWord (word : String) : Bool :=
  word = helpWord || (CommandName.ofWord? word).isSome

def helpFor : List String → Stop
  | [] => .help none
  | [word] =>
    if isCommandWord word then .help (CommandName.ofWord? word) else .misuse .unknownCommand
  | _ => .misuse .unknownCommand

def generalStop (spec : Option OptionSpec) : Stop :=
  match spec with
  | none => .misuse .unknownArgument
  | some spec => if spec.topic = .version then .version else .help none

def generalLongStop (name : String) (value : Option String) : Stop :=
  match generalOptions.find? fun spec => spec.long = name with
  | none => .misuse .unknownArgument
  | some spec => if value.isSome then .misuse .surplusValue else generalStop spec

def generalShortStop (letters : List Char) : Stop :=
  generalStop (generalOptions.find? fun spec => spec.short = letters.head?)

/-- What plain words after two dashes come to: a command does not stand there. -/
def escapedStop : List String → Stop
  | [] => .nothingAsked
  | word :: _ => .misuse (if isCommandWord word then .unknownArgument else .unknownCommand)

def parse : List String → Except Stop Invocation
  | [] => .error .nothingAsked
  | first :: rest =>
    match Argument.ofText first with
    | .escape => .error (escapedStop rest)
    | .long name value => .error (generalLongStop name value)
    | .short letters => .error (generalShortStop letters)
    | .plain word =>
      match CommandName.ofWord? word with
      | some command => parseCommand command rest
      | none => .error (if word = helpWord then helpFor rest else .misuse .unknownCommand)

end FluentWrap.CommandLine
