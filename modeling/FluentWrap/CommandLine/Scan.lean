import FluentWrap.CommandLine.Option
import FluentWrap.Text.Split

/-!
Reading the arguments of a command as occurrences of its options. An option is judged as soon as
its values are complete, which for an option of many values is when the next option begins.
-/

set_option autoImplicit false

namespace FluentWrap.CommandLine

inductive Misuse where
  | missingArgument
  | unknownArgument
  | badValue
  | unknownCommand
  | repeated
  /-- A value for an option that takes none. -/
  | surplusValue
  deriving DecidableEq, Repr

inductive Stop where
  | misuse (what : Misuse)
  /-- The usage of a command, or of the whole program, was asked for. -/
  | help (command : Option CommandName)
  | version
  /-- There are no arguments at all. -/
  | nothingAsked
  deriving DecidableEq, Repr

inductive Argument where
  /-- Two dashes alone: everything that follows is plain. -/
  | escape
  | long (name : String) (value : Option String)
  /-- Letters behind one dash, never none. -/
  | short (letters : List Char)
  | plain (text : String)
  deriving DecidableEq, Repr

/-- A long name, with a value where there is a `=`. -/
def Argument.ofLong (body : List Char) : Argument :=
  let name := body.takeWhile (· != '=')
  match body.dropWhile (· != '=') with
  | [] => .long (String.ofList name) none
  | _ :: value => .long (String.ofList name) (some (String.ofList value))

def Argument.ofText (text : String) : Argument :=
  match text.toList with
  | ['-', '-'] => .escape
  | '-' :: '-' :: body => .ofLong body
  | '-' :: c :: letters => .short (c :: letters)
  | _ => .plain text

structure Occurrence where
  topic : Topic
  values : List String
  deriving DecidableEq, Repr

structure Pending where
  spec : OptionSpec
  values : List String

/-- Whether a further value belongs to the option. -/
def Pending.isOpen (pending : Pending) : Bool :=
  pending.spec.arity = .many || pending.values.isEmpty

/-- What has been read: judged occurrences, and the option that is still to be judged. -/
structure Progress where
  settled : List Occurrence := []
  pending : Option Pending := none

namespace Progress

/-- Judge an option with all of its values. The order of the checks decides which fault is
told. -/
def judge (command : CommandName) (settled : List Occurrence) (spec : OptionSpec)
    (values : List String) : Except Stop (List Occurrence) :=
  if spec.topic = .help then .error (.help command)
  else if spec.topic = .version then .error .version
  else if spec.takesValue && values.isEmpty then .error (.misuse .badValue)
  else if !spec.repeatable && settled.any (fun o => o.topic = spec.topic) then
    .error (.misuse .repeated)
  else if !values.all spec.accepts then .error (.misuse .badValue)
  else .ok (settled ++ [⟨spec.topic, values⟩])

def close (command : CommandName) (progress : Progress) : Except Stop (List Occurrence) :=
  match progress.pending with
  | none => .ok progress.settled
  | some pending => judge command progress.settled pending.spec pending.values

def take (command : CommandName) (progress : Progress) (spec : OptionSpec)
    (values : List String) : Except Stop Progress := do
  let settled ← progress.close command
  .ok ⟨← judge command settled spec values, none⟩

def expect (command : CommandName) (progress : Progress) (spec : OptionSpec) :
    Except Stop Progress := do
  .ok ⟨← progress.close command, some ⟨spec, []⟩⟩

/-- Read letters behind a dash. What follows the letter of an option with a value is its value,
after a `=` or not. -/
def readShort (command : CommandName) (progress : Progress) :
    List Char → Except Stop Progress
  | [] => .ok progress
  | c :: rest =>
    match command.options.find? fun spec => spec.short = some c with
    | none => .error (.misuse .unknownArgument)
    | some spec =>
      if !spec.takesValue then do readShort command (← progress.take command spec []) rest
      else
        match rest with
        -- The value is the next argument.
        | [] => progress.expect command spec
        | '=' :: value => progress.take command spec [String.ofList value]
        | value => progress.take command spec [String.ofList value]

def readLong (command : CommandName) (progress : Progress) (name : String)
    (value : Option String) : Except Stop Progress :=
  match command.options.find? fun spec => spec.long = name with
  | none => .error (.misuse .unknownArgument)
  | some spec =>
    match spec.takesValue, value with
    | false, none => progress.take command spec []
    | false, some _ => .error (.misuse .surplusValue)
    | true, none => progress.expect command spec
    | true, some value => progress.take command spec [value]

/-- A plain argument belongs to the option whose values are being collected. -/
def readPlain (progress : Progress) (text : String) : Except Stop Progress :=
  match progress.pending with
  | none => .error (.misuse .unknownArgument)
  | some pending =>
    if pending.isOpen then
      .ok { progress with pending := some { pending with values := pending.values ++ [text] } }
    else .error (.misuse .unknownArgument)

end Progress

/-- The occurrences of options in the arguments of a command. No command takes plain arguments
of its own, so that nothing may follow two dashes. -/
def scan (command : CommandName) (progress : Progress) :
    List String → Except Stop (List Occurrence)
  | [] => progress.close command
  | arg :: rest =>
    match Argument.ofText arg with
    | .escape =>
      if rest.isEmpty then progress.close command else .error (.misuse .unknownArgument)
    | .long name value => do scan command (← progress.readLong command name value) rest
    | .short letters => do scan command (← progress.readShort command letters) rest
    | .plain text => do scan command (← progress.readPlain text) rest

end FluentWrap.CommandLine
