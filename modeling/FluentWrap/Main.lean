import FluentWrap.CommandLine.Run
import FluentWrap.Host.Clock
import Std.Time.DateTime.Timestamp

/-!
The program, run in the surroundings of the operating system.
-/

set_option autoImplicit false

namespace FluentWrap.Program

/-- Actions that know from which level on events are shown. -/
abbrev Action := ReaderT Level IO

/-- The number of a failure. Some accesses give it with the opposite sign. -/
def failureNumber (number : UInt32) : Nat :=
  if number < 0x80000000 then number.toNat else (0 - number).toNat

/-- A failure that the operating system knows by a number. -/
def systemFailure (number : UInt32) (details : String) : IoError :=
  match failureNumber number with
  | 2 => .notFound
  | 17 => .alreadyExists
  | 20 => .notDirectory
  | 21 => .isDirectory
  | 36 => .nameTooLong
  | n => .other (details.capitalize ++ " (os error " ++ toString n ++ ")")

def ioFailure (e : IO.Error) : IoError :=
  match e with
  | .alreadyExists _ n details | .invalidArgument _ n details | .permissionDenied _ n details
  | .resourceExhausted _ n details | .inappropriateType _ n details | .noSuchThing _ n details
  | .interrupted _ n details | .noFileOrDirectory _ n details | .otherError n details
  | .resourceBusy n details | .resourceVanished n details | .unsupportedOperation n details
  | .hardwareFault n details | .unsatisfiedConstraints n details | .illegalOperation n details
  | .protocolError n details | .timeExpired n details => systemFailure n details
  | .unexpectedEof => .other "failed to fill whole buffer"
  | .userError text => .other text

def access {α : Type} (action : IO α) : Action (Except IoError α) := fun _ => do
  match ← action.toBaseIO with
  | .ok a => pure (.ok a)
  | .error e => pure (.error (ioFailure e))

def kindOf (metadata : IO.FS.Metadata) : EntryKind :=
  if metadata.type == IO.FS.FileType.dir then .directory else .file

def readText (p : Path) : Action (Except IoError String) := do
  match ← access (IO.FS.readBinFile p.text) with
  | .error e => pure (.error e)
  | .ok bytes =>
    match String.fromUTF8? bytes with
    | some text => pure (.ok text)
    | none => pure (.error .invalidText)

/-- Make a file under a new name in a directory and remove it at once. Other names are tried while
there is a file of the name, but not without end. -/
def makeTemporary (dir : Path) : Nat → IO (Except IoError Unit)
  | 0 => pure (.error ((IoError.other "too many temporary files exist").located dir.text))
  | attempts + 1 => do
    let p := dir.push (".tmp" ++ toString (← IO.rand 100000 999999))
    match ← (IO.FS.Handle.mk p.text .writeNew).toBaseIO with
    | .ok _ =>
      -- A file that cannot be removed is left, and that is no failure.
      let _ ← (IO.FS.removeFile p.text).toBaseIO
      pure (.ok ())
    | .error (.alreadyExists ..) => makeTemporary dir attempts
    | .error e => pure (.error ((ioFailure e).located p.text))

/-- Whether an environment variable has a value other than `0`. -/
def isSet? (name : String) : IO (Option Bool) := do
  pure ((← IO.getEnv name).map (· != "0"))

def onTerminal : IO Bool := do
  (← IO.getStdout).isTty

/-- Styles are used on a terminal, unless the environment decides otherwise. -/
def styled : IO Bool := do
  if (← isSet? "CLICOLOR_FORCE") = some true then pure true
  else if (← isSet? "NO_COLOR").isSome then pure false
  else pure ((← onTerminal) && (← isSet? "CLICOLOR").getD true)

def eventLine (event : Event) : String :=
  let details := event.details.map fun (name, value) => name ++ "=" ++ value
  " ".intercalate (event.level.name :: event.message :: details)

instance : Host Action where
  workingDirectory := access (do pure ⟨(← IO.currentDir).toString⟩)
  stat p := access (do pure (kindOf (← (System.mkFilePath [p.text]).metadata)))
  readText := readText
  writeText p text := access (IO.FS.writeFile p.text text)
  makeDir p := access (IO.FS.createDir p.text)
  makeTemporary dir := do
    match ← access IO.currentDir with
    | .error e => pure (.error e)
    | .ok here => makeTemporary ((⟨here.toString⟩ : Path).push dir.text) 65536
  timestamp := do
    let now ← Std.Time.Timestamp.now
    pure (Clock.timestamp now.toSecondsSinceUnixEpoch.val.toNat)
  report event := do
    if (← read).rank ≤ event.level.rank then IO.eprintln (eventLine event)
  styled := styled
  onTerminal := onTerminal
  print text := do
    IO.print text
    (← IO.getStdout).flush
  printError text := IO.eprint text

/-- From which level on events are shown for a command line. -/
def shownFrom (arguments : List String) : Level :=
  match CommandLine.parse arguments with
  | .ok invocation => .ofVerbosity invocation.verbosity
  | .error _ => .ofVerbosity 0

def run (arguments : List String) : IO CommandLine.ExitStatus :=
  (CommandLine.run (m := Action) arguments).run (shownFrom arguments)

end FluentWrap.Program

def main (arguments : List String) : IO UInt32 := do
  pure (UInt32.ofNat (← FluentWrap.Program.run arguments).code)
