import FluentWrap.Event
import FluentWrap.Files.Tree

/-!
What the program asks of its surroundings: access to files, the time, two output streams, and a
place to report events to.
-/

set_option autoImplicit false

namespace FluentWrap

class Host (m : Type → Type) where
  workingDirectory : m (Except IoError Path)
  stat : Path → m (Except IoError EntryKind)
  readText : Path → m (Except IoError String)
  writeText : Path → String → m (Except IoError Unit)
  makeDir : Path → m (Except IoError Unit)
  /-- Make a file under a new name in a directory and remove it at once, which shows whether the
  directory takes files. -/
  makeTemporary : Path → m (Except IoError Unit)
  /-- The present moment in Coordinated Universal Time, to the second. -/
  timestamp : m String
  report : Event → m Unit
  styled : m Bool
  onTerminal : m Bool
  print : String → m Unit
  printError : String → m Unit

namespace Host

variable {m : Type → Type} [Monad m] [Host m]

/-- Actions that may stop with an error have the same surroundings. -/
instance {ε : Type} : Host (ExceptT ε m) where
  workingDirectory := ExceptT.lift workingDirectory
  stat p := ExceptT.lift (stat p)
  readText p := ExceptT.lift (readText p)
  writeText p text := ExceptT.lift (writeText p text)
  makeDir p := ExceptT.lift (makeDir p)
  makeTemporary dir := ExceptT.lift (makeTemporary dir)
  timestamp := ExceptT.lift timestamp
  report event := ExceptT.lift (report event)
  styled := ExceptT.lift styled
  onTerminal := ExceptT.lift onTerminal
  print text := ExceptT.lift (print text)
  printError text := ExceptT.lift (printError text)

def reportAll (events : List Event) : m Unit :=
  events.forM report

def exists? (p : Path) : m Bool := do
  match ← stat p with
  | .ok _ => pure true
  | .error _ => pure false

def isFile (p : Path) : m Bool := do
  match ← stat p with
  | .ok .file => pure true
  | _ => pure false

def isDirectory (p : Path) : m Bool := do
  match ← stat p with
  | .ok .directory => pure true
  | _ => pure false

/-- The outcome of making a directory; that it was there before is no failure. -/
def tolerate (p : Path) (made : Except IoError Unit) : m (Except IoError Unit) := do
  match made with
  | .error .alreadyExists =>
    if ← isDirectory p then pure (.ok ()) else pure (.error .alreadyExists)
  | other => pure other

/-- Make the first of several directories, each of which lies in the next. The others are made
only if it cannot be made without. What has been made stays even if a later one fails. -/
def makeNested : List Path → m (Except IoError Unit)
  | [] => pure (.ok ())
  | p :: outer => do
    match ← makeDir p with
    | .error .notFound =>
      match ← makeNested outer with
      | .error e => pure (.error e)
      | .ok () => do tolerate p (← makeDir p)
    | made => tolerate p made

def makeDirs (p : Path) : m (Except IoError Unit) :=
  makeNested p.nested

end Host

end FluentWrap
