import FluentWrap.Host.Basic

/-!
Sessions: surroundings as a value. Everything a program does to a session can be read off it
afterwards.
-/

set_option autoImplicit false

namespace FluentWrap

namespace Session

def pathOf (place : Place) : Path :=
  if place = [] then ⟨"/"⟩ else ⟨String.join (place.map ("/" ++ ·))⟩

/-- A name for a file that is removed at once. Any other six characters may stand behind the
mark. -/
def temporaryName : String := ".tmp000000"

def temporaryPath (workingDir : Place) (dir : Path) : Path :=
  ((pathOf workingDir).push dir.text).push temporaryName

/-- Whether a directory takes files, as far as its path and the tree tell. -/
def makeTemporary (files : FileTree) (workingDir : Place) (dir : Path) : Except IoError Unit :=
  let p := temporaryPath workingDir dir
  match files.locateLast workingDir p with
  | .ok _ => .ok ()
  | .error e => .error (e.located p.text)

end Session

structure Session where
  files : FileTree := .empty
  workingDir : Place := []
  /-- What comes of making a file in a directory and removing it. A system refuses it for reasons
  that no tree shows, such as foreign owners and read-only mounts. -/
  temporary : FileTree → Place → Path → Except IoError Unit := Session.makeTemporary
  clock : String := "1970-01-01T00:00:00Z"
  /-- Events in the order in which they were reported. -/
  events : List Event := []
  styled : Bool := false
  onTerminal : Bool := false
  output : String := ""
  errorOutput : String := ""
  deriving Inhabited

namespace Session

def probe (s : Session) (dir : Path) : Except IoError Unit :=
  s.temporary s.files s.workingDir dir

abbrev Action := StateM Session

instance : Host Action where
  workingDirectory := fun s => (.ok (pathOf s.workingDir), s)
  stat p := fun s => (s.files.stat s.workingDir p, s)
  readText p := fun s => (s.files.readText s.workingDir p, s)
  writeText p text := fun s =>
    match s.files.writeText s.workingDir p text with
    | .ok files => (.ok (), { s with files })
    | .error e => (.error e, s)
  makeDir p := fun s =>
    match s.files.makeDir s.workingDir p with
    | .ok files => (.ok (), { s with files })
    | .error e => (.error e, s)
  -- The file is gone again, so that nothing shows.
  makeTemporary dir := fun s => (s.probe dir, s)
  timestamp := fun s => (s.clock, s)
  report event := fun s => ((), { s with events := s.events ++ [event] })
  styled := fun s => (s.styled, s)
  onTerminal := fun s => (s.onTerminal, s)
  print text := fun s => ((), { s with output := s.output ++ text })
  printError text := fun s => ((), { s with errorOutput := s.errorOutput ++ text })

end Session

end FluentWrap
