import FluentWrap.Config.Validation
import FluentWrap.Host.Basic
import FluentWrap.Toml.Reader

/-!
Finding and reading the settings file: a file of a fixed name in a directory or in one of those
above it, no more than ten directories in all.
-/

set_option autoImplicit false

namespace FluentWrap.Config

def fileName : String := ".fluentgen.toml"

def searchDepth : Nat := 10

def read (text : String) : Except Error Config := do
  match (Toml.read? text).bind (Data.config? .toml) with
  | none =>
    .error (.configuration
      ("Failed to parse " ++ fileName ++ ": the text does not describe settings"))
  | some config =>
    config.validate
    .ok config

def candidates (start : Path) : List Path :=
  (Path.ancestors searchDepth start).map fun dir => dir.push fileName

variable {m : Type → Type} [Monad m] [Host m]

def load (p : Path) : m (Except Error Config) := do
  match ← Host.readText p with
  | .error e =>
    pure (.error (.configuration ("Failed to read " ++ p.text ++ ": " ++ e.message)))
  | .ok text =>
    match read text with
    | .error e => pure (.error e)
    | .ok config =>
      Host.report ⟨.debug, "Loaded config from " ++ p.text, []⟩
      pure (.ok config)

/-- Read the settings of a file that may be missing; what is no file counts as missing. -/
def load? (p : Path) : m (Option (Except Error Config)) := do
  match ← Host.stat p with
  | .ok .file => some <$> load p
  | .ok .directory => pure none
  | .error .notFound => pure none
  | .error e =>
    Host.report ⟨.warn, "Failed to read config file " ++ p.text ++ ": " ++ e.message, []⟩
    pure none

def findAmong : List Path → m (Option Path)
  | [] => pure none
  | p :: rest => do
    if ← Host.isFile p then pure (some p) else findAmong rest

def find (start : Path) : m (Option Path) :=
  findAmong (candidates start)

def loadAmong : List Path → m (Option (Except Error Config))
  | [] => pure none
  | p :: rest => do
    match ← load? p with
    | some result => pure (some result)
    | none => loadAmong rest

/-- The settings of the nearest file at or above a directory, or the usual ones. -/
def loadFrom (start : Path) : m (Except Error Config) := do
  match ← loadAmong (candidates start) with
  | some result => pure result
  | none =>
    Host.report ⟨.debug,
      "No config found after checking " ++ toString searchDepth
        ++ " directories. Using default config.", []⟩
    pure (.ok .default)

def loadHere : m (Except Error Config) := do
  match ← Host.workingDirectory with
  | .ok dir => loadFrom dir
  | .error e =>
    Host.report ⟨.warn,
      "Failed to get current directory: " ++ e.message ++ ". Using default config.", []⟩
    pure (.ok .default)

end FluentWrap.Config
