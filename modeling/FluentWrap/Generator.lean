import FluentWrap.Class.Model
import FluentWrap.Config.Planning
import FluentWrap.Config.Validation
import FluentWrap.Metadata.Registry

/-!
Generators: source types are added one by one, each planned, declared and remembered, and at the
end all classes are written at once. A type that cannot be added leaves no trace.
-/

set_option autoImplicit false

namespace FluentWrap

structure Registration where
  handle : QualifiedName
  plan : Plan
  deriving DecidableEq, Repr

structure Generator where
  config : Config
  planner : Planner
  model : CodeModel
  /-- By the name of the added type. -/
  registry : Dictionary String Registration
  registered : List String
  deriving Repr

namespace Generator

def start (config : Config) (pattern : NamePattern) (model : CodeModel) : Generator where
  config := config
  planner := config.planner pattern
  model := model
  registry := .empty
  registered := []

def registration (g : Generator) (name : String) : Except Error Registration :=
  match g.registry.get? name with
  | some r => .ok r
  | none => .error (.notRegistered name)

def handle (g : Generator) (name : String) : Except Error QualifiedName :=
  (g.registration name).map Registration.handle

def planFor (g : Generator) (name : String) : Except Error Plan :=
  (g.registration name).map Registration.plan

def definedClass (g : Generator) (name : String) : Except Error ClassDeclaration :=
  match g.handle name with
  | .error e => .error e
  | .ok handle =>
    match g.model.find? handle with
    | some c => .ok c
    | none => .error (.notRegistered name)

def plan (g : Generator) (source : SourceType) : Plan :=
  g.planner.plan source

def add (g : Generator) (source : SourceType) : Attempt Generator QualifiedName :=
  match g.model.define (g.plan source) with
  | (.error e, model) => (.error e, { g with model })
  | (.ok handle, model) =>
    (.ok handle, { g with
      model
      registered := g.registered ++ [source.qualifiedName]
      registry := g.registry.insert source.qualifiedName ⟨handle, g.plan source⟩ })

def addReport (g : Generator) (source : SourceType) : List Event :=
  g.planner.report source ++
    match (g.add source).1 with
    | .error _ => []
    | .ok handle =>
      [⟨.info, "Added class",
        [("source", source.qualifiedName),
          ("generated", handle.display),
          ("methods", toString (g.plan source).methodCount)]⟩]

/-- The source type that a provider knows by a name. A provider's own failure becomes the cause
of the failure to resolve the name. -/
def resolveThrough (resolve : String → Except Error SourceType) (name : String) :
    Except Error SourceType :=
  match resolve name with
  | .ok source => .ok source
  | .error (.unresolved n cause) => .error (.unresolved n cause)
  | .error e => .error (.unresolved name (some e.message))

def addNamed (g : Generator) (resolve : String → Except Error SourceType) (name : String) :
    Attempt Generator QualifiedName :=
  match resolveThrough resolve name with
  | .error e => (.error e, g)
  | .ok source => g.add source

def onClass {α : Type} (g : Generator) (name : String)
    (step : ClassDeclaration → Attempt ClassDeclaration α) : Attempt Generator α :=
  match g.handle name with
  | .error e => (.error e, g)
  | .ok handle =>
    match g.model.onClass? handle step with
    | none => (.error (.notRegistered name), g)
    | some (result, model) => (result, { g with model })

def declareIn (g : Generator) (name : String) (m : Member) : Attempt Generator Unit :=
  g.onClass name fun c => c.declare m

def restamp (g : Generator) (name : String) (stamp : Option Stamp) : Attempt Generator Unit :=
  g.onClass name fun c => c.restamp stamp

section Surroundings

variable {m : Type → Type} [Monad m] [Host m]

def targetError (dir : Path) (what : String) : Error :=
  .configuration ("target directory '" ++ dir.text ++ "' " ++ what)

/-- Make a directory for the sources, unless something lies at its path. -/
def makeTarget (dir : Path) : m (Except Error Unit) := do
  if ← Host.exists? dir then pure (.ok ())
  else
    match ← Host.makeDirs dir with
    | .error e => pure (.error (targetError dir ("could not be created: " ++ e.message)))
    | .ok () =>
      Host.report ⟨.debug, "Created target directory " ++ dir.text, []⟩
      pure (.ok ())

/-- Make sure that what lies at a path is a directory that takes files. -/
def checkTarget (dir : Path) : m (Except Error Unit) := do
  match ← Host.stat dir with
  | .error e => pure (.error (targetError dir ("is not accessible: " ++ e.message)))
  | .ok .file => pure (.error (targetError dir "is not a directory"))
  | .ok .directory =>
    match ← Host.makeTemporary dir with
    | .error e => pure (.error (targetError dir ("is not writable: " ++ e.message)))
    | .ok () => pure (.ok ())

def prepareTarget (dir : Path) : m (Except Error Unit) := do
  match ← makeTarget dir with
  | .error e => pure (.error e)
  | .ok () => checkTarget dir

/-- A generator for valid settings, over a model. The target directory is there afterwards and
takes files. -/
def openWith (config : Config) (model : CodeModel) : m (Except Error Generator) := do
  match config.validate with
  | .error e => pure (.error e)
  | .ok () =>
    match config.pattern with
    | .error e => pure (.error e)
    | .ok pattern =>
      match ← prepareTarget config.targetDirectory with
      | .error e => pure (.error e)
      | .ok () => pure (.ok (start config pattern model))

/-- A generator whose classes are stamped with the present moment, if the settings ask for
stamps. -/
def openAt (config : Config) : m (Except Error Generator) := do
  if config.stamped then
    openWith config (.stampedWith (some (.dated (← Host.timestamp))))
  else openWith config (.stampedWith none)

def addReporting (g : Generator) (source : SourceType) : m (Attempt Generator QualifiedName) := do
  Host.reportAll (g.addReport source)
  pure (g.add source)

def addNamedReporting (g : Generator) (resolve : String → Except Error SourceType)
    (name : String) : m (Attempt Generator QualifiedName) := do
  match resolveThrough resolve name with
  | .error _ => pure ()
  | .ok source => Host.reportAll (g.addReport source)
  pure (g.addNamed resolve name)

def generate (g : Generator) : m (Except Error (List Path)) := do
  match ← g.model.build g.config.targetDirectory with
  | .error e => pure (.error e)
  | .ok written =>
    Host.report ⟨.info, "Generated sources",
      [("files", toString written.length), ("target", g.config.targetDirectory.text)]⟩
    pure (.ok written)

end Surroundings

end Generator

end FluentWrap
