import FluentWrap.Class.Source
import FluentWrap.Dictionary
import FluentWrap.Host.Basic

/-!
Code models: the declared classes of a run, under distinct names, and writing them out.
-/

set_option autoImplicit false

namespace FluentWrap

structure CodeModel where
  classes : List ClassDeclaration
  /-- Where among the classes the one of a name stands. -/
  index : Dictionary QualifiedName Nat
  /-- What every newly declared class is stamped with. -/
  stamp : Option Stamp
  deriving Repr

namespace CodeModel

def stampedWith (stamp : Option Stamp) : CodeModel :=
  ⟨[], .empty, stamp⟩

def names (model : CodeModel) : List QualifiedName :=
  model.classes.map ClassDeclaration.name

def find? (model : CodeModel) (name : QualifiedName) : Option ClassDeclaration :=
  (model.index.get? name).bind fun position => model.classes[position]?

/-- The class that a plan describes, declared but not yet part of the model. -/
def stage (model : CodeModel) (plan : Plan) : Except Error ClassDeclaration :=
  if model.index.contains plan.generated then
    .error (.conflict plan.generated.display "class")
  else
    match ClassDeclaration.open? plan.generated plan.delegateType plan.fieldName with
    | .error e => .error e
    | .ok c =>
      match ClassDeclaration.declareAll { c with stamp := model.stamp } plan.members with
      | (.error e, _) => .error e
      | (.ok (), c) => .ok c

def define (model : CodeModel) (plan : Plan) : Attempt CodeModel QualifiedName :=
  match model.stage plan with
  | .error e => (.error e, model)
  | .ok c =>
    (.ok c.name, { model with
      index := model.index.insert c.name model.classes.length
      classes := model.classes ++ [c] })

/-- Take a step on the class of a name; `none` if there is no such class. -/
def onClass? {α : Type} (model : CodeModel) (name : QualifiedName)
    (step : ClassDeclaration → Attempt ClassDeclaration α) : Option (Attempt CodeModel α) :=
  (model.index.get? name).bind fun position =>
    (model.classes[position]?).map fun c =>
      ((step c).1, { model with classes := model.classes.set position (step c).2 })

/-- Where the source file of a class lies below a directory: package segments, then the name. -/
def sourcePath (dir : Path) (name : QualifiedName) : Path :=
  let packageDir :=
    if name.package = "" then dir
    else
      ((Text.splitOn '.' name.package.toList).map String.ofList).foldl Path.push dir
  packageDir.push (name.simpleName ++ ".java")

variable {m : Type → Type} [Monad m] [Host m]

def writeClass (dir : Path) (c : ClassDeclaration) : m (Except Error Path) := do
  let path := sourcePath dir c.name
  let made ← match path.parent? with
    | none => pure (.ok ())
    | some parent => do
      pure ((← Host.makeDirs parent).mapError fun e => Error.emission parent.text e.message)
  match made with
  | .error e => pure (.error e)
  | .ok () =>
    match ← Host.writeText path c.source with
    | .error e => pure (.error (.emission path.text e.message))
    | .ok () =>
      Host.report ⟨.debug, "Wrote " ++ path.text, []⟩
      pure (.ok path)

def writeAll (dir : Path) : List ClassDeclaration → m (Except Error (List Path))
  | [] => pure (.ok [])
  | c :: rest => do
    match ← writeClass dir c with
    | .error e => pure (.error e)
    | .ok path => do
      pure ((← writeAll dir rest).map (path :: ·))

def build (model : CodeModel) (dir : Path) : m (Except Error (List Path)) :=
  writeAll dir model.classes

end CodeModel

end FluentWrap
