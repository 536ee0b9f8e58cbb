import FluentWrap.Error
import FluentWrap.Naming.Identifier
import FluentWrap.Plan.Basic

/-!
Declared classes. A class accepts a member only if every name it brings is an identifier and no
member of the same key has been declared before.
-/

set_option autoImplicit false

namespace FluentWrap

/-- The stamp of a generated class: an annotation that tells by which program and when the class
was generated. -/
structure Stamp where
  value : String
  date : String
  deriving DecidableEq, Repr

namespace Stamp

def generatorName : String := "fluentgen"

def dated (date : String) : Stamp :=
  ⟨generatorName, date⟩

end Stamp

/-- What tells the members of a class apart. -/
inductive MemberKey where
  | field (name : String)
  | method (name : String) (signature : List TypeRef)
  | constructor (signature : List TypeRef)
  deriving DecidableEq, Repr

def Member.key (m : Member) : MemberKey :=
  if m.kind.isField then .field m.name
  else if m.kind.isConstructor then .constructor m.signature
  else .method m.name m.signature

structure ClassDeclaration where
  name : QualifiedName
  delegateType : TypeRef
  fieldName : String
  stamp : Option Stamp
  members : List Member
  /-- The keys that are taken, each once. -/
  keys : List MemberKey
  deriving DecidableEq, Repr

namespace ClassDeclaration

/-- A class without members around a field for the delegate. -/
def open? (name : QualifiedName) (delegateType : TypeRef) (fieldName : String) :
    Except Error ClassDeclaration :=
  if name.package ≠ "" ∧ !Naming.isPackage name.package then
    .error (.invalidIdentifier name.display name.package "package")
  else if !Naming.isIdentifier name.simpleName then
    .error (.invalidIdentifier name.display name.simpleName "class name")
  else if !Naming.isIdentifier fieldName then
    .error (.invalidIdentifier name.display fieldName "delegate field")
  else .ok ⟨name, delegateType, fieldName, none, [], []⟩

/-- The first parameter whose name is no identifier or was used before. -/
def badParameter? (used : List String) : List FormalParameter → Option String
  | [] => none
  | p :: rest =>
    if !Naming.isIdentifier p.name || used.contains p.name then some p.name
    else badParameter? (p.name :: used) rest

/-- The first name of a statement that cannot be used beside the parameters. -/
def badName? (parameters : List String) : Statement → Option String
  | .delegateCall method _ | .returnSelfCall method _ =>
    if Naming.isIdentifier method then none else some method
  | .delegateLoop method _ variableName _ =>
    if !Naming.isIdentifier method then some method
    else if !Naming.isIdentifier variableName || parameters.contains variableName then
      some variableName
    else none
  | _ => none

def badIdentifier? (m : Member) : Option String :=
  if !m.kind.isConstructor && !Naming.isIdentifier m.name then some m.name
  else
    match badParameter? [] m.parameters with
    | some name => some name
    | none => m.body.findSome? (badName? (m.parameters.map FormalParameter.name))

def declare (c : ClassDeclaration) (m : Member) : Attempt ClassDeclaration Unit :=
  match badIdentifier? m with
  | some name =>
    (.error (.invalidIdentifier c.name.display name (m.origin.getD m.kind.name)), c)
  | none =>
    if c.keys.contains m.key then (.error (.conflict c.name.display m.signatureDisplay), c)
    else (.ok (), { c with members := c.members ++ [m], keys := c.keys.insert m.key })

def declareAll (c : ClassDeclaration) : List Member → Attempt ClassDeclaration Unit
  | [] => (.ok (), c)
  | m :: rest =>
    match c.declare m with
    | (.error e, c) => (.error e, c)
    | (.ok (), c) => c.declareAll rest

/-- Change the stamp; `none` takes it away. -/
def restamp (c : ClassDeclaration) (stamp : Option Stamp) : Attempt ClassDeclaration Unit :=
  (.ok (), { c with stamp })

end ClassDeclaration

end FluentWrap
