import FluentWrap.Class.Declaration
import FluentWrap.NameSet

/-!
Which types a class refers to by their simple names, and which of them it has to import. A name
that two of the types share, or that is the class's own, is written in full.
-/

set_option autoImplicit false

namespace FluentWrap

structure Referenced where
  canonicalName : String
  package : String
  deriving DecidableEq, Repr

namespace Referenced

def lastSegment (canonicalName : String) : String :=
  String.ofList (Text.afterLast (· = '.') canonicalName.toList)

def simpleName (r : Referenced) : String :=
  lastSegment r.canonicalName

/-- Whether classes enclose this one: behind the package there is more than one segment. -/
def isNested (r : Referenced) : Bool :=
  ((r.canonicalName.toList.drop r.package.toList.length).dropWhile (· = '.')).contains '.'

def isImplicit (r : Referenced) (package : String) : Bool :=
  r.package = "" || (!r.isNested && (r.package = "java.lang" || r.package = package))

def stamp : Referenced := ⟨"javax.annotation.Generated", "javax.annotation"⟩

end Referenced

namespace ClassDeclaration

def typesOfMember (m : Member) : List TypeRef :=
  m.parameters.map FormalParameter.type ++ m.body.filterMap fun
    | .delegateLoop _ elementType _ _ => some elementType
    | _ => none

def referencedTypes (c : ClassDeclaration) : List TypeRef :=
  ((c.delegateType :: c.members.flatMap typesOfMember).map TypeRef.base).eraseDups

def referencedClasses (c : ClassDeclaration) : List Referenced :=
  c.referencedTypes.filterMap (fun t => t.package?.map fun p => ⟨t.canonicalName, p⟩)
    ++ (if c.stamp.isSome then [.stamp] else [])

/-- How many of the classes, this one included, have a simple name. -/
def claims (c : ClassDeclaration) (simpleName : String) : Nat :=
  c.referencedClasses.countP (fun r => r.simpleName = simpleName)
    + if c.name.simpleName = simpleName then 1 else 0

def unambiguous (c : ClassDeclaration) : List Referenced :=
  c.referencedClasses.filter fun r => c.claims r.simpleName ≤ 1

def shortened (c : ClassDeclaration) : NameSet :=
  .ofList (c.unambiguous.map Referenced.canonicalName)

def imports (c : ClassDeclaration) : NameSet :=
  .ofList ((c.unambiguous.filter fun r => !r.isImplicit c.name.package).map
    Referenced.canonicalName)

def shortName (c : ClassDeclaration) (canonicalName : String) : String :=
  if c.shortened.contains canonicalName then Referenced.lastSegment canonicalName
  else canonicalName

def spell (c : ClassDeclaration) : TypeRef → String
  | .primitive p => p.keyword
  | .class name => c.shortName (TypeRef.canonicalClass name)
  | .array element => c.spell element ++ "[]"

end ClassDeclaration

end FluentWrap
