import FluentWrap.Text.Split

/-!
Qualified names of generated classes: a package and a simple name.
-/

set_option autoImplicit false

namespace FluentWrap

structure QualifiedName where
  package : String
  simpleName : String
  deriving DecidableEq, Repr, Inhabited

namespace QualifiedName

/-- Split a dotted name at its last `.`. -/
def ofDotted (name : String) : QualifiedName :=
  match Text.splitAtLast? '.' name.toList with
  | some (package, simple) => ⟨String.ofList package, String.ofList simple⟩
  | none => ⟨"", name⟩

def display (name : QualifiedName) : String :=
  if name.package = "" then name.simpleName else name.package ++ "." ++ name.simpleName

instance : ToString QualifiedName := ⟨display⟩

end QualifiedName

end FluentWrap
