import FluentWrap.Naming.QualifiedName
import FluentWrap.Plan.Member

/-!
Plans: the complete description of one generated class, from which source code is written.
-/

set_option autoImplicit false

namespace FluentWrap

structure Plan where
  /-- Binary name of the wrapped type. -/
  source : String
  generated : QualifiedName
  fieldName : String
  delegateType : TypeRef
  members : List Member
  deriving DecidableEq, Repr

namespace Plan

def membersOf (plan : Plan) (kind : MemberKind) : List Member :=
  plan.members.filter fun m => m.kind = kind

/-- The number of generated methods and constructors: everything but the field. -/
def methodCount (plan : Plan) : Nat :=
  plan.members.countP fun m => !m.kind.isField

def hasFactories (plan : Plan) : Bool :=
  plan.members.any fun m => m.kind = .factory

def named (plan : Plan) (name : String) : List Member :=
  plan.members.filter fun m => m.name = name

end Plan

end FluentWrap
