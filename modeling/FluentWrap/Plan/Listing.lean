import FluentWrap.Plan.Basic
import FluentWrap.Text.Style

/-!
Listings of plans for people: a heading, a line for each member, and a warning if nothing can
create the wrapper.
-/

set_option autoImplicit false

namespace FluentWrap

open Text (paint)

namespace FormalParameter

def listing (p : FormalParameter) : String :=
  p.type.simpleName ++ (if p.varargs then "..." else "") ++ " " ++ p.name

end FormalParameter

namespace Plan

/-- The type of a member in a listing; a member without one leaves it out. -/
def returnsListing (plan : Plan) (m : Member) : String :=
  match m.returns with
  | some .wrapper => plan.generated.simpleName
  | some .delegate => plan.delegateType.simpleName
  | none => ""

/-- What stands before the parentheses of a member: modifiers, result and name. -/
def headListing (plan : Plan) (m : Member) : String :=
  " ".intercalate (m.modifiers.map Modifier.keyword) ++ " "
    ++ if m.kind.isConstructor then plan.generated.simpleName
      else plan.returnsListing m ++ " " ++ m.name

def memberListing (plan : Plan) (m : Member) : String :=
  plan.headListing m
    ++ if m.kind.isField then ""
      else "(" ++ ", ".intercalate (m.parameters.map FormalParameter.listing) ++ ")"

def kindWidth : Nat := 24

def kindColumn (k : MemberKind) : String :=
  String.ofList (k.name.toList.rightpad kindWidth ' ')

def originListing (styled : Bool) : Option String → String
  | some origin => "  " ++ paint styled .dim ("<- " ++ origin)
  | none => ""

def memberLine (plan : Plan) (styled : Bool) (m : Member) : String :=
  "  " ++ paint styled .cyan (kindColumn m.kind) ++ " " ++ plan.memberListing m
    ++ originListing styled m.origin ++ "\n"

def listing (plan : Plan) (styled : Bool) : String :=
  paint styled .boldBlue "Plan" ++ " " ++ plan.source ++ " -> "
    ++ paint styled .boldGreen plan.generated.display ++ "\n"
    ++ String.join (plan.members.map (plan.memberLine styled))
    ++ if plan.hasFactories then ""
      else
        paint styled .yellow "warning: no public constructors, the wrapper has no factory" ++ "\n"

end Plan

end FluentWrap
