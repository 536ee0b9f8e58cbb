/-!
The ways in which generation fails, each with its code and its message.
-/

set_option autoImplicit false

namespace FluentWrap

inductive Error where
  | configuration (problem : String)
  /-- No description is known for the type. The text of a deeper cause may be attached. -/
  | unresolved (name : String) (cause : Option String)
  /-- Two members of one class, or two classes, would collide. -/
  | conflict (className member : String)
  | invalidIdentifier (className identifier origin : String)
  | emission (path cause : String)
  | notRegistered (name : String)
  /-- A manifest cannot be read or makes no sense. -/
  | metadata (path : Option String) (problem : String)
  deriving DecidableEq, Repr

namespace Error

def code : Error → String
  | emission .. => "E001"
  | metadata .. => "E010"
  | configuration .. => "E020"
  | unresolved .. => "E030"
  | conflict .. => "E040"
  | invalidIdentifier .. => "E041"
  | notRegistered .. => "E050"

def message : Error → String
  | configuration problem => "Configuration error: " ++ problem
  | unresolved name _ => "Cannot resolve type '" ++ name ++ "'"
  | conflict className member =>
    "Generation conflict in " ++ className ++ ": " ++ member ++ " is already declared"
  | invalidIdentifier className identifier origin =>
    "Invalid identifier '" ++ identifier ++ "' in " ++ className
      ++ " (derived from " ++ origin ++ ")"
  | emission path cause => "Failed to write " ++ path ++ ": " ++ cause
  | notRegistered name => "Type '" ++ name ++ "' was not added to the generator"
  | metadata none problem => "Metadata error: " ++ problem
  | metadata (some path) problem => "Metadata error in " ++ path ++ ": " ++ problem

/-- The text of what lies behind the failure, where that is a failure of its own. -/
def cause? : Error → Option String
  | unresolved _ cause => cause
  | emission _ cause => some cause
  | _ => none

/-- Whether a change of input or settings can help; a failed write lies in the surroundings. -/
def isUserFixable : Error → Bool
  | emission .. => false
  | _ => true

/-- Whether the failure concerns one type only, so that the others can still be generated. -/
def isTypeScoped : Error → Bool
  | conflict .. | invalidIdentifier .. => true
  | _ => false

end Error

/-- What a step on a state gives, and the state that it leaves behind whether it fails or not. -/
abbrev Attempt (σ α : Type) := Except Error α × σ

end FluentWrap
