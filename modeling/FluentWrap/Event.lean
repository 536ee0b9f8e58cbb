/-!
Events: what an action reports about itself besides its result.
-/

set_option autoImplicit false

namespace FluentWrap

inductive Level where
  | trace | debug | info | warn | error
  deriving DecidableEq, Repr

namespace Level

def name : Level → String
  | trace => "TRACE"
  | debug => "DEBUG"
  | info => "INFO"
  | warn => "WARN"
  | error => "ERROR"

/-- Importance; an event is shown from its own level on. -/
def rank : Level → Nat
  | trace => 0
  | debug => 1
  | info => 2
  | warn => 3
  | error => 4

/-- The least level shown for a number of verbosity flags. -/
def ofVerbosity : Nat → Level
  | 0 => warn
  | 1 => info
  | 2 => debug
  | _ => trace

def setting : Level → String
  | trace => "trace"
  | debug => "debug"
  | info => "info"
  | warn => "warn"
  | error => "error"

end Level

structure Event where
  level : Level
  message : String
  /-- Details by name; every detail is a text. -/
  details : List (String × String) := []
  deriving DecidableEq, Repr

end FluentWrap
