import FluentWrap.Command.Generate
import FluentWrap.Command.Init
import FluentWrap.Command.ShowPlan

/-!
Requests: one of the commands with everything it is given.
-/

set_option autoImplicit false

namespace FluentWrap.Command

inductive Request where
  | generate (request : GenerateRequest)
  | plan (request : PlanRequest)
  | init (force : Bool)
  deriving DecidableEq, Repr

variable {m : Type → Type} [Monad m] [Host m]

def Request.run : Request → ExceptT Failure m Unit
  | generate request => do
    let _ ← Command.generate request
  | plan request => Command.plan request
  | init force => Command.init force

end FluentWrap.Command
