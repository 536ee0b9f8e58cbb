import FluentWrap.Error

/-!
Failures of commands: what went wrong, and what was being done.
-/

set_option autoImplicit false

namespace FluentWrap

inductive Reason where
  | error (e : Error)
  /-- A reason outside of generation, known by its text alone. -/
  | plain (text : String)
  deriving DecidableEq, Repr

def Reason.texts : Reason → List String
  | error e => e.message :: e.cause?.toList
  | plain text => [text]

structure Failure where
  /-- What was being done, the whole first and its parts after it. -/
  during : List String
  reason : Reason
  deriving DecidableEq, Repr

namespace Failure

def ofError (e : Error) : Failure := ⟨[], .error e⟩

def plain (text : String) : Failure := ⟨[], .plain text⟩

/-- The same failure, as part of a larger undertaking. -/
def within (failure : Failure) (what : String) : Failure :=
  { failure with during := what :: failure.during }

def inside {α : Type} (what : String) (result : Except Error α) : Except Failure α :=
  result.mapError fun e => (ofError e).within what

def error? (failure : Failure) : Option Error :=
  match failure.reason with
  | .error e => some e
  | .plain _ => none

def message (failure : Failure) : String :=
  ": ".intercalate (failure.during ++ failure.reason.texts)

/-- The message, after the code where there is one. -/
def report (failure : Failure) : String :=
  match failure.error? with
  | some e => "[" ++ e.code ++ "] " ++ failure.message
  | none => failure.message

def hint? (failure : Failure) : Option String :=
  failure.error?.map fun e =>
    if e.isTypeScoped then
      "the remaining types were generated; fix or ignore the listed members"
    else if e.isUserFixable then
      "check the manifests, .fluentgen.toml and command-line flags"
    else "check free space and permissions below the target directory"

end Failure

end FluentWrap
