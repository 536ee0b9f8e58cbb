import FluentWrap.Plan.Basic

/-!
The meaning of plans. Members are run on wrapper instances whose delegates record the calls they
receive, as the generated code would act on real delegates.
-/

set_option autoImplicit false

namespace FluentWrap

inductive Value where
  | bool (b : Bool)
  | int (n : Int)
  | text (s : String)
  deriving DecidableEq, Repr

structure DelegateCall where
  method : String
  argument : Value
  deriving DecidableEq, Repr

/-- A delegate: what it was constructed with and the calls it has received, in order. -/
structure Recording where
  constructedWith : List Value := []
  calls : List DelegateCall := []
  deriving DecidableEq, Repr, Inhabited

namespace Recording

def call (r : Recording) (method : String) (argument : Value) : Recording :=
  { r with calls := r.calls ++ [⟨method, argument⟩] }

def callsTo (r : Recording) (method : String) : List Value :=
  (r.calls.filter fun c => c.method = method).map DelegateCall.argument

end Recording

namespace Interpreter

/-- Wrapper instances by number, each with its delegate. -/
abbrev Instances := List Recording

inductive Returned where
  | wrapper (id : Nat)
  | delegate (id : Nat)
  | nothing
  deriving DecidableEq, Repr

inductive RunError where
  | noSuchMember (name : String) (arity : Nat)
  | noSuchInstance
  | unbound (name : String)
  | notVarargs (name : String)
  | noReceiver (member : String)
  /-- The member calls itself over and over. -/
  | endless (member : String)
  deriving DecidableEq, Repr

def RunError.message : RunError → String
  | noSuchMember name arity =>
    "no member " ++ name ++ " accepting " ++ toString arity ++ " argument(s)"
  | noSuchInstance => "unknown wrapper instance"
  | unbound name => "name '" ++ name ++ "' is not bound"
  | notVarargs name => "'" ++ name ++ "' is not a varargs parameter"
  | noReceiver member => "static member " ++ member ++ " has no receiver"
  | endless member => "member " ++ member ++ " does not return"

inductive Binding where
  | one (value : Value)
  | many (values : List Value)
  deriving DecidableEq, Repr

/-- Bindings by name; of two for one name the first counts. -/
abbrev Bindings := List (String × Binding)

def lookup? (env : Bindings) (name : String) : Option Binding :=
  (env.find? fun b => b.1 = name).map Prod.snd

def valueOf (env : Bindings) (name : String) : Except RunError Value :=
  match lookup? env name with
  | some (.one v) => .ok v
  | _ => .error (.unbound name)

def accepts (m : Member) (arity : Nat) : Bool :=
  match m.parameters with
  | [p] => p.varargs || arity = 1
  | ps => ps.length = arity

/-- The first method of a name, static or not, that accepts a number of arguments. -/
def resolve (plan : Plan) (name : String) (arity : Nat) (static_ : Bool) :
    Except RunError Member :=
  match plan.members.find? fun m =>
      !m.kind.isField && !m.kind.isConstructor && m.name = name
        && (m.kind = .factory) = static_ && accepts m arity with
  | some m => .ok m
  | none => .error (.noSuchMember name arity)

def bind (m : Member) (arguments : List Value) : Bindings :=
  let each := ((m.parameters.zip arguments).map fun (p, v) => (p.name, Binding.one v)).reverse
  match m.parameters with
  | [p] => if p.varargs then [(p.name, .many arguments)] else each
  | _ => each

abbrev Outcome (α : Type) := Except RunError α × Instances

/-- Put a delegate into a new instance through the hidden constructor. -/
def wrap (plan : Plan) (delegate : Recording) (instances : Instances) : Outcome Nat :=
  match plan.members.find? fun m => m.kind = .hiddenConstructor with
  | none => (.error (.noSuchMember "<init>" 1), instances)
  | some constructor =>
    let isAssigned := constructor.body.any fun
      | .assignField _ => true
      | _ => false
    (.ok instances.length, instances ++ [if isAssigned then delegate else {}])

def record (instances : Instances) (id : Nat) (method : String) (argument : Value) : Instances :=
  instances.modify id fun r => r.call method argument

/-- Run statements for a receiver, or for none in a static member. What a call of another member
means is handed in. -/
def run (plan : Plan) (again : Nat → String → List Value → Instances → Outcome Returned)
    (receiver : Option Nat) (member : String) :
    Bindings → List Statement → Instances → Outcome Returned
  | _, [], instances => (.ok .nothing, instances)
  | env, statement :: rest, instances =>
    let missing : Outcome Returned := (.error (.noReceiver member), instances)
    match statement with
    -- Only the hidden constructor sets the field, and it is not run here.
    | .assignField parameter => (.error (.unbound parameter), instances)
    | .returnField =>
      match receiver with
      | none => missing
      | some id => (.ok (.delegate id), instances)
    | .delegateCall method argument =>
      match valueOf env argument with
      | .error e => (.error e, instances)
      | .ok v =>
        match receiver with
        | none => missing
        | some id => run plan again receiver member env rest (record instances id method v)
    | .delegateLoop method _ variableName parameter =>
      match lookup? env parameter with
      | some (.many values) =>
        match receiver with
        | none => missing
        | some id =>
          -- Behind the loop its variable keeps the last value.
          let env := values.foldl (fun env v => (variableName, .one v) :: env) env
          let instances := values.foldl (fun is v => record is id method v) instances
          run plan again receiver member env rest instances
      | _ => (.error (.notVarargs parameter), instances)
    | .constructAndWrap arguments =>
      match arguments.mapM (valueOf env) with
      | .error e => (.error e, instances)
      | .ok values =>
        match wrap plan { constructedWith := values } instances with
        | (.error e, instances) => (.error e, instances)
        | (.ok id, instances) => (.ok (.wrapper id), instances)
    | .returnSelf =>
      match receiver with
      | none => missing
      | some id => (.ok (.wrapper id), instances)
    | .returnSelfCall method argument =>
      match receiver with
      | none => missing
      | some id => again id method [.bool argument] instances

/-- Call a method of an instance; the fuel bounds how often members hand on to others. -/
def invokeWithin (plan : Plan) :
    Nat → Nat → String → List Value → Instances → Outcome Returned
  | 0, _, name, _, instances => (.error (.endless name), instances)
  | fuel + 1, id, name, arguments, instances =>
    if instances.length ≤ id then (.error .noSuchInstance, instances)
    else
      match resolve plan name arguments.length false with
      | .error e => (.error e, instances)
      | .ok m =>
        run plan (invokeWithin plan fuel) (some id) m.name (bind m arguments) m.body instances

/-- Call a method of an instance. A member hands on with one argument, so that after as many
members as the plan has one of them comes again and never returns. -/
def invoke (plan : Plan) (id : Nat) (name : String) (arguments : List Value)
    (instances : Instances) : Outcome Returned :=
  invokeWithin plan (plan.members.length + 2) id name arguments instances

def callStatic (plan : Plan) (name : String) (arguments : List Value) (instances : Instances) :
    Outcome Returned :=
  match resolve plan name arguments.length true with
  | .error e => (.error e, instances)
  | .ok m =>
    run plan (fun _ name _ is => (.error (.noReceiver name), is)) none m.name
      (bind m arguments) m.body instances

def delegate (instances : Instances) (id : Nat) : Except RunError Recording :=
  match instances[id]? with
  | some r => .ok r
  | none => .error .noSuchInstance

end Interpreter

end FluentWrap
