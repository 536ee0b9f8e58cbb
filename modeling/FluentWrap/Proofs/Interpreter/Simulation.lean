import FluentWrap.Proofs.Interpreter.Templates
import FluentWrap.Proofs.Plan.Members
import FluentWrap.Samples

/-!
Wrappers act on their delegates as direct calls do. `Direct` says what an operation comes to when
the constructors and methods of the source itself are called, without running any body; `runAll`
runs the bodies of the plan. The two agree on every sequence of operations if instance members of
one name come from one source member.
-/

set_option autoImplicit false

namespace FluentWrap

/-- Whether the instance members of a name all come from the same source member. -/
def Plan.OriginsAgree (plan : Plan) : Prop :=
  ∀ v ∈ plan.members, ∀ w ∈ plan.members,
    v.kind.isInstance = true → w.kind.isInstance = true → v.name = w.name → v.origin = w.origin

instance (plan : Plan) : Decidable plan.OriginsAgree :=
  inferInstanceAs (Decidable (∀ v ∈ plan.members, ∀ w ∈ plan.members, _))

namespace Interpreter

inductive Operation where
  | wrap (delegate : Recording)
  | callStatic (name : String) (arguments : List Value)
  | invoke (id : Nat) (name : String) (arguments : List Value)
  deriving DecidableEq, Repr

def Operation.run (plan : Plan) (instances : Instances) : Operation → Outcome Returned
  | wrap delegate =>
    match Interpreter.wrap plan delegate instances with
    | (.ok id, instances) => (.ok (.wrapper id), instances)
    | (.error e, instances) => (.error e, instances)
  | callStatic name arguments => Interpreter.callStatic plan name arguments instances
  | invoke id name arguments => Interpreter.invoke plan id name arguments instances

def runAll (plan : Plan) : List Operation → Instances →
    List (Except RunError Returned) × Instances
  | [], instances => ([], instances)
  | operation :: rest, instances =>
    let (result, instances) := operation.run plan instances
    let (results, instances) := runAll plan rest instances
    (result :: results, instances)

/-- What an operation comes to on the source itself: what is returned and the delegates after it.
A setter or an adder is one that the planner keeps. -/
inductive Direct (planner : Planner) (source : SourceType) (instances : Instances) :
    Operation → Returned → Instances → Prop where
  | wrap {delegate : Recording} : Direct planner source instances (.wrap delegate)
      (.wrapper instances.length) (instances ++ [delegate])
  | construct {c : Constructor} {arguments : List Value} : c ∈ source.constructors →
      planner.filter.constructors.check c = true → c.parameters.length = arguments.length →
      Direct planner source instances
        (.callStatic (Naming.factoryName source.simpleName) arguments)
        (.wrapper instances.length)
        (instances ++ [{ constructedWith := arguments, calls := [] }])
  | get {id : Nat} {r : Recording} : instances[id]? = some r →
      Direct planner source instances (.invoke id "get" []) (.delegate id) instances
  | set {m : Method} {type : TypeRef} {id : Nat} {r : Recording} {v : Value} :
      m ∈ source.methods → planner.Keeps m → m.Takes "set" type → instances[id]? = some r →
      Direct planner source instances (.invoke id (Naming.setterWrapper m.name) [v])
        (.wrapper id) (instances.set id { r with calls := r.calls ++ [⟨m.name, v⟩] })
  | setTrue {m : Method} {id : Nat} {r : Recording} :
      m ∈ source.methods → planner.Keeps m → m.Takes "set" (.primitive .boolean) →
      instances[id]? = some r →
      Direct planner source instances (.invoke id (Naming.setterWrapper m.name) [])
        (.wrapper id) (instances.set id { r with calls := r.calls ++ [⟨m.name, .bool true⟩] })
  | addEach {m : Method} {type : TypeRef} {id : Nat} {r : Recording} {values : List Value} :
      m ∈ source.methods → planner.Keeps m → m.Takes "add" type → instances[id]? = some r →
      Direct planner source instances (.invoke id (Naming.adderWrapper m.name) values)
        (.wrapper id)
        (instances.set id { r with calls := r.calls ++ values.map fun v => ⟨m.name, v⟩ })

/-- Results and final instances that agree with direct calls, operation by operation. An operation
may fail only if there is no direct call for it, and then it changes nothing. -/
inductive Simulates (planner : Planner) (source : SourceType) :
    List Operation → Instances → List (Except RunError Returned) → Instances → Prop where
  | done {instances : Instances} : Simulates planner source [] instances [] instances
  | success {operation : Operation} {rest : List Operation} {instances next final : Instances}
      {returned : Returned} {results : List (Except RunError Returned)} :
      Direct planner source instances operation returned next →
      Simulates planner source rest next results final →
      Simulates planner source (operation :: rest) instances (.ok returned :: results) final
  | failure {operation : Operation} {rest : List Operation} {instances final : Instances}
      {e : RunError} {results : List (Except RunError Returned)} :
      (∀ returned next, ¬ Direct planner source instances operation returned next) →
      Simulates planner source rest instances results final →
      Simulates planner source (operation :: rest) instances (.error e :: results) final

variable {planner : Planner} {source : SourceType} {instances : Instances}

section Calls

variable {id fuel : Nat} {r : Recording} {w : Member} {name : String} {arguments : List Value}

theorem wrap_plan (delegate : Recording) :
    wrap (planner.plan source) delegate instances =
      (.ok instances.length, instances ++ [delegate]) := by
  simp [wrap, Planner.members_plan, Planner.scaffold, Template.delegateField, Template.getter,
    Template.hiddenConstructor]

theorem resolve_produced {arity : Nat} (agree : (planner.plan source).OriginsAgree)
    (produces : planner.Produces source w) (answers : Answers w name arity false) :
    ∃ first, resolve (planner.plan source) name arity false = .ok first ∧
      planner.Produces source first ∧ Answers first name arity false ∧
      first.origin = w.origin := by
  have member := Planner.mem_members_plan.2 produces
  obtain ⟨first, found⟩ := resolve_of_answers member answers
  obtain ⟨chosen, firstAnswers⟩ := answers_of_resolve found
  have named := firstAnswers.named.trans answers.named.symm
  have same := agree first chosen w member firstAnswers.kind answers.kind named
  exact ⟨first, found, Planner.mem_members_plan.1 chosen, firstAnswers, same⟩

theorem invokeWithin_of_resolve {plan : Plan} {arity : Nat} (alive : instances[id]? = some r)
    (found : resolve plan name arity false = .ok w) (same : arguments.length = arity) :
    invokeWithin plan (fuel + 1) id name arguments instances =
      run plan (invokeWithin plan fuel) (some id) w.name (bind w arguments) w.body instances := by
  subst same
  have bound := (List.getElem?_eq_some_iff.1 alive).1
  simp only [invokeWithin, if_neg (Nat.not_le.2 bound), found]

theorem answers_getter : Answers Template.getter "get" 0 false :=
  ⟨rfl, rfl, rfl⟩

theorem answers_setterWrapper (method : String) (type : TypeRef) :
    Answers (Template.setterWrapper method type) (Naming.setterWrapper method) 1 false :=
  ⟨Template.name_setterWrapper method type, accepts_setterWrapper.2 rfl, rfl⟩

theorem answers_booleanDefault (wrapper method : String) :
    Answers (Template.booleanDefault wrapper method) wrapper 0 false :=
  ⟨rfl, (accepts_of_no_parameters rfl).2 rfl, rfl⟩

theorem answers_adderWrapper (method : String) (type : TypeRef) (arity : Nat) :
    Answers (Template.adderWrapper method type) (Naming.adderWrapper method) arity false :=
  ⟨rfl, accepts_adderWrapper method type arity, rfl⟩

section Agreeing

variable (agree : (planner.plan source).OriginsAgree) (alive : instances[id]? = some r)

include agree alive

theorem invokeWithin_get :
    invokeWithin (planner.plan source) (fuel + 1) id "get" [] instances =
      (.ok (.delegate id), instances) := by
  obtain ⟨w, found, produces, answers, origin⟩ := resolve_produced agree .getter answers_getter
  rw [invokeWithin_of_resolve alive found rfl]
  cases produces with
  | getter => exact run_getter _ _
  | field | hiddenConstructor | factory => cases answers.kind
  | setter | booleanDefault | adder => cases origin

theorem invokeWithin_set {m : Method} {type : TypeRef} (member : m ∈ source.methods)
    (keeps : planner.Keeps m) (takes : m.Takes "set" type) (v : Value) :
    invokeWithin (planner.plan source) (fuel + 1) id (Naming.setterWrapper m.name) [v]
        instances =
      (.ok (.wrapper id), instances.set id (r.callEach m.name [v])) := by
  obtain ⟨w, found, produces, answers, origin⟩ :=
    resolve_produced agree (.setter member keeps takes) (answers_setterWrapper m.name type)
  rw [invokeWithin_of_resolve alive found rfl]
  cases produces with
  | setter => rw [run_setterWrapper alive, Option.some.inj origin]
  -- Members of one origin wrap methods of one name, and no name is a setter's and an adder's.
  | adder _ _ other => exact absurd (Option.some.inj origin).symm (takes.name_ne other)
  | booleanDefault => cases (accepts_of_no_parameters rfl).1 answers.accepts
  | field | hiddenConstructor | factory => cases answers.kind
  | getter => cases origin

theorem invokeWithin_setTrue {m : Method} (member : m ∈ source.methods)
    (keeps : planner.Keeps m) (takes : m.Takes "set" (.primitive .boolean)) :
    invokeWithin (planner.plan source) (fuel + 2) id (Naming.setterWrapper m.name) []
        instances =
      (.ok (.wrapper id), instances.set id (r.callEach m.name [.bool true])) := by
  obtain ⟨w, found, produces, answers, origin⟩ :=
    resolve_produced agree (.booleanDefault member keeps takes) (answers_booleanDefault _ m.name)
  rw [invokeWithin_of_resolve alive found rfl]
  cases produces with
  | booleanDefault others kept taken =>
    -- It hands on to the wrapper of its own setter, which bears the same name.
    rw [run_booleanDefault, invokeWithin_set agree alive others kept taken,
      Option.some.inj origin]
  | setter => cases accepts_setterWrapper.1 answers.accepts
  | adder _ _ other => exact absurd (Option.some.inj origin).symm (takes.name_ne other)
  | field | hiddenConstructor | factory => cases answers.kind
  | getter => cases origin

theorem invokeWithin_addEach {m : Method} {type : TypeRef} (member : m ∈ source.methods)
    (keeps : planner.Keeps m) (takes : m.Takes "add" type) (values : List Value) :
    invokeWithin (planner.plan source) (fuel + 1) id (Naming.adderWrapper m.name) values
        instances =
      (.ok (.wrapper id), instances.set id (r.callEach m.name values)) := by
  obtain ⟨w, found, produces, answers, origin⟩ :=
    resolve_produced agree (.adder member keeps takes) (answers_adderWrapper m.name type _)
  rw [invokeWithin_of_resolve alive found rfl]
  cases produces with
  | adder => rw [run_adderWrapper alive, Option.some.inj origin]
  | setter _ _ other | booleanDefault _ _ other =>
    exact absurd (Option.some.inj origin) (other.name_ne takes)
  | field | hiddenConstructor | factory => cases answers.kind
  | getter => cases origin

end Agreeing

theorem length_parameters_factoryOf (c : Constructor) :
    (Planner.factoryOf source c).parameters.length = c.parameters.length := by
  have types : (Planner.factoryOf source c).parameters.map FormalParameter.type = _ :=
    Planner.map_type_factoryOf c
  simpa only [List.length_map] using congrArg List.length types

theorem answers_factoryOf {c : Constructor} (same : c.parameters.length = arguments.length) :
    Answers (Planner.factoryOf source c) (Naming.factoryName source.simpleName) arguments.length
      true :=
  ⟨rfl, accepts_factory.2 ((length_parameters_factoryOf c).trans same), rfl⟩

/-- Only factories are static, and all of them do the same. -/
theorem callStatic_of_resolve
    (found : resolve (planner.plan source) name arguments.length true = .ok w) :
    callStatic (planner.plan source) name arguments instances =
      (.ok (.wrapper instances.length),
        instances ++ [{ constructedWith := arguments, calls := [] }]) := by
  obtain ⟨present, answers⟩ := answers_of_resolve found
  simp only [callStatic, found]
  cases Planner.mem_members_plan.1 present with
  | factory =>
    exact run_factory (accepts_factory.1 answers.accepts) (wrap_plan _) _
  | field | hiddenConstructor | getter | setter | booleanDefault | adder => cases answers.kind

theorem callStatic_construct {c : Constructor} (member : c ∈ source.constructors)
    (chosen : planner.filter.constructors.check c = true)
    (same : c.parameters.length = arguments.length) :
    callStatic (planner.plan source) (Naming.factoryName source.simpleName) arguments instances =
      (.ok (.wrapper instances.length),
        instances ++ [{ constructedWith := arguments, calls := [] }]) := by
  have offered := Planner.mem_members_plan.2 (.factory member chosen)
  obtain ⟨w, found⟩ := resolve_of_answers offered (answers_factoryOf same)
  exact callStatic_of_resolve found

end Calls

section Steps

variable {operation : Operation} {returned : Returned} {next : Instances}

theorem run_of_direct (agree : (planner.plan source).OriginsAgree)
    (direct : Direct planner source instances operation returned next) :
    operation.run (planner.plan source) instances = (.ok returned, next) := by
  cases direct with
  | wrap => simp only [Operation.run, wrap_plan]
  | construct member chosen same => exact callStatic_construct member chosen same
  | get alive => exact invokeWithin_get agree alive
  | set member keeps takes alive =>
    simp only [Operation.run, invoke, invokeWithin_set agree alive member keeps takes]
    rfl
  | setTrue member keeps takes alive =>
    simp only [Operation.run, invoke, invokeWithin_setTrue agree alive member keeps takes]
    rfl
  | addEach member keeps takes alive =>
    simp only [Operation.run, invoke, invokeWithin_addEach agree alive member keeps takes]
    rfl

theorem direct_invoke_iff {id : Nat} {r : Recording} {name : String} {arguments : List Value}
    (alive : instances[id]? = some r) :
    (∃ returned next,
        Direct planner source instances (.invoke id name arguments) returned next) ↔
      ∃ w ∈ (planner.plan source).members, Answers w name arguments.length false := by
  constructor
  · rintro ⟨returned, next, direct⟩
    cases direct with
    | get => exact ⟨_, Planner.mem_members_plan.2 .getter, answers_getter⟩
    | set member keeps takes =>
      exact ⟨_, Planner.mem_members_plan.2 (.setter member keeps takes),
        answers_setterWrapper _ _⟩
    | setTrue member keeps takes =>
      exact ⟨_, Planner.mem_members_plan.2 (.booleanDefault member keeps takes),
        answers_booleanDefault _ _⟩
    | addEach member keeps takes =>
      exact ⟨_, Planner.mem_members_plan.2 (.adder member keeps takes),
        answers_adderWrapper _ _ _⟩
  · rintro ⟨w, present, answers⟩
    rw [← answers.named]
    cases Planner.mem_members_plan.1 present with
    | getter =>
      have empty := (accepts_of_no_parameters rfl).1 answers.accepts
      obtain rfl := List.length_eq_zero_iff.1 empty
      exact ⟨_, _, .get alive⟩
    | setter member keeps takes =>
      obtain ⟨v, rfl⟩ := List.length_eq_one_iff.1 (accepts_setterWrapper.1 answers.accepts)
      rw [Template.name_setterWrapper]
      exact ⟨_, _, .set member keeps takes alive⟩
    | booleanDefault member keeps takes =>
      have empty := (accepts_of_no_parameters rfl).1 answers.accepts
      obtain rfl := List.length_eq_zero_iff.1 empty
      rw [Template.name_booleanDefault]
      exact ⟨_, _, .setTrue member keeps takes alive⟩
    | adder member keeps takes =>
      rw [Template.name_adderWrapper]
      exact ⟨_, _, .addEach member keeps takes alive⟩
    -- No call of an instance means one of these.
    | field | hiddenConstructor | factory => cases answers.kind

theorem direct_callStatic_iff {name : String} {arguments : List Value} :
    (∃ returned next,
        Direct planner source instances (.callStatic name arguments) returned next) ↔
      ∃ w ∈ (planner.plan source).members, Answers w name arguments.length true := by
  constructor
  · rintro ⟨returned, next, direct⟩
    cases direct with
    | construct member chosen same =>
      exact ⟨_, Planner.mem_members_plan.2 (.factory member chosen), answers_factoryOf same⟩
  · rintro ⟨w, present, answers⟩
    obtain rfl := answers.named
    cases Planner.mem_members_plan.1 present with
    | factory member chosen =>
      have same := (length_parameters_factoryOf _).symm.trans
        (accepts_factory.1 answers.accepts)
      exact ⟨_, _, .construct member chosen same⟩
    | field | hiddenConstructor | getter | setter | booleanDefault | adder =>
      cases answers.kind

theorem run_of_no_direct
    (missing : ¬ ∃ returned next, Direct planner source instances operation returned next) :
    ∃ e, operation.run (planner.plan source) instances = (.error e, instances) := by
  cases operation with
  | wrap delegate => exact absurd ⟨_, _, .wrap⟩ missing
  | callStatic name arguments =>
    rw [direct_callStatic_iff] at missing
    cases found : resolve (planner.plan source) name arguments.length true with
    | ok w => exact absurd ⟨w, answers_of_resolve found⟩ missing
    | error e => exact ⟨e, by simp only [Operation.run, callStatic, found]⟩
  | invoke id name arguments =>
    cases alive : instances[id]? with
    | none =>
      -- A call of an instance that is not there fails before a method is looked for.
      have out := List.getElem?_eq_none_iff.1 alive
      exact ⟨.noSuchInstance, by simp only [Operation.run, invoke, invokeWithin, if_pos out]⟩
    | some r =>
      have bound := (List.getElem?_eq_some_iff.1 alive).1
      rw [direct_invoke_iff alive] at missing
      cases found : resolve (planner.plan source) name arguments.length false with
      | ok w => exact absurd ⟨w, answers_of_resolve found⟩ missing
      | error e =>
        refine ⟨e, ?_⟩
        simp only [Operation.run, invoke, invokeWithin, if_neg (Nat.not_le.2 bound), found]

end Steps

/-- Running the bodies of a plan agrees with direct calls on every sequence of operations. -/
theorem runAll_simulates (agree : (planner.plan source).OriginsAgree)
    (operations : List Operation) (instances : Instances) :
    Simulates planner source operations instances
      (runAll (planner.plan source) operations instances).1
      (runAll (planner.plan source) operations instances).2 := by
  -- The next operation meets the instances that this one leaves, and those are any.
  induction operations generalizing instances with
  | nil => exact .done
  | cons operation rest ih =>
    by_cases direct : ∃ returned next, Direct planner source instances operation returned next
    · obtain ⟨returned, next, direct⟩ := direct
      simp only [runAll, run_of_direct agree direct]
      exact .success direct (ih next)
    · obtain ⟨e, run⟩ := run_of_no_direct direct
      simp only [runAll, run]
      exact .failure (fun returned next h => direct ⟨returned, next, h⟩) (ih instances)

theorem textField_simulates :
    (Planner.plan default Samples.textField).OriginsAgree ∧
      Simulates default Samples.textField
        [.callStatic "textField" [.text "a"], .invoke 0 "immediate" [], .invoke 1 "id" [],
          .invoke 0 "addStyleNames" [.text "b", .text "c"], .invoke 0 "get" []] []
        [.ok (.wrapper 0), .ok (.wrapper 0), .error .noSuchInstance, .ok (.wrapper 0),
          .ok (.delegate 0)]
        [{ constructedWith := [.text "a"]
           calls := [⟨"setImmediate", .bool true⟩, ⟨"addStyleName", .text "b"⟩,
             ⟨"addStyleName", .text "c"⟩] }] := by
  have agree : (Planner.plan default Samples.textField).OriginsAgree := by decide
  refine ⟨agree, ?_⟩
  exact runAll_simulates agree _ []

end Interpreter

end FluentWrap
