import FluentWrap.Proofs.Interpreter.Simulation

/-!
Calling planned members is safe. Whatever names collide in a plan, a call of a member fails only if
there is no such instance or nothing answers the call, and then every instance stays as it is; no
member meets a name that is not bound, and none hands on to a member that hands on in its turn.
-/

set_option autoImplicit false

namespace FluentWrap.Interpreter

/-- Call a method of an instance, given what it means to call another one from its body. -/
def dispatch (plan : Plan) (again : Nat → String → List Value → Instances → Outcome Returned)
    (id : Nat) (name : String) (arguments : List Value) (instances : Instances) :
    Outcome Returned :=
  if instances.length ≤ id then (.error .noSuchInstance, instances)
  else
    match resolve plan name arguments.length false with
    | .error e => (.error e, instances)
    | .ok m => run plan again (some id) m.name (bind m arguments) m.body instances

variable {planner : Planner} {source : SourceType} {instances : Instances} {id : Nat}
  {name : String} {arguments : List Value} {w : Member}

section Refusals

variable {plan : Plan} (again : Nat → String → List Value → Instances → Outcome Returned)

theorem dispatch_missing (missing : instances.length ≤ id) :
    dispatch plan again id name arguments instances = (.error .noSuchInstance, instances) :=
  if_pos missing

theorem dispatch_unanswered (alive : id < instances.length)
    (unanswered : ∀ m ∈ plan.members, ¬ Answers m name arguments.length false) :
    dispatch plan again id name arguments instances =
      (.error (.noSuchMember name arguments.length), instances) := by
  unfold dispatch
  rw [if_neg (Nat.not_le.2 alive), resolve_unanswered unanswered]

theorem dispatch_resolved (alive : id < instances.length)
    (found : resolve plan name arguments.length false = .ok w) :
    dispatch plan again id name arguments instances =
      run plan again (some id) w.name (bind w arguments) w.body instances := by
  unfold dispatch
  rw [if_neg (Nat.not_le.2 alive), found]

end Refusals

section Results

theorem run_settled (produces : planner.Produces source w)
    (answers : Answers w name arguments.length false) (ends : w.kind ≠ .booleanDefault)
    (alive : id < instances.length) :
    ∃ returned next, ∀ again, run (planner.plan source) again (some id) w.name
      (bind w arguments) w.body instances = (.ok returned, next) := by
  have present := List.getElem?_eq_getElem alive
  cases produces with
  | getter => exact ⟨_, _, fun _ => run_getter _ _⟩
  | setter =>
    obtain ⟨v, rfl⟩ := List.length_eq_one_iff.1 (accepts_setterWrapper.1 answers.accepts)
    exact ⟨_, _, fun _ => run_setterWrapper present _ _ _ v⟩
  | adder => exact ⟨_, _, fun _ => run_adderWrapper present _ _ _ arguments⟩
  | booleanDefault => exact absurd rfl ends
  | field | hiddenConstructor | factory => cases answers.kind

theorem dispatch_settled (alive : id < instances.length)
    (found : resolve (planner.plan source) name arguments.length false = .ok w)
    (ends : w.kind ≠ .booleanDefault) :
    ∃ returned next, ∀ again,
      dispatch (planner.plan source) again id name arguments instances = (.ok returned, next) := by
  obtain ⟨member, answers⟩ := answers_of_resolve found
  obtain ⟨returned, next, runs⟩ :=
    run_settled (Planner.mem_members_plan.1 member) answers ends alive
  exact ⟨returned, next, fun again => (dispatch_resolved again alive found).trans (runs again)⟩

/-- What takes an argument is no boolean default, so that a call that one hands on is settled. -/
theorem dispatch_true {m : Method} (member : m ∈ source.methods) (keeps : planner.Keeps m)
    (takes : m.Takes "set" (.primitive .boolean)) (alive : id < instances.length) :
    ∃ returned next, ∀ again, dispatch (planner.plan source) again id
      (Naming.setterWrapper m.name) [.bool true] instances = (.ok returned, next) := by
  obtain ⟨first, found⟩ := resolve_of_answers
    (Planner.mem_members_plan.2 (.setter member keeps takes)) (answers_setterWrapper m.name _)
  -- The first to answer need not be the setter's own wrapper; it only has to take an argument.
  refine dispatch_settled alive found fun isDefault => ?_
  obtain ⟨present, answers⟩ := answers_of_resolve found
  cases Planner.mem_members_plan.1 present with
  | booleanDefault => cases (accepts_of_no_parameters rfl).1 answers.accepts
  | setter | adder | getter | field | hiddenConstructor | factory => cases isDefault

/-- A call that is answered gives a result whatever a call would mean that is handed on twice. -/
theorem dispatch_twice (alive : id < instances.length)
    (found : resolve (planner.plan source) name arguments.length false = .ok w) :
    ∃ returned next, ∀ again,
      dispatch (planner.plan source) (dispatch (planner.plan source) again) id name arguments
        instances = (.ok returned, next) := by
  by_cases isDefault : w.kind = .booleanDefault
  · obtain ⟨member, -⟩ := answers_of_resolve found
    cases Planner.mem_members_plan.1 member with
    | booleanDefault listed keeps takes =>
      obtain ⟨returned, next, settled⟩ := dispatch_true listed keeps takes alive
      refine ⟨returned, next, fun again => ?_⟩
      rw [dispatch_resolved _ alive found, run_booleanDefault, settled again]
    | setter | adder | getter | field | hiddenConstructor | factory => cases isDefault
  · obtain ⟨returned, next, settled⟩ := dispatch_settled alive found isDefault
    exact ⟨returned, next, fun again => settled _⟩

end Results

section Calls

variable {e : RunError} {after : Instances}

theorem invoke_eq_dispatch (plan : Plan) :
    invoke plan = dispatch plan (dispatch plan (invokeWithin plan plan.members.length)) := rfl

theorem dispatch_dispatch (planner : Planner) (source : SourceType)
    (again : Nat → String → List Value → Instances → Outcome Returned) :
    dispatch (planner.plan source) (dispatch (planner.plan source) again) =
      invoke (planner.plan source) := by
  rw [invoke_eq_dispatch]
  funext id name arguments instances
  by_cases alive : id < instances.length
  · rcases resolve_cases (planner.plan source) name arguments.length false with
      ⟨w, found, -⟩ | ⟨-, unanswered⟩
    · obtain ⟨returned, next, settled⟩ := dispatch_twice alive found
      rw [settled, settled]
    · rw [dispatch_unanswered _ alive unanswered, dispatch_unanswered _ alive unanswered]
  · rw [dispatch_missing _ (Nat.not_lt.1 alive), dispatch_missing _ (Nat.not_lt.1 alive)]

theorem invoke_resolved (alive : id < instances.length)
    (found : resolve (planner.plan source) name arguments.length false = .ok w) :
    invoke (planner.plan source) id name arguments instances =
      run (planner.plan source) (invoke (planner.plan source)) (some id) w.name
        (bind w arguments) w.body instances := by
  have recursion : dispatch (planner.plan source) (invoke (planner.plan source)) =
      invoke (planner.plan source) := dispatch_dispatch planner source _
  calc invoke (planner.plan source) id name arguments instances
      = dispatch (planner.plan source) (invoke (planner.plan source)) id name arguments
          instances := by rw [recursion]
    _ = _ := dispatch_resolved _ alive found

theorem invoke_error_iff :
    invoke (planner.plan source) id name arguments instances = (.error e, after) ↔
      after = instances ∧
        (instances.length ≤ id ∧ e = .noSuchInstance ∨
          id < instances.length ∧ e = .noSuchMember name arguments.length ∧
            ∀ m ∈ (planner.plan source).members, ¬ Answers m name arguments.length false) := by
  rw [invoke_eq_dispatch]
  by_cases alive : id < instances.length
  · rcases resolve_cases (planner.plan source) name arguments.length false with
      ⟨w, found, member, answers⟩ | ⟨-, unanswered⟩
    · obtain ⟨returned, next, settled⟩ := dispatch_twice alive found
      rw [settled]
      constructor
      · intro failed
        cases failed
      · rintro ⟨-, ⟨missing, -⟩ | ⟨-, -, unanswered⟩⟩
        · exact absurd alive (Nat.not_lt.2 missing)
        · exact absurd answers (unanswered w member)
    · rw [dispatch_unanswered _ alive unanswered]
      simp only [Prod.mk.injEq, Except.error.injEq]
      grind
  · have missing := Nat.not_lt.1 alive
    rw [dispatch_missing _ missing]
    simp only [Prod.mk.injEq, Except.error.injEq]
    grind

theorem callStatic_error_iff :
    callStatic (planner.plan source) name arguments instances = (.error e, after) ↔
      after = instances ∧ e = .noSuchMember name arguments.length ∧
        ∀ m ∈ (planner.plan source).members, ¬ Answers m name arguments.length true := by
  rcases resolve_cases (planner.plan source) name arguments.length true with
    ⟨w, found, member, answers⟩ | ⟨refused, unanswered⟩
  · rw [callStatic_of_resolve found]
    constructor
    · intro failed
      cases failed
    · rintro ⟨-, -, unanswered⟩
      exact absurd answers (unanswered w member)
  · unfold callStatic
    rw [refused]
    simp only [Prod.mk.injEq, Except.error.injEq]
    grind

/-- The calls of planned members, for whatever instances there are. Wrapping succeeds; a call fails
exactly if there is no such instance or no member answers it, with an error that says so, and then all
instances are as before. A call hands on once at most, so that it does not matter what a call means
that is handed on twice. -/
theorem calls_safe (planner : Planner) (source : SourceType) :
    let plan := planner.plan source
    (∀ delegate instances,
      wrap plan delegate instances = (.ok instances.length, instances ++ [delegate])) ∧
    (∀ name arguments instances e after,
      callStatic plan name arguments instances = (.error e, after) ↔
        after = instances ∧ e = .noSuchMember name arguments.length ∧
          ∀ m ∈ plan.members, ¬ Answers m name arguments.length true) ∧
    (∀ id name arguments instances e after,
      invoke plan id name arguments instances = (.error e, after) ↔
        after = instances ∧
          (instances.length ≤ id ∧ e = .noSuchInstance ∨
            id < instances.length ∧ e = .noSuchMember name arguments.length ∧
              ∀ m ∈ plan.members, ¬ Answers m name arguments.length false)) ∧
    (∀ again, dispatch plan (dispatch plan again) = invoke plan) ∧
      dispatch plan (invoke plan) = invoke plan := by
  intro plan
  refine ⟨fun delegate instances => wrap_plan delegate, ?_, ?_,
    dispatch_dispatch planner source, ?_⟩
  · intro name arguments instances e after
    exact callStatic_error_iff
  · intro id name arguments instances e after
    exact invoke_error_iff
  · exact dispatch_dispatch planner source _

end Calls

end FluentWrap.Interpreter
