import FluentWrap.Proofs.Class.Declaring
import FluentWrap.Proofs.Interpreter.Safety
import FluentWrap.Samples

/-!
Boolean defaults beside wrappers of the same name. A call means the first member that answers it, so
that a call without arguments means an adder's wrapper of the name if one stands before the default,
and a call with `true` means the first wrapper of the name, whichever method it comes from.
-/

set_option autoImplicit false

namespace FluentWrap

namespace Member

def isWrapperNamed (m : Member) (name : String) : Bool :=
  m.kind.isWrapper && m.name = name

def isAdderNamed (m : Member) (name : String) : Bool :=
  m.kind = .adderWrapper && m.name = name

theorem isWrapperNamed_iff {m : Member} {name : String} :
    m.isWrapperNamed name = true ↔ m.kind.isWrapper = true ∧ m.name = name := by
  simp [isWrapperNamed]

theorem isAdderNamed_iff {m : Member} {name : String} :
    m.isAdderNamed name = true ↔ m.kind = .adderWrapper ∧ m.name = name := by
  simp [isAdderNamed]

theorem clash_of_no_parameters {a b : Member} (left : a.IsMethod) (right : b.IsMethod)
    (named : a.name = b.name) (none_ : a.parameters = []) (none' : b.parameters = []) :
    a.Clash b :=
  .methods left right named (by simp only [signature, none_, none'])

end Member

namespace Interpreter

variable {planner : Planner} {source : SourceType} {before after : List Member} {v w : Member}
  {instances : Instances} {id : Nat} {r : Recording}

section Recordings

variable {called other : String} {value : Value}

theorem set_call_inj (alive : id < instances.length) :
    instances.set id (r.call called value) = instances.set id (r.call other value) ↔
      called = other := by
  constructor
  · intro same
    have recorded := congrArg (·[id]?) same
    simpa [alive, Recording.call] using recorded
  · rintro rfl
    rfl

theorem set_call_ne (alive : instances[id]? = some r) :
    instances ≠ instances.set id (r.call called value) := by
  intro same
  have recorded : (instances.set id (r.call called value))[id]? = some (r.call called value) :=
    List.getElem?_set_self (List.getElem?_eq_some_iff.1 alive).1
  rw [← same, alive] at recorded
  have more := congrArg Recording.calls (Option.some.inj recorded)
  simp [Recording.call] at more

end Recordings

section Order

variable (apart : (planner.plan source).members.Pairwise fun a b => ¬ a.Clash b)
  (split : (planner.plan source).members = before ++ w :: after)
  (isDefault : w.kind = .booleanDefault)

include split in
theorem produces_of_before (member : v ∈ before) : planner.Produces source v :=
  Planner.mem_members_plan.1 (split ▸ List.mem_append_left _ member)

include split isDefault in
theorem wrapper_before : ∃ own ∈ before, own.isWrapperNamed w.name = true := by
  obtain ⟨m, -, -, -, same, earlier, rfl⟩ := Planner.before_booleanDefault split isDefault
  refine ⟨Template.setterWrapper m.name (.primitive .boolean), by simp, ?_⟩
  exact Member.isWrapperNamed_iff.2 ⟨rfl, same ▸ rfl⟩

include apart split isDefault

/-- In a class that can be declared no other method of the name takes nothing. -/
theorem parameters_ne_nil_of_before (member : v ∈ before) (method : v.IsMethod)
    (named : v.name = w.name) : v.parameters ≠ [] := by
  obtain ⟨m, -, -, -, rfl, -⟩ := Planner.before_booleanDefault split isDefault
  rw [split] at apart
  intro none_
  exact (List.pairwise_append.1 apart).2.2 v member _ List.mem_cons_self
    (Member.clash_of_no_parameters method ⟨rfl, rfl⟩ named none_ rfl)

theorem answers_true_iff (member : v ∈ before) :
    Answers v w.name 1 false ↔ v.isWrapperNamed w.name = true := by
  have produces := produces_of_before split member
  have others := parameters_ne_nil_of_before apart split isDefault member
  rw [Member.isWrapperNamed_iff]
  constructor
  · intro answers
    refine ⟨?_, answers.named⟩
    cases produces with
    | setter | booleanDefault | adder => rfl
    -- The getter may have the name, but takes nothing.
    | getter => cases (accepts_of_no_parameters rfl).1 answers.accepts
    | field | hiddenConstructor | factory => cases answers.kind
  · rintro ⟨kind, named⟩
    cases produces with
    | setter => exact ⟨named, accepts_setterWrapper.2 rfl, rfl⟩
    | adder => exact ⟨named, accepts_adderWrapper _ _ _, rfl⟩
    | booleanDefault => exact absurd rfl (others ⟨rfl, rfl⟩ named)
    | field | hiddenConstructor | getter | factory => cases kind

theorem answers_nothing_iff (member : v ∈ before) :
    Answers v w.name 0 false ↔ v.isAdderNamed w.name = true := by
  have produces := produces_of_before split member
  have others := parameters_ne_nil_of_before apart split isDefault member
  rw [Member.isAdderNamed_iff]
  constructor
  · intro answers
    refine ⟨?_, answers.named⟩
    cases produces with
    | adder => rfl
    | setter => cases accepts_setterWrapper.1 answers.accepts
    -- These would take nothing under the name of the default, and clash with it.
    | getter | booleanDefault => exact absurd rfl (others ⟨rfl, rfl⟩ answers.named)
    | field | hiddenConstructor | factory => cases answers.kind
  · rintro ⟨kind, named⟩
    cases produces with
    | adder => exact ⟨named, accepts_adderWrapper _ _ _, rfl⟩
    | setter | booleanDefault | getter | field | hiddenConstructor | factory => cases kind

theorem resolve_true :
    ∃ first ∈ before, before.find? (·.isWrapperNamed w.name) = some first ∧
      first.isWrapperNamed w.name = true ∧
      resolve (planner.plan source) w.name 1 false = .ok first :=
  resolve_find split (fun _ member => answers_true_iff apart split isDefault member)
    (wrapper_before split isDefault)

theorem resolve_adder (overtaken : before.any (·.isAdderNamed w.name) = true) :
    ∃ first ∈ before, before.find? (·.isAdderNamed w.name) = some first ∧
      first.isAdderNamed w.name = true ∧
      resolve (planner.plan source) w.name 0 false = .ok first :=
  resolve_find split (fun _ member => answers_nothing_iff apart split isDefault member)
    (List.any_eq_true.1 overtaken)

theorem resolve_default (alone : before.any (·.isAdderNamed w.name) = false) :
    resolve (planner.plan source) w.name 0 false = .ok w := by
  obtain ⟨m, -, -, -, rfl, -⟩ := Planner.before_booleanDefault split isDefault
  refine resolve_first split ⟨rfl, (accepts_of_no_parameters rfl).2 rfl, rfl⟩
    fun v member answers => ?_
  exact List.any_eq_false.1 alone v member
    ((answers_nothing_iff apart split isDefault member).1 answers)

theorem invoke_true (alive : instances[id]? = some r) :
    ∃ first called, before.find? (·.isWrapperNamed w.name) = some first ∧
      first.origin = some called ∧
      invoke (planner.plan source) id w.name [.bool true] instances =
        (.ok (.wrapper id), instances.set id (r.call called (.bool true))) := by
  obtain ⟨bound, -⟩ := List.getElem?_eq_some_iff.1 alive
  obtain ⟨first, member, found, isNamed, resolved⟩ := resolve_true apart split isDefault
  obtain ⟨kind, named⟩ := Member.isWrapperNamed_iff.1 isNamed
  have runs : invoke (planner.plan source) id w.name [.bool true] instances = _ :=
    invoke_resolved bound resolved
  have others := parameters_ne_nil_of_before apart split isDefault member
  cases produces_of_before split member with
  | @setter m _ =>
    exact ⟨_, m.name, found, rfl, runs.trans (run_setterWrapper alive _ _ _ _)⟩
  | @adder m _ =>
    exact ⟨_, m.name, found, rfl, runs.trans (run_adderWrapper alive _ _ _ _)⟩
  | booleanDefault => exact absurd rfl (others ⟨rfl, rfl⟩ named)
  | field | hiddenConstructor | getter | factory => cases kind

theorem invoke_overtaken (alive : instances[id]? = some r)
    (overtaken : before.any (·.isAdderNamed w.name) = true) :
    invoke (planner.plan source) id w.name [] instances = (.ok (.wrapper id), instances) := by
  obtain ⟨bound, same⟩ := List.getElem?_eq_some_iff.1 alive
  obtain ⟨first, member, -, isNamed, resolved⟩ := resolve_adder apart split isDefault overtaken
  have runs : invoke (planner.plan source) id w.name [] instances = _ :=
    invoke_resolved bound resolved
  have unchanged (method : String) : instances.set id (r.callEach method []) = instances := by
    rw [← foldl_record alive, List.foldl_nil]
  cases produces_of_before split member with
  | adder => rw [runs, run_adderWrapper alive, unchanged]
  | field | hiddenConstructor | getter | factory | setter | booleanDefault =>
    cases (Member.isAdderNamed_iff.1 isNamed).1

theorem invoke_default (alive : id < instances.length)
    (alone : before.any (·.isAdderNamed w.name) = false) :
    invoke (planner.plan source) id w.name [] instances =
      invoke (planner.plan source) id w.name [.bool true] instances := by
  have runs : invoke (planner.plan source) id w.name [] instances = _ :=
    invoke_resolved alive (resolve_default apart split isDefault alone)
  obtain ⟨m, -, -, -, rfl, -⟩ := Planner.before_booleanDefault split isDefault
  exact runs.trans (run_booleanDefault _ _ _ _)

end Order

/-- A call with `true` of a boolean default's name makes one call, of the method of the first wrapper
of the name, and returns the receiver; without arguments it does the same, unless an adder's wrapper
of the name stands before the default, which then makes no call at all. So both calls make one call
of the default's own setter exactly if its wrapper is the first of the name and there is no such
adder. -/
theorem booleanDefault_calls {model : CodeModel}
    (staged : ∃ c, model.stage (planner.plan source) = .ok c)
    (split : (planner.plan source).members = before ++ w :: after)
    (isDefault : w.kind = .booleanDefault) (alive : instances[id]? = some r) :
    let plan := planner.plan source
    let overtaken := before.any (·.isAdderNamed w.name)
    ∃ first called setter, before.find? (·.isWrapperNamed w.name) = some first ∧
      first.origin = some called ∧ w.origin = some setter ∧
      invoke plan id w.name [.bool true] instances =
        (.ok (.wrapper id), instances.set id (r.call called (.bool true))) ∧
      invoke plan id w.name [] instances =
        (.ok (.wrapper id),
          if overtaken then instances else instances.set id (r.call called (.bool true))) ∧
      ((∀ arguments ∈ [[], [.bool true]], invoke plan id w.name arguments instances =
          (.ok (.wrapper id), instances.set id (r.call setter (.bool true)))) ↔
        called = setter ∧ overtaken = false) := by
  intro plan overtaken
  obtain ⟨-, declarable⟩ := CodeModel.stage_isOk_iff.1 staged
  obtain ⟨bound, same⟩ := List.getElem?_eq_some_iff.1 alive
  obtain ⟨m, -, -, -, shape, -⟩ := Planner.before_booleanDefault split isDefault
  obtain ⟨first, called, found, origin, withTrue⟩ :=
    invoke_true declarable.apart split isDefault alive
  have withNothing : invoke plan id w.name [] instances =
      (.ok (.wrapper id),
        if overtaken then instances else instances.set id (r.call called (.bool true))) := by
    cases adders : overtaken with
    | true => exact invoke_overtaken declarable.apart split isDefault alive adders
    | false => exact (invoke_default declarable.apart split isDefault bound adders).trans withTrue
  refine ⟨first, called, m.name, found, origin, shape ▸ rfl, withTrue, withNothing, ?_⟩
  simp only [List.forall_mem_cons, List.not_mem_nil, false_imp_iff, implies_true, and_true]
  rw [withTrue, withNothing]
  cases overtaken with
  | true => simp [set_call_ne alive]
  | false => simp [set_call_inj bound]

theorem booleanDefault_calls_immediate :
    let members := (Planner.plan default Samples.textField).members
    let w := Template.booleanDefault "immediate" "setImmediate"
    (∃ c, (CodeModel.stampedWith none).stage (Planner.plan default Samples.textField) = .ok c) ∧
      members = members.take 7 ++ w :: members.drop 8 ∧
      ∀ arguments ∈ [[], [.bool true]],
        invoke (Planner.plan default Samples.textField) 0 "immediate" arguments [{}] =
          (.ok (.wrapper 0), [{ calls := [⟨"setImmediate", .bool true⟩] }]) := by
  intro members w
  have staged : ∃ c, (CodeModel.stampedWith none).stage (Planner.plan default Samples.textField) =
      .ok c := exists_ok (by decide +kernel)
  have split : members = members.take 7 ++ w :: members.drop 8 := by decide +kernel
  have wrapper : (members.take 7).find? (·.isWrapperNamed w.name) =
      some (Template.setterWrapper "setImmediate" Samples.boolean) := by decide
  have alive : ([{}] : Instances)[0]? = some ({} : Recording) := rfl
  obtain ⟨first, called, setter, found, comes, own, -, -, both⟩ :=
    booleanDefault_calls staged split rfl alive
  obtain rfl := Option.some.inj (wrapper.symm.trans found)
  obtain rfl := Option.some.inj comes
  obtain rfl := Option.some.inj own
  exact ⟨staged, split, both.2 ⟨rfl, by decide⟩⟩

/-- An adder's wrapper called like the default takes the call without arguments, so that nothing is
set, and the one with `true`, which is added. -/
theorem tags_default_unlike_true :
    let source := { SourceType.ofName "a.Form" with
      methods := [.ofTypes "addTag" [Samples.string], .ofTypes "setAddTags" [Samples.boolean]] }
    let plan := Planner.plan default source
    ((CodeModel.stampedWith none).stage plan).isOk = true ∧
      Template.booleanDefault "addTags" "setAddTags" ∈ plan.members ∧
      invoke plan 0 "addTags" [] [{}] = (.ok (.wrapper 0), [{}]) ∧
      invoke plan 0 "addTags" [.bool true] [{}] =
        (.ok (.wrapper 0), [{ calls := [⟨"addTag", .bool true⟩] }]) := by
  decide +kernel

end Interpreter

end FluentWrap
