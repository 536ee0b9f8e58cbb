import FluentWrap.Interpreter
import FluentWrap.Plan.Template
import Mathlib.Data.List.Nodup

/-!
How members are found and run. A member answers a call if its name and the number of arguments
fit; what each template does when it is run is stated once, here.
-/

set_option autoImplicit false

namespace FluentWrap

namespace MemberKind

def isInstance : MemberKind → Bool
  | field | hiddenConstructor | factory => false
  | _ => true

end MemberKind

def Recording.callEach (r : Recording) (method : String) (values : List Value) : Recording :=
  { r with calls := r.calls ++ values.map fun v => ⟨method, v⟩ }

namespace Interpreter

structure Answers (m : Member) (name : String) (arity : Nat) (static_ : Bool) : Prop where
  named : m.name = name
  accepts : accepts m arity = true
  kind : if static_ then m.kind = .factory else m.kind.isInstance = true

theorem answers_iff {m : Member} {name : String} {arity : Nat} {static_ : Bool} :
    (!m.kind.isField && !m.kind.isConstructor && m.name = name
      && (m.kind = .factory) = static_ && accepts m arity) = true ↔
      Answers m name arity static_ := by
  constructor
  · intro h
    simp only [Bool.and_eq_true, decide_eq_true_eq] at h
    obtain ⟨⟨⟨⟨noField, noConstructor⟩, named⟩, kind⟩, accepts⟩ := h
    refine ⟨named, accepts, ?_⟩
    cases static_ <;> cases shape : m.kind <;>
      simp_all [MemberKind.isField, MemberKind.isConstructor, MemberKind.isInstance]
  · rintro ⟨named, accepts, kind⟩
    cases static_ <;> cases shape : m.kind <;>
      simp_all [MemberKind.isField, MemberKind.isConstructor, MemberKind.isInstance]

section Resolution

variable {plan : Plan} {name : String} {arity : Nat} {static_ : Bool}

theorem answers_of_resolve {m : Member} (found : resolve plan name arity static_ = .ok m) :
    m ∈ plan.members ∧ Answers m name arity static_ := by
  unfold resolve at found
  split at found
  · next m' selected =>
    cases found
    have fits := List.find?_some selected
    exact ⟨List.mem_of_find?_eq_some selected, answers_iff.1 fits⟩
  · cases found

theorem resolve_of_answers {m : Member} (member : m ∈ plan.members)
    (answers : Answers m name arity static_) :
    ∃ first, resolve plan name arity static_ = .ok first := by
  unfold resolve
  split
  · exact ⟨_, rfl⟩
  · next missing =>
    exact absurd (answers_iff.2 answers) (List.find?_eq_none.1 missing m member)

theorem resolve_first {m : Member} {before after : List Member}
    (split : plan.members = before ++ m :: after) (answers : Answers m name arity static_)
    (unanswered : ∀ v ∈ before, ¬ Answers v name arity static_) :
    resolve plan name arity static_ = .ok m := by
  have skipped := List.find?_eq_none.2 fun v member fits =>
    unanswered v member (answers_iff.1 fits)
  unfold resolve
  rw [split, List.find?_append, skipped, Option.none_or]
  simp only [List.find?_cons, answers_iff.2 answers]

/-- Where a test tells which members at the front of a plan answer and one of them passes it, a call
means the first that does. -/
theorem resolve_find {before after : List Member} {test : Member → Bool}
    (split : plan.members = before ++ after)
    (tells : ∀ v ∈ before, Answers v name arity static_ ↔ test v = true)
    (passed : ∃ v ∈ before, test v = true) :
    ∃ first ∈ before, before.find? test = some first ∧ test first = true ∧
      resolve plan name arity static_ = .ok first := by
  obtain ⟨first, found⟩ := Option.isSome_iff_exists.1 (List.find?_isSome.2 passed)
  have member := List.mem_of_find?_eq_some found
  obtain ⟨passes, front, back, rfl, others⟩ := List.find?_eq_some_iff_append.1 found
  have whole : plan.members = front ++ first :: (back ++ after) := by
    rw [split, List.append_assoc, List.cons_append]
  refine ⟨first, member, found, passes, ?_⟩
  refine resolve_first whole ((tells first member).2 passes) fun v earlier answers => ?_
  have other := others v earlier
  rw [(tells v (List.mem_append_left _ earlier)).1 answers] at other
  cases other

theorem resolve_unanswered (unanswered : ∀ m ∈ plan.members, ¬ Answers m name arity static_) :
    resolve plan name arity static_ = .error (.noSuchMember name arity) := by
  cases found : resolve plan name arity static_ with
  | ok m =>
    obtain ⟨member, answers⟩ := answers_of_resolve found
    exact absurd answers (unanswered m member)
  | error e =>
    unfold resolve at found
    split at found
    · cases found
    · exact found.symm

theorem resolve_cases (plan : Plan) (name : String) (arity : Nat) (static_ : Bool) :
    (∃ m, resolve plan name arity static_ = .ok m ∧ m ∈ plan.members ∧
      Answers m name arity static_) ∨
    (resolve plan name arity static_ = .error (.noSuchMember name arity) ∧
      ∀ m ∈ plan.members, ¬ Answers m name arity static_) := by
  by_cases answered : ∃ m ∈ plan.members, Answers m name arity static_
  · obtain ⟨m, member, answers⟩ := answered
    obtain ⟨first, found⟩ := resolve_of_answers member answers
    exact .inl ⟨first, found, answers_of_resolve found⟩
  · have unanswered : ∀ m ∈ plan.members, ¬ Answers m name arity static_ :=
      fun m member answers => answered ⟨m, member, answers⟩
    exact .inr ⟨resolve_unanswered unanswered, unanswered⟩

end Resolution

section Bindings

theorem lookup?_of_mem {env : Bindings} {name : String} {binding : Binding}
    (distinct : (env.map Prod.fst).Nodup) (member : (name, binding) ∈ env) :
    lookup? env name = some binding := by
  induction env with
  | nil => cases member
  | cons first rest ih =>
    obtain ⟨fresh, distinct⟩ := List.nodup_cons.1 distinct
    rcases List.mem_cons.1 member with rfl | member
    · simp [lookup?]
    · have other : first.1 ≠ name := fun same =>
        fresh (List.mem_map.2 ⟨_, member, same.symm⟩)
      simpa [lookup?, other] using ih distinct member

theorem valuesOf_zip {env : Bindings} {parameters : List FormalParameter}
    {arguments : List Value} (same : parameters.length = arguments.length)
    (bound : ∀ p v, (p, v) ∈ parameters.zip arguments →
      lookup? env p.name = some (.one v)) :
    (parameters.map FormalParameter.name).mapM (valueOf env) = .ok arguments := by
  induction parameters generalizing arguments with
  | nil =>
    cases arguments with
    | nil => rfl
    | cons => cases same
  | cons p rest ih =>
    cases arguments with
    | nil => cases same
    | cons v values =>
      have first : valueOf env p.name = .ok v := by
        simp [valueOf, bound p v (by simp)]
      have others := ih (Nat.succ.inj same) fun q w member => bound q w (by simp [member])
      simp only [List.map_cons, List.mapM_cons, first, others]
      rfl

end Bindings

section Bodies

variable {plan : Plan} {again : Nat → String → List Value → Instances → Outcome Returned}
  {id : Nat} {r : Recording} {instances : Instances}

theorem record_eq_set (found : instances[id]? = some r) (method : String) (v : Value) :
    record instances id method v = instances.set id (r.call method v) := by
  simp [record, List.modify_eq_set, found]

theorem foldl_record (found : instances[id]? = some r) (method : String) (values : List Value) :
    values.foldl (fun is v => record is id method v) instances =
      instances.set id (r.callEach method values) := by
  induction values generalizing instances r with
  | nil =>
    obtain ⟨bound, rfl⟩ := List.getElem?_eq_some_iff.1 found
    have unchanged : instances[id].callEach method [] = instances[id] := by
      simp [Recording.callEach]
    rw [unchanged, List.set_getElem_self, List.foldl_nil]
  | cons v rest ih =>
    have changed : (instances.set id (r.call method v))[id]? = some (r.call method v) := by
      simp [(List.getElem?_eq_some_iff.1 found).1]
    rw [List.foldl_cons, record_eq_set found, ih changed, List.set_set]
    simp [Recording.callEach, Recording.call]

theorem run_getter (member : String) (env : Bindings) :
    run plan again (some id) member env Template.getter.body instances =
      (.ok (.delegate id), instances) := rfl

theorem run_setterWrapper (found : instances[id]? = some r) (member method : String)
    (type : TypeRef) (v : Value) :
    run plan again (some id) member (bind (Template.setterWrapper method type) [v])
        (Template.setterWrapper method type).body instances =
      (.ok (.wrapper id), instances.set id (r.callEach method [v])) := by
  have value : valueOf (bind (Template.setterWrapper method type) [v])
      (Naming.setterWrapper method) = .ok v := by
    simp [bind, Template.setterWrapper, FormalParameter.fixed, valueOf, lookup?]
  simp only [Template.setterWrapper] at value
  simp only [Template.setterWrapper, run, value, record_eq_set found]
  rfl

theorem run_booleanDefault (member wrapper method : String) (env : Bindings) :
    run plan again (some id) member env (Template.booleanDefault wrapper method).body instances =
      again id wrapper [.bool true] instances := rfl

theorem run_adderWrapper (found : instances[id]? = some r) (member method : String)
    (type : TypeRef) (values : List Value) :
    run plan again (some id) member (bind (Template.adderWrapper method type) values)
        (Template.adderWrapper method type).body instances =
      (.ok (.wrapper id), instances.set id (r.callEach method values)) := by
  have many : lookup? (bind (Template.adderWrapper method type) values)
      (Naming.adderParameter method) = some (.many values) := by
    simp [bind, Template.adderWrapper, lookup?]
  simp only [Template.adderWrapper] at many
  simp only [Template.adderWrapper, run, many, foldl_record found]

theorem accepts_setterWrapper {method : String} {type : TypeRef} {arity : Nat} :
    accepts (Template.setterWrapper method type) arity = true ↔ arity = 1 := by
  simp [accepts, Template.setterWrapper, FormalParameter.fixed]

theorem accepts_adderWrapper (method : String) (type : TypeRef) (arity : Nat) :
    accepts (Template.adderWrapper method type) arity = true := by
  simp [accepts, Template.adderWrapper]

theorem accepts_of_no_parameters {m : Member} (none : m.parameters = []) {arity : Nat} :
    accepts m arity = true ↔ arity = 0 := by
  simp [accepts, none, eq_comm]

end Bodies

section Factories

theorem factoryParameters_fixed {index : Nat} {types : List TypeRef} {p : FormalParameter}
    (member : p ∈ Template.factoryParameters index types) : p.varargs = false := by
  induction types generalizing index with
  | nil => cases member
  | cons t rest ih =>
    rcases List.mem_cons.1 member with rfl | member
    · rfl
    · exact ih member

theorem factoryParameters_named {index : Nat} {types : List TypeRef} {name : String}
    (member : name ∈ (Template.factoryParameters index types).map FormalParameter.name) :
    ∃ position, index ≤ position ∧ name = Naming.factoryArgument position := by
  induction types generalizing index with
  | nil => cases member
  | cons t rest ih =>
    rcases List.mem_cons.1 member with same | member
    · exact ⟨index, Nat.le_refl index, same⟩
    · obtain ⟨position, later, same⟩ := ih member
      exact ⟨position, Nat.le_of_succ_le later, same⟩

theorem factoryParameters_distinct (index : Nat) (types : List TypeRef) :
    ((Template.factoryParameters index types).map FormalParameter.name).Nodup := by
  induction types generalizing index with
  | nil => exact .nil
  | cons t rest ih =>
    refine List.nodup_cons.2 ⟨fun member => ?_, ih (index + 1)⟩
    obtain ⟨position, later, same⟩ := factoryParameters_named member
    have equal := Naming.factoryArgument_inj same
    omega

theorem bind_of_fixed {m : Member} (fixed : ∀ p ∈ m.parameters, p.varargs = false)
    (arguments : List Value) :
    bind m arguments =
      ((m.parameters.zip arguments).map fun (p, v) => (p.name, Binding.one v)).reverse := by
  unfold bind
  match params : m.parameters with
  | [] => rfl
  | [p] => simp [fixed p (by simp [params])]
  | _ :: _ :: _ => rfl

theorem valuesOf_bind {m : Member} {arguments : List Value}
    (fixed : ∀ p ∈ m.parameters, p.varargs = false)
    (distinct : (m.parameters.map FormalParameter.name).Nodup)
    (same : m.parameters.length = arguments.length) :
    (m.parameters.map FormalParameter.name).mapM (valueOf (bind m arguments)) =
      .ok arguments := by
  rw [bind_of_fixed fixed]
  refine valuesOf_zip same fun p v member => lookup?_of_mem ?_ ?_
  · have names := congrArg (List.map FormalParameter.name)
      (List.map_fst_zip (Nat.le_of_eq same))
    rw [List.map_map] at names
    rw [List.map_reverse, List.nodup_reverse, List.map_map]
    exact names.symm ▸ distinct
  · exact List.mem_reverse.2 (List.mem_map.2 ⟨(p, v), member, rfl⟩)

theorem accepts_factory {name origin : String} {types : List TypeRef} {arity : Nat} :
    accepts (Template.factory name types origin) arity = true ↔
      (Template.factory name types origin).parameters.length = arity := by
  have fixed : ∀ p ∈ (Template.factory name types origin).parameters, p.varargs = false :=
    fun p member => factoryParameters_fixed member
  unfold accepts
  match params : (Template.factory name types origin).parameters with
  | [] => simp
  | [p] => simp [fixed p (by simp [params]), eq_comm]
  | _ :: _ :: _ => simp

theorem run_factory {plan : Plan}
    {again : Nat → String → List Value → Instances → Outcome Returned}
    {instances next : Instances} {name origin : String} {types : List TypeRef}
    {arguments : List Value} {id : Nat}
    (same : (Template.factory name types origin).parameters.length = arguments.length)
    (wrapped : wrap plan { constructedWith := arguments } instances = (.ok id, next))
    (member : String) :
    run plan again none member (bind (Template.factory name types origin) arguments)
        (Template.factory name types origin).body instances = (.ok (.wrapper id), next) := by
  have fixed : ∀ p ∈ (Template.factory name types origin).parameters, p.varargs = false :=
    fun p member => factoryParameters_fixed member
  have values := valuesOf_bind fixed (factoryParameters_distinct 0 types) same
  simp only [Template.factory] at values
  simp only [Template.factory, run, values, wrapped]

end Factories

end Interpreter

end FluentWrap
