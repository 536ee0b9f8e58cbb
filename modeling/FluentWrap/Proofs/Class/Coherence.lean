import FluentWrap.Class.Model
import Mathlib.Data.List.Forall2

/-!
What staging and defining a class come to, and that the index of a model never loses track of its
classes.
-/

set_option autoImplicit false

namespace FluentWrap

theorem exists_of_forall₂ {α β : Type} {R : α → β → Prop} {entries : List α} {others : List β}
    (related : List.Forall₂ R entries others) {entry : α} (member : entry ∈ entries) :
    ∃ other ∈ others, R entry other := by
  induction related with
  | nil => cases member
  | cons first rest ih =>
    rcases List.mem_cons.1 member with rfl | member
    · exact ⟨_, List.mem_cons_self, first⟩
    · obtain ⟨other, present, holds⟩ := ih member
      exact ⟨other, List.mem_cons_of_mem _ present, holds⟩

namespace ClassDeclaration

/-- Whether a class is the one that a plan describes, perhaps with further members behind those of
the plan. -/
structure Realizes (c : ClassDeclaration) (plan : Plan) : Prop where
  name : c.name = plan.generated
  delegateType : c.delegateType = plan.delegateType
  fieldName : c.fieldName = plan.fieldName
  members : plan.members <+: c.members

theorem declare_cases (c : ClassDeclaration) (m : Member) :
    (∃ e, c.declare m = (.error e, c)) ∨
      c.declare m =
        (.ok (), { c with members := c.members ++ [m], keys := c.keys.insert m.key }) := by
  unfold declare
  split
  · exact .inl ⟨_, rfl⟩
  · split
    · exact .inl ⟨_, rfl⟩
    · exact .inr rfl

theorem name_declare (c : ClassDeclaration) (m : Member) : (c.declare m).2.name = c.name := by
  rcases c.declare_cases m with ⟨e, refused⟩ | taken
  · rw [refused]
  · rw [taken]

theorem declareAll_ok {c declared : ClassDeclaration} {members : List Member}
    (accepted : c.declareAll members = (.ok (), declared)) :
    ∃ keys, declared = { c with members := c.members ++ members, keys } := by
  induction members generalizing c with
  | nil =>
    obtain rfl : c = declared := congrArg Prod.snd accepted
    exact ⟨c.keys, by simp⟩
  | cons m rest ih =>
    rcases c.declare_cases m with ⟨e, refused⟩ | taken
    · simp only [declareAll, refused] at accepted
      cases accepted
    · simp only [declareAll, taken] at accepted
      obtain ⟨keys, same⟩ := ih accepted
      exact ⟨keys, by simp [same]⟩

theorem declareAll_stamped (c : ClassDeclaration) (stamp : Option Stamp) (members : List Member) :
    { c with stamp }.declareAll members =
      ((c.declareAll members).1, { (c.declareAll members).2 with stamp }) := by
  induction members generalizing c with
  | nil => rfl
  | cons m rest ih =>
    -- A declaration reads the members and keys, never the stamp.
    have first : { c with stamp }.declare m =
        ((c.declare m).1, { (c.declare m).2 with stamp }) := by
      unfold declare
      dsimp only
      split
      · rfl
      · split <;> rfl
    rcases c.declare_cases m with ⟨e, refused⟩ | taken
    · simp only [declareAll, first, refused]
    · simp only [declareAll, first, taken]
      exact ih { c with members := c.members ++ [m], keys := c.keys.insert m.key }

theorem Realizes.declare {c : ClassDeclaration} {plan : Plan} (realizes : c.Realizes plan)
    (m : Member) : (c.declare m).2.Realizes plan := by
  rcases c.declare_cases m with ⟨e, refused⟩ | taken
  · rw [refused]
    exact realizes
  · rw [taken]
    exact { realizes with members := realizes.members.trans (List.prefix_append _ _) }

theorem Realizes.restamp {c : ClassDeclaration} {plan : Plan} (realizes : c.Realizes plan)
    (stamp : Option Stamp) : (c.restamp stamp).2.Realizes plan :=
  { realizes with }

theorem open?_ok {name : QualifiedName} {delegateType : TypeRef} {fieldName : String}
    {c : ClassDeclaration} (opened : open? name delegateType fieldName = .ok c) :
    c = ⟨name, delegateType, fieldName, none, [], []⟩ := by
  unfold open? at opened
  split at opened
  · cases opened
  · split at opened
    · cases opened
    · split at opened
      · cases opened
      · exact (Except.ok.inj opened).symm

end ClassDeclaration

namespace CodeModel

/-- Whether the index leads from exactly the names of the classes to their places. -/
def Coherent (model : CodeModel) : Prop :=
  ∀ name position,
    model.index.get? name = some position ↔ model.names[position]? = some name

variable {model : CodeModel} {plan : Plan}

section Staging

theorem stage_of_index (model : CodeModel) (plan : Plan) :
    model.stage plan =
      if model.index.contains plan.generated then
        .error (.conflict plan.generated.display "class")
      else (stampedWith model.stamp).stage plan := rfl

/-- What an empty model makes of a plan does not depend on its stamp, but for the stamp itself. -/
theorem stage_stampedWith (stamp other : Option Stamp) (plan : Plan) :
    (stampedWith other).stage plan =
      ((stampedWith stamp).stage plan).map fun c => { c with stamp := other } := by
  have free : (Dictionary.empty : Dictionary QualifiedName Nat).contains plan.generated = false :=
    rfl
  simp only [stage, stampedWith, free]
  cases ClassDeclaration.open? plan.generated plan.delegateType plan.fieldName with
  | error e => rfl
  | ok c =>
    have same := ClassDeclaration.declareAll_stamped c
    simp only [same other, same stamp]
    rcases c.declareAll plan.members with ⟨e | _, declared⟩ <;> rfl

theorem realizes_of_stage {c : ClassDeclaration} (staged : model.stage plan = .ok c) :
    c.Realizes plan := by
  unfold stage at staged
  split at staged
  · cases staged
  · split at staged
    · cases staged
    · next opened =>
      split at staged
      · cases staged
      · next declared =>
        obtain rfl := Except.ok.inj staged
        obtain ⟨keys, rfl⟩ := ClassDeclaration.declareAll_ok declared
        rw [ClassDeclaration.open?_ok opened]
        exact ⟨rfl, rfl, rfl, List.prefix_rfl⟩

end Staging

section Lookups

theorem Coherent.stampedWith (stamp : Option Stamp) : (CodeModel.stampedWith stamp).Coherent := by
  intro name position
  simp [CodeModel.stampedWith, names]

theorem Coherent.contains_iff (coherent : model.Coherent) {name : QualifiedName} :
    model.index.contains name = true ↔ name ∈ model.names := by
  rw [Dictionary.contains_iff, List.mem_iff_getElem?]
  exact exists_congr fun position => coherent name position

theorem Coherent.distinct (coherent : model.Coherent) : model.names.Nodup := by
  refine List.pairwise_iff_getElem.2 fun i j left right before same => ?_
  -- The index gives one place to a name that stands at two.
  have first := (coherent _ i).2 (List.getElem?_eq_getElem left)
  have second := (coherent _ j).2 (List.getElem?_eq_getElem right)
  rw [same, second] at first
  have equal := Option.some.inj first
  omega

theorem getElem?_names {position : Nat} {c : ClassDeclaration}
    (found : model.classes[position]? = some c) : model.names[position]? = some c.name := by
  rw [names, List.getElem?_map, found]
  rfl

theorem Coherent.find?_iff (coherent : model.Coherent) {name : QualifiedName}
    {c : ClassDeclaration} : model.find? name = some c ↔ c ∈ model.classes ∧ c.name = name := by
  unfold find?
  rw [Option.bind_eq_some_iff]
  constructor
  · rintro ⟨position, indexed, found⟩
    have named := (coherent name position).1 indexed
    rw [getElem?_names found] at named
    exact ⟨List.mem_of_getElem? found, Option.some.inj named⟩
  · rintro ⟨member, rfl⟩
    obtain ⟨position, found⟩ := List.mem_iff_getElem?.1 member
    exact ⟨position, (coherent c.name position).2 (getElem?_names found), found⟩

theorem Coherent.onClass?_eq (coherent : model.Coherent) {α : Type} {name : QualifiedName}
    {step : ClassDeclaration → Attempt ClassDeclaration α} {outcome : Attempt CodeModel α}
    (taken : model.onClass? name step = some outcome) :
    ∃ position c, model.classes[position]? = some c ∧ c.name = name ∧
      outcome =
        ((step c).1, { model with classes := model.classes.set position (step c).2 }) := by
  obtain ⟨position, indexed, taken⟩ := Option.bind_eq_some_iff.1 taken
  obtain ⟨c, found, taken⟩ := Option.map_eq_some_iff.1 taken
  have named := (coherent name position).1 indexed
  rw [getElem?_names found] at named
  exact ⟨position, c, found, Option.some.inj named, taken.symm⟩

end Lookups

section Steps

theorem define_error {e : Error} (refused : model.stage plan = .error e) :
    model.define plan = (.error e, model) := by
  unfold define
  rw [refused]

theorem define_ok {c : ClassDeclaration} (staged : model.stage plan = .ok c) :
    model.define plan = (.ok plan.generated, { model with
      index := model.index.insert plan.generated model.classes.length
      classes := model.classes ++ [c] }) := by
  have named := (realizes_of_stage staged).name
  unfold define
  rw [staged]
  dsimp only
  rw [named]

theorem names_append (model : CodeModel) (c : ClassDeclaration) :
    (model.classes ++ [c]).map ClassDeclaration.name = model.names ++ [c.name] :=
  List.map_append

theorem names_define {c : ClassDeclaration} (staged : model.stage plan = .ok c) :
    (model.define plan).2.names = model.names ++ [plan.generated] := by
  rw [define_ok staged]
  exact (names_append model c).trans
    (congrArg (model.names ++ [·]) (realizes_of_stage staged).name)

theorem Coherent.fresh_of_stage {c : ClassDeclaration} (coherent : model.Coherent)
    (staged : model.stage plan = .ok c) : plan.generated ∉ model.names := by
  intro taken
  rw [stage_of_index, if_pos (coherent.contains_iff.2 taken)] at staged
  cases staged

theorem names_set {position : Nat} {c changed : ClassDeclaration}
    (found : model.classes[position]? = some c) (same : changed.name = c.name) :
    (model.classes.set position changed).map ClassDeclaration.name = model.names := by
  obtain ⟨bound, named⟩ := List.getElem?_eq_some_iff.1 (getElem?_names found)
  rw [List.map_set, same, ← named]
  exact List.set_getElem_self bound

theorem getElem?_append_one {α : Type} {entries : List α} {last entry : α} {position : Nat} :
    (entries ++ [last])[position]? = some entry ↔
      entries[position]? = some entry ∨ position = entries.length ∧ last = entry := by
  rcases Nat.lt_trichotomy position entries.length with inside | rfl | outside
  · rw [List.getElem?_append_left inside]
    exact ⟨.inl, fun h => h.resolve_right fun end_ => by omega⟩
  · simp
  · have length : (entries ++ [last]).length ≤ position := by
      rw [List.length_append]
      exact outside
    rw [List.getElem?_eq_none length, List.getElem?_eq_none (Nat.le_of_lt outside)]
    constructor
    · intro h
      cases h
    · rintro (h | ⟨same, -⟩)
      · cases h
      · omega

theorem Coherent.define (coherent : model.Coherent) (plan : Plan) :
    (model.define plan).2.Coherent := by
  cases staged : model.stage plan with
  | error e =>
    rw [define_error staged]
    exact coherent
  | ok c =>
    have fresh := coherent.fresh_of_stage staged
    have places : model.names.length = model.classes.length := List.length_map _
    intro name position
    rw [names_define staged, define_ok staged, Dictionary.get?_insert, getElem?_append_one, places]
    by_cases same : plan.generated = name
    · subst same
      have absent : ¬ model.names[position]? = some plan.generated := fun found =>
        fresh (List.mem_of_getElem? found)
      simp [absent, eq_comm]
    · simp [same, coherent name position]

theorem Coherent.onClass? (coherent : model.Coherent) {α : Type} {name : QualifiedName}
    {step : ClassDeclaration → Attempt ClassDeclaration α} {outcome : Attempt CodeModel α}
    (keeps : ∀ c, (step c).2.name = c.name)
    (taken : model.onClass? name step = some outcome) : outcome.2.Coherent := by
  obtain ⟨position, c, found, -, rfl⟩ := coherent.onClass?_eq taken
  intro other place
  dsimp only [names]
  rw [names_set found (keeps c)]
  exact coherent other place

end Steps

end CodeModel

end FluentWrap
