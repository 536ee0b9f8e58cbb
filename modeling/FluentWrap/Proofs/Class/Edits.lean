import FluentWrap.Proofs.Class.Declaring

/-!
Code models over whole runs. However classes are defined and changed, and whether or not it
succeeds, the index leads to every class by its name, and no class holds two members of one key.
-/

set_option autoImplicit false

namespace FluentWrap

/-- What can be asked of a code model: to define a class, or to change one that is defined. -/
inductive Edit where
  | define (plan : Plan)
  | declare (name : QualifiedName) (m : Member)
  | restamp (name : QualifiedName) (stamp : Option Stamp)

namespace Edit

def target? : Edit → Option QualifiedName
  | define _ => none
  | declare name _ | restamp name _ => some name

def members : Edit → List Member
  | define plan => plan.members
  | declare _ m => [m]
  | restamp .. => []

/-- The result and the model afterwards; `none` if the class to be changed is not defined. -/
def perform (model : CodeModel) : Edit → Option (Attempt CodeModel Unit)
  | define plan => some ((model.define plan).1.map fun _ => (), (model.define plan).2)
  | declare name m => model.onClass? name fun c => c.declare m
  | restamp name stamp => model.onClass? name fun c => c.restamp stamp

inductive Makes (model : CodeModel) : Edit → ClassDeclaration → Prop where
  | staged {plan : Plan} {c : ClassDeclaration} : model.stage plan = .ok c →
      Makes model (.define plan) c
  | declared {c : ClassDeclaration} {m : Member} : c ∈ model.classes →
      Makes model (.declare c.name m) (c.declare m).2
  | restamped {c : ClassDeclaration} {stamp : Option Stamp} : c ∈ model.classes →
      Makes model (.restamp c.name stamp) (c.restamp stamp).2

end Edit

namespace CodeModel

/-- Perform edits one after the other, also behind one that fails. -/
def editAll (model : CodeModel) : List Edit → CodeModel
  | [] => model
  | edit :: rest =>
    match edit.perform model with
    | none => model.editAll rest
    | some (_, changed) => changed.editAll rest

/-- Whether the parts of a model agree: the index with the names of the classes, which differ, and
the keys of each class with its members, no two of which clash. -/
structure Consistent (model : CodeModel) : Prop where
  indexed : ∀ name position,
    model.index.get? name = some position ↔ model.names[position]? = some name
  distinct : model.names.Nodup
  known : ∀ c ∈ model.classes, ∀ key, key ∈ c.keys ↔ ∃ m ∈ c.members, m.key = key
  apart : ∀ c ∈ model.classes, c.members.Pairwise fun a b => ¬ a.Clash b

variable {model after : CodeModel} {edit : Edit} {result : Except Error Unit}

theorem Consistent.of_keyed (coherent : model.Coherent) (keyed : ∀ c ∈ model.classes, c.Keyed) :
    model.Consistent where
  indexed := coherent
  distinct := coherent.distinct
  known c member := (keyed c member).known
  apart c member := Member.nodup_map_key.1 (keyed c member).distinct

theorem Consistent.keyed (consistent : model.Consistent) {c : ClassDeclaration}
    (member : c ∈ model.classes) : c.Keyed where
  known := consistent.known c member
  distinct := Member.nodup_map_key.2 (consistent.apart c member)

section Steps

theorem Coherent.perform (coherent : model.Coherent)
    (performed : edit.perform model = some (result, after)) : after.Coherent := by
  cases edit with
  | define plan =>
    have defined := coherent.define plan
    rwa [(Prod.mk.inj (Option.some.inj performed)).2] at defined
  | declare name m => exact coherent.onClass? (fun c => c.name_declare m) performed
  | restamp name stamp => exact coherent.onClass? (fun _ => rfl) performed

theorem Coherent.mem_of_perform (coherent : model.Coherent)
    (performed : edit.perform model = some (result, after)) {c : ClassDeclaration}
    (member : c ∈ after.classes) : c ∈ model.classes ∨ edit.Makes model c := by
  -- A definition appends a class; a change replaces the one to which the index leads.
  cases edit with
  | define plan =>
    obtain rfl := (Prod.mk.inj (Option.some.inj performed)).2
    cases staged : model.stage plan with
    | error e =>
      rw [define_error staged] at member
      exact .inl member
    | ok made =>
      rw [define_ok staged] at member
      rcases List.mem_append.1 member with old | new
      · exact .inl old
      · rw [List.mem_singleton.1 new]
        exact .inr (.staged staged)
  | declare name m =>
    obtain ⟨position, old, found, rfl, same⟩ := coherent.onClass?_eq performed
    obtain ⟨-, rfl⟩ := Prod.mk.inj same
    rcases List.mem_or_eq_of_mem_set member with kept | rfl
    · exact .inl kept
    · exact .inr (.declared (List.mem_of_getElem? found))
  | restamp name stamp =>
    obtain ⟨position, old, found, rfl, same⟩ := coherent.onClass?_eq performed
    obtain ⟨-, rfl⟩ := Prod.mk.inj same
    rcases List.mem_or_eq_of_mem_set member with kept | rfl
    · exact .inl kept
    · exact .inr (.restamped (List.mem_of_getElem? found))

theorem mem_members_of_makes {c : ClassDeclaration} {m : Member} (made : edit.Makes model c)
    (member : m ∈ c.members) : m ∈ edit.members ∨ ∃ old ∈ model.classes, m ∈ old.members := by
  cases made with
  | staged staged =>
    rw [(stage_ok staged).1] at member
    exact .inl member
  | @declared old added known =>
    rcases old.declare_cases added with ⟨e, refused⟩ | taken
    · rw [refused] at member
      exact .inr ⟨old, known, member⟩
    · rw [taken] at member
      rcases List.mem_append.1 member with before | last
      · exact .inr ⟨old, known, before⟩
      · exact .inl last
  | @restamped old stamp known => exact .inr ⟨old, known, member⟩

theorem Consistent.perform (consistent : model.Consistent)
    (performed : edit.perform model = some (result, after)) : after.Consistent := by
  have coherent : model.Coherent := consistent.indexed
  refine .of_keyed (coherent.perform performed) fun c member => ?_
  rcases coherent.mem_of_perform performed member with old | made
  · exact consistent.keyed old
  · cases made with
    | staged staged => exact (stage_ok staged).2.2
    | declared old => exact (consistent.keyed old).declare _
    | restamped old => exact (consistent.keyed old).restamp _

/-- An edit that is refused leaves no trace. -/
theorem Coherent.eq_of_refused (coherent : model.Coherent) {e : Error}
    (refused : edit.perform model = some (.error e, after)) : after = model := by
  cases edit with
  | define plan =>
    obtain ⟨failed, rfl⟩ := Prod.mk.inj (Option.some.inj refused)
    cases staged : model.stage plan with
    | error e => rw [define_error staged]
    | ok c =>
      rw [define_ok staged] at failed
      cases failed
  | declare name m =>
    obtain ⟨position, c, found, -, same⟩ := coherent.onClass?_eq refused
    obtain ⟨failed, rfl⟩ := Prod.mk.inj same
    rcases c.declare_cases m with ⟨e', unchanged⟩ | taken
    · -- The class is put back in its place as it was.
      obtain ⟨bound, there⟩ := List.getElem?_eq_some_iff.1 found
      rw [unchanged, ← there, List.set_getElem_self]
    · rw [taken] at failed
      cases failed
  | restamp name stamp =>
    -- A stamp is never refused.
    obtain ⟨position, c, -, -, same⟩ := coherent.onClass?_eq refused
    cases (Prod.mk.inj same).1

theorem Coherent.onClass?_eq_none (coherent : model.Coherent) {α : Type} {name : QualifiedName}
    {step : ClassDeclaration → Attempt ClassDeclaration α} :
    model.onClass? name step = none ↔ name ∉ model.names := by
  unfold CodeModel.onClass?
  rw [List.mem_iff_getElem?, Option.bind_eq_none_iff]
  constructor
  · rintro missing ⟨position, named⟩
    have indexed := (coherent name position).2 named
    have absent := Option.map_eq_none_iff.1 (missing position indexed)
    rw [names, List.getElem?_map, absent] at named
    cases named
  · intro absent position indexed
    exact absurd ⟨position, (coherent name position).1 indexed⟩ absent

theorem Coherent.perform_eq_none (coherent : model.Coherent) (edit : Edit) :
    edit.perform model = none ↔ ∃ name, edit.target? = some name ∧ name ∉ model.names := by
  cases edit with
  | define plan => simp [Edit.perform, Edit.target?]
  | declare name m => simp [Edit.perform, Edit.target?, coherent.onClass?_eq_none]
  | restamp name stamp => simp [Edit.perform, Edit.target?, coherent.onClass?_eq_none]

end Steps

section Runs

/-- What every edit of a run keeps holds at its end. -/
theorem editAll_induction {P : CodeModel → Prop} {edits : List Edit}
    (keeps : ∀ edit ∈ edits, ∀ model result after, P model →
      edit.perform model = some (result, after) → P after)
    (start : P model) : P (model.editAll edits) := by
  -- Each edit starts from the model that the edits before it leave.
  induction edits generalizing model with
  | nil => exact start
  | cons edit rest ih =>
    have later : ∀ edit ∈ rest, ∀ model result after, P model →
        edit.perform model = some (result, after) → P after :=
      fun edit member => keeps edit (List.mem_cons_of_mem _ member)
    rw [editAll]
    split
    · exact ih later start
    · next performed => exact ih later (keeps edit List.mem_cons_self _ _ _ start performed)

theorem Consistent.stampedWith (stamp : Option Stamp) :
    (CodeModel.stampedWith stamp).Consistent :=
  .of_keyed (.stampedWith stamp) fun _ member => absurd member List.not_mem_nil

theorem Consistent.editAll (consistent : model.Consistent) (edits : List Edit) :
    (model.editAll edits).Consistent :=
  editAll_induction (fun _ _ _ _ _ consistent => consistent.perform) consistent

theorem editAll_members {Q : Member → Prop} (stamp : Option Stamp) {edits : List Edit}
    (brings : ∀ edit ∈ edits, ∀ m ∈ edit.members, Q m) :
    ∀ c ∈ ((CodeModel.stampedWith stamp).editAll edits).classes, ∀ m ∈ c.members, Q m := by
  -- Only of a coherent model it is known that an edit changes no other class.
  refine (editAll_induction
    (P := fun model => model.Coherent ∧ ∀ c ∈ model.classes, ∀ m ∈ c.members, Q m) ?_
    ⟨.stampedWith stamp, fun _ member => absurd member List.not_mem_nil⟩).2
  rintro edit asked model result after ⟨coherent, hold⟩ performed
  refine ⟨coherent.perform performed, fun c member m inside => ?_⟩
  rcases coherent.mem_of_perform performed member with old | made
  · exact hold c old m inside
  · rcases mem_members_of_makes made inside with brought | ⟨old, known, before⟩
    · exact brings edit asked m brought
    · exact hold old known m before

/-- From an empty model no run of edits, whatever plans and members they bring, leads to a model
whose parts disagree. There every edit of a defined class is performed, and one that is refused
leaves the whole model as it was. -/
theorem editAll_consistent (stamp : Option Stamp) (edits : List Edit) :
    ((CodeModel.stampedWith stamp).editAll edits).Consistent ∧
      ∀ edit : Edit,
        (edit.perform ((CodeModel.stampedWith stamp).editAll edits) = none ↔
          ∃ name, edit.target? = some name ∧
            name ∉ ((CodeModel.stampedWith stamp).editAll edits).names) ∧
        ∀ e after, edit.perform ((CodeModel.stampedWith stamp).editAll edits) =
          some (.error e, after) → after = (CodeModel.stampedWith stamp).editAll edits := by
  have consistent := (Consistent.stampedWith stamp).editAll edits
  have coherent : Coherent _ := consistent.indexed
  exact ⟨consistent, fun edit => ⟨coherent.perform_eq_none edit, fun e after refused =>
    coherent.eq_of_refused refused⟩⟩

end Runs

end CodeModel

end FluentWrap
