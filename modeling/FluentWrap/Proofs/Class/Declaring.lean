import FluentWrap.Proofs.Class.Coherence
import Mathlib.Data.List.Nodup

/-!
Which members a class takes, and which plans can be declared. A class takes a member exactly if all
the names it brings are usable and it clashes with no member before it; what a class knows of its
keys is therefore exactly what its members say.
-/

set_option autoImplicit false

namespace FluentWrap

section Members

namespace Statement

def Usable (parameters : List String) : Statement → Prop
  | .delegateCall method _ | .returnSelfCall method _ => Naming.isIdentifier method = true
  | .delegateLoop method _ variableName _ =>
    Naming.isIdentifier method = true ∧ Naming.isIdentifier variableName = true ∧
      variableName ∉ parameters
  | .assignField _ | .returnField | .constructAndWrap _ | .returnSelf => True

end Statement

namespace Member

structure IsMethod (m : Member) : Prop where
  noField : m.kind.isField = false
  noConstructor : m.kind.isConstructor = false

instance (m : Member) : Decidable m.IsMethod :=
  decidable_of_iff (m.kind.isField = false ∧ m.kind.isConstructor = false)
    ⟨fun both => ⟨both.1, both.2⟩, fun method => ⟨method.noField, method.noConstructor⟩⟩

/-- Whether two members cannot stand in one class: two fields of one name, two constructors that
take the same, or two methods of one name that take the same. -/
inductive Clash (a b : Member) : Prop where
  | fields : a.kind.isField = true → b.kind.isField = true → a.name = b.name → Clash a b
  | constructors : a.kind.isConstructor = true → b.kind.isConstructor = true →
      a.signature = b.signature → Clash a b
  | methods : a.IsMethod → b.IsMethod → a.name = b.name → a.signature = b.signature → Clash a b

structure Usable (m : Member) : Prop where
  name : m.kind.isConstructor = false → Naming.isIdentifier m.name = true
  parameters : ∀ p ∈ m.parameters, Naming.isIdentifier p.name = true
  distinct : (m.parameters.map FormalParameter.name).Nodup
  body : ∀ s ∈ m.body, s.Usable (m.parameters.map FormalParameter.name)

theorem isConstructor_of_isField {m : Member} (field : m.kind.isField = true) :
    m.kind.isConstructor = false := by
  cases kind : m.kind <;> simp_all [MemberKind.isField, MemberKind.isConstructor]

theorem kind_cases (m : Member) :
    m.kind.isField = true ∨ m.kind.isConstructor = true ∨ m.IsMethod := by
  cases field : m.kind.isField with
  | true => exact .inl rfl
  | false =>
    cases constructor : m.kind.isConstructor with
    | true => exact .inr (.inl rfl)
    | false => exact .inr (.inr ⟨field, constructor⟩)

theorem key_of_isField {m : Member} (field : m.kind.isField = true) : m.key = .field m.name := by
  simp [key, field]

theorem key_of_isConstructor {m : Member} (constructor : m.kind.isConstructor = true) :
    m.key = .constructor m.signature := by
  have noField : m.kind.isField = false := by
    by_contra field
    have other := isConstructor_of_isField (by simpa using field)
    rw [constructor] at other
    cases other
  simp [key, noField, constructor]

theorem IsMethod.key_eq {m : Member} (method : m.IsMethod) :
    m.key = .method m.name m.signature := by
  simp [key, method.noField, method.noConstructor]

theorem key_eq_iff {a b : Member} : a.key = b.key ↔ a.Clash b := by
  constructor
  · -- Keys of members of different kinds are built by different constructors.
    intro same
    rcases a.kind_cases with left | left | left <;> rcases b.kind_cases with right | right | right
    · rw [key_of_isField left, key_of_isField right] at same
      exact .fields left right (MemberKey.field.inj same)
    · rw [key_of_isField left, key_of_isConstructor right] at same
      cases same
    · rw [key_of_isField left, right.key_eq] at same
      cases same
    · rw [key_of_isConstructor left, key_of_isField right] at same
      cases same
    · rw [key_of_isConstructor left, key_of_isConstructor right] at same
      exact .constructors left right (MemberKey.constructor.inj same)
    · rw [key_of_isConstructor left, right.key_eq] at same
      cases same
    · rw [left.key_eq, key_of_isField right] at same
      cases same
    · rw [left.key_eq, key_of_isConstructor right] at same
      cases same
    · rw [left.key_eq, right.key_eq] at same
      obtain ⟨name, signature⟩ := MemberKey.method.inj same
      exact .methods left right name signature
  · intro clash
    cases clash with
    | fields left right name => rw [key_of_isField left, key_of_isField right, name]
    | constructors left right signature =>
      rw [key_of_isConstructor left, key_of_isConstructor right, signature]
    | methods left right name signature => rw [left.key_eq, right.key_eq, name, signature]

theorem nodup_map_key {members : List Member} :
    (members.map key).Nodup ↔ members.Pairwise fun a b => ¬ a.Clash b := by
  unfold List.Nodup
  rw [List.pairwise_map]
  simp only [ne_eq, key_eq_iff]

end Member

end Members

namespace ClassDeclaration

section Identifiers

theorem badParameter?_eq_none {used : List String} {parameters : List FormalParameter} :
    badParameter? used parameters = none ↔
      (∀ p ∈ parameters, Naming.isIdentifier p.name = true) ∧
        (parameters.map FormalParameter.name).Nodup ∧ ∀ p ∈ parameters, p.name ∉ used := by
  -- The names used so far grow with each parameter.
  induction parameters generalizing used with
  | nil => simp [badParameter?]
  | cons p rest ih =>
    by_cases bad : Naming.isIdentifier p.name = true ∧ p.name ∉ used
    · obtain ⟨identifier, unused⟩ := bad
      have passed : badParameter? used (p :: rest) = badParameter? (p.name :: used) rest := by
        simp [badParameter?, identifier, unused]
      rw [passed, ih]
      simp only [List.map_cons, List.nodup_cons, List.mem_map, List.mem_cons,
        not_or]
      grind
    · have refused : badParameter? used (p :: rest) = some p.name := by
        by_cases identifier : Naming.isIdentifier p.name = true
        · have repeated : p.name ∈ used := by
            by_contra unused
            exact bad ⟨identifier, unused⟩
          simp [badParameter?, repeated]
        · simp [badParameter?, identifier]
      rw [refused]
      constructor
      · intro h
        cases h
      · rintro ⟨identifiers, -, unused⟩
        exact absurd ⟨identifiers p List.mem_cons_self, unused p List.mem_cons_self⟩ bad

theorem badName?_eq_none {parameters : List String} {s : Statement} :
    badName? parameters s = none ↔ s.Usable parameters := by
  cases s <;> simp [badName?, Statement.Usable]
  grind

theorem badIdentifier?_eq_none {m : Member} : badIdentifier? m = none ↔ m.Usable := by
  unfold badIdentifier?
  split
  · next bad =>
    have named : m.kind.isConstructor = false ∧ Naming.isIdentifier m.name = false := by
      simpa using bad
    constructor
    · intro h
      cases h
    · intro usable
      have identifier := usable.name named.1
      rw [named.2] at identifier
      cases identifier
  · next good =>
    have named : m.kind.isConstructor = false → Naming.isIdentifier m.name = true := by
      simpa using good
    -- The body is looked at only if no parameter is at fault.
    cases parameters : badParameter? [] m.parameters with
    | some name =>
      constructor
      · intro h
        cases h
      · intro usable
        have fine : badParameter? [] m.parameters = none := badParameter?_eq_none.2
          ⟨usable.parameters, usable.distinct, fun _ _ => List.not_mem_nil⟩
        rw [parameters] at fine
        cases fine
    | none =>
      obtain ⟨identifiers, distinct, -⟩ := badParameter?_eq_none.1 parameters
      simp only [List.findSome?_eq_none_iff, badName?_eq_none]
      exact ⟨fun body => ⟨named, identifiers, distinct, body⟩, fun usable => usable.body⟩

end Identifiers

section Keys

/-- Whether the keys that a class remembers are exactly those of its members, no two of which have
the same. -/
structure Keyed (c : ClassDeclaration) : Prop where
  known : ∀ key, key ∈ c.keys ↔ ∃ m ∈ c.members, m.key = key
  distinct : (c.members.map Member.key).Nodup

theorem Keyed.opened (name : QualifiedName) (delegateType : TypeRef) (fieldName : String)
    (stamp : Option Stamp) : Keyed ⟨name, delegateType, fieldName, stamp, [], []⟩ where
  known := by simp
  distinct := .nil

theorem declare_outcome (c : ClassDeclaration) (m : Member) :
    (m.Usable ∧ m.key ∉ c.keys ∧ c.declare m =
      (.ok (), { c with members := c.members ++ [m], keys := c.keys.insert m.key })) ∨
    (¬ (m.Usable ∧ m.key ∉ c.keys) ∧ ∃ e, c.declare m = (.error e, c)) := by
  cases bad : badIdentifier? m with
  | some name =>
    have unusable : ¬ m.Usable := by
      intro usable
      rw [badIdentifier?_eq_none.2 usable] at bad
      cases bad
    refine .inr ⟨fun accepted => unusable accepted.1,
      .invalidIdentifier c.name.display name (m.origin.getD m.kind.name), ?_⟩
    simp only [declare, bad]
  | none =>
    have usable := badIdentifier?_eq_none.1 bad
    by_cases taken : m.key ∈ c.keys
    · refine .inr ⟨fun accepted => accepted.2 taken,
        .conflict c.name.display m.signatureDisplay, ?_⟩
      simp [declare, bad, taken]
    · refine .inl ⟨usable, taken, ?_⟩
      simp [declare, bad, taken]

theorem Keyed.taking {c : ClassDeclaration} {m : Member} (keyed : c.Keyed)
    (fresh : m.key ∉ c.keys) :
    { c with members := c.members ++ [m], keys := c.keys.insert m.key }.Keyed where
  known key := by
    dsimp only
    rw [List.mem_insert_iff, keyed.known]
    simp only [List.mem_append, List.mem_singleton]
    grind
  distinct := by
    have absent : m.key ∉ c.members.map Member.key := by
      rw [keyed.known] at fresh
      simpa using fresh
    rw [List.map_append, List.map_singleton]
    exact List.nodup_append.2 ⟨keyed.distinct, List.nodup_singleton _, by grind⟩

theorem Keyed.declare {c : ClassDeclaration} (keyed : c.Keyed) (m : Member) :
    (c.declare m).2.Keyed := by
  rcases c.declare_outcome m with ⟨-, fresh, taken⟩ | ⟨-, e, refused⟩
  · rw [taken]
    exact keyed.taking fresh
  · rw [refused]
    exact keyed

theorem Keyed.restamp {c : ClassDeclaration} (keyed : c.Keyed) (stamp : Option Stamp) :
    (c.restamp stamp).2.Keyed :=
  ⟨keyed.known, keyed.distinct⟩

theorem Keyed.declareAll {c : ClassDeclaration} (keyed : c.Keyed) (members : List Member) :
    (c.declareAll members).2.Keyed := by
  induction members generalizing c with
  | nil => exact keyed
  | cons m rest ih =>
    rcases c.declare_outcome m with ⟨-, fresh, taken⟩ | ⟨-, e, refused⟩
    · simp only [ClassDeclaration.declareAll, taken]
      exact ih (keyed.taking fresh)
    · simp only [ClassDeclaration.declareAll, refused]
      exact keyed

/-- Members are declared to the last exactly if each is usable and no two keys, those of the class
included, are the same. -/
theorem Keyed.declareAll_isOk_iff {c : ClassDeclaration} (keyed : c.Keyed) (members : List Member) :
    (∃ declared, c.declareAll members = (.ok (), declared)) ↔
      (∀ m ∈ members, m.Usable) ∧ ((c.members ++ members).map Member.key).Nodup := by
  -- A member that is taken belongs to the class before which the rest is declared.
  induction members generalizing c with
  | nil => simpa [ClassDeclaration.declareAll] using keyed.distinct
  | cons m rest ih =>
    rcases c.declare_outcome m with ⟨usable, fresh, taken⟩ | ⟨refusal, e, refused⟩
    · simp only [ClassDeclaration.declareAll, taken]
      rw [ih (keyed.taking fresh)]
      simp [usable]
    · have stopped : ∀ declared, c.declareAll (m :: rest) ≠ (.ok (), declared) := by
        intro declared accepted
        simp only [ClassDeclaration.declareAll, refused] at accepted
        cases accepted
      constructor
      · rintro ⟨declared, accepted⟩
        exact absurd accepted (stopped declared)
      · rintro ⟨usable, distinct⟩
        refine absurd ⟨usable m List.mem_cons_self, ?_⟩ refusal
        rw [keyed.known]
        rintro ⟨earlier, member, same⟩
        rw [List.map_append, List.map_cons] at distinct
        exact List.disjoint_of_nodup_append distinct (List.mem_map_of_mem member)
          (same ▸ List.mem_cons_self)

end Keys

section Opening

structure Openable (name : QualifiedName) (fieldName : String) : Prop where
  package : name.package = "" ∨ Naming.isPackage name.package = true
  simpleName : Naming.isIdentifier name.simpleName = true
  fieldName : Naming.isIdentifier fieldName = true

theorem open?_isOk_iff (name : QualifiedName) (delegateType : TypeRef) (fieldName : String) :
    (∃ c, open? name delegateType fieldName = .ok c) ↔ Openable name fieldName := by
  constructor
  · rintro ⟨c, opened⟩
    unfold open? at opened
    split at opened
    · cases opened
    · next package =>
      split at opened
      · cases opened
      · next simpleName =>
        split at opened
        · cases opened
        · next field =>
          refine ⟨?_, by simpa using simpleName, by simpa using field⟩
          by_cases absent : name.package = ""
          · exact .inl absent
          · exact .inr (by simpa [absent] using package)
  · rintro ⟨package, simpleName, field⟩
    refine ⟨⟨name, delegateType, fieldName, none, [], []⟩, ?_⟩
    have packaged : ¬ (name.package ≠ "" ∧ (!Naming.isPackage name.package) = true) := by
      rintro ⟨present, bad⟩
      rw [package.resolve_left present] at bad
      cases bad
    rw [open?, if_neg packaged]
    simp [simpleName, field]

end Opening

end ClassDeclaration

namespace Plan

structure Declarable (plan : Plan) : Prop where
  openable : ClassDeclaration.Openable plan.generated plan.fieldName
  usable : ∀ m ∈ plan.members, m.Usable
  apart : plan.members.Pairwise fun a b => ¬ a.Clash b

end Plan

theorem exists_ok {ε α : Type} {result : Except ε α} (ok : result.isOk = true) :
    ∃ value, result = .ok value := by
  cases result with
  | error => cases ok
  | ok value => exact ⟨value, rfl⟩

namespace CodeModel

variable {model : CodeModel} {plan : Plan}

theorem stage_isOk_iff :
    (∃ c, model.stage plan = .ok c) ↔
      model.index.contains plan.generated = false ∧ plan.Declarable := by
  cases known : model.index.contains plan.generated with
  | true => simp [stage, known]
  | false =>
    cases opened : ClassDeclaration.open? plan.generated plan.delegateType plan.fieldName with
    | error e =>
      have closed : ¬ ClassDeclaration.Openable plan.generated plan.fieldName := by
        rw [← ClassDeclaration.open?_isOk_iff _ plan.delegateType, opened]
        rintro ⟨c, h⟩
        cases h
      constructor
      · rintro ⟨c, staged⟩
        simp [stage, known, opened] at staged
      · rintro ⟨-, declarable⟩
        exact absurd declarable.openable closed
    | ok c =>
      -- The class is opened without members, so its keys are those of the members alone.
      have openable := (ClassDeclaration.open?_isOk_iff _ _ _).1 ⟨c, opened⟩
      obtain rfl := ClassDeclaration.open?_ok opened
      have declares := (ClassDeclaration.Keyed.opened plan.generated plan.delegateType
        plan.fieldName model.stamp).declareAll_isOk_iff plan.members
      rw [List.nil_append, Member.nodup_map_key] at declares
      constructor
      · rintro ⟨c, staged⟩
        simp only [stage, known, opened, Bool.false_eq_true, if_false] at staged
        split at staged
        · cases staged
        · next accepted =>
          obtain ⟨usable, apart⟩ := declares.1 ⟨_, accepted⟩
          exact ⟨rfl, openable, usable, apart⟩
      · rintro ⟨-, declarable⟩
        obtain ⟨declared, accepted⟩ := declares.2 ⟨declarable.usable, declarable.apart⟩
        exact ⟨declared, by simp [stage, known, opened, accepted]⟩

theorem stage_ok {c : ClassDeclaration} (staged : model.stage plan = .ok c) :
    c.members = plan.members ∧ c.stamp = model.stamp ∧ c.Keyed := by
  unfold stage at staged
  split at staged
  · cases staged
  · split at staged
    · cases staged
    · next opened =>
      obtain rfl := ClassDeclaration.open?_ok opened
      split at staged
      · cases staged
      · next accepted =>
        obtain rfl := Except.ok.inj staged
        have keyed := (ClassDeclaration.Keyed.opened plan.generated plan.delegateType
          plan.fieldName model.stamp).declareAll plan.members
        rw [accepted] at keyed
        obtain ⟨keys, rfl⟩ := ClassDeclaration.declareAll_ok accepted
        exact ⟨List.nil_append _, rfl, keyed⟩

end CodeModel

end FluentWrap
