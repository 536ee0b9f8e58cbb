import FluentWrap.Plan.Planner

/-!
What a plan holds. The members are the three of the scaffold, then the factories of the chosen
constructors and then the wrappers of the chosen methods, each in the order of the source. The
two lists are described here by walking through the source and reading its descriptions, without
the predicates and filters from which a planner computes them.
-/

set_option autoImplicit false

namespace FluentWrap

/-- A public method without result that takes one value of a type and whose name begins with a
mark. -/
structure Method.Takes (m : Method) (mark : String) (type : TypeRef) : Prop where
  isPublic : m.visibility = .everyone
  isVoid : m.returnsVoid = true
  single : m.parameters.map Parameter.type = [type]
  marked : mark.toList <+: m.name.toList

theorem Method.Takes.single_eq {m : Method} {mark : String} {type : TypeRef}
    (takes : m.Takes mark type) : m.singleParameterType? = some type := by
  have single := takes.single
  unfold singleParameterType?
  match params : m.parameters with
  | [] => simp [params] at single
  | [only] => simpa [params] using single
  | _ :: _ :: _ => simp [params] at single

theorem Method.Takes.name_ne {m other : Method} {type element : TypeRef}
    (setter : m.Takes "set" type) (adder : other.Takes "add" element) : m.name ≠ other.name := by
  intro named
  obtain ⟨tail, left⟩ := setter.marked
  obtain ⟨rest, right⟩ := adder.marked
  have same := left.trans ((congrArg String.toList named).trans right.symm)
  -- The marks differ in their first characters.
  simp at same

theorem MethodPredicate.check_isMarked {mark : String} {m : Method} :
    (isMarked mark).check m = true ↔ ∃ type, m.Takes mark type := by
  have tests : (isMarked mark).check m = true ↔
      m.visibility = .everyone ∧ m.returnsVoid = true ∧ m.parameters.length = 1 ∧
        mark.toList <+: m.name.toList := by
    simp [isMarked, Predicate.allOf, Predicate.conjuncts, Testing.holds, MethodTest.holds,
      Naming.hasMark]
  rw [tests]
  constructor
  · rintro ⟨isPublic, isVoid, one, marked⟩
    obtain ⟨only, params⟩ := List.length_eq_one_iff.1 one
    exact ⟨only.type, isPublic, isVoid, by simp [params], marked⟩
  · rintro ⟨type, takes⟩
    have one := congrArg List.length takes.single
    exact ⟨takes.isPublic, takes.isVoid, by simpa using one, takes.marked⟩

theorem WrapperKind.ofMethod?_setter {m : Method} {type : TypeRef} (takes : m.Takes "set" type) :
    ofMethod? m = some .setter := by
  have setter : MethodPredicate.isSetter.check m = true :=
    MethodPredicate.check_isMarked.2 ⟨type, takes⟩
  simp [ofMethod?, setter]

theorem WrapperKind.ofMethod?_adder {m : Method} {type : TypeRef} (takes : m.Takes "add" type) :
    ofMethod? m = some .adder := by
  have adder : MethodPredicate.isAdder.check m = true :=
    MethodPredicate.check_isMarked.2 ⟨type, takes⟩
  have noSetter : ¬ MethodPredicate.isSetter.check m = true := fun setter =>
    have ⟨_, other⟩ := MethodPredicate.check_isMarked.1 setter
    other.name_ne takes rfl
  simp [ofMethod?, noSetter, adder]

theorem WrapperKind.ofMethod?_none {m : Method} (setter : ∀ type, ¬ m.Takes "set" type)
    (adder : ∀ type, ¬ m.Takes "add" type) : ofMethod? m = none := by
  have noSetter : ¬ MethodPredicate.isSetter.check m = true := fun h =>
    have ⟨type, takes⟩ := MethodPredicate.check_isMarked.1 h
    setter type takes
  have noAdder : ¬ MethodPredicate.isAdder.check m = true := fun h =>
    have ⟨type, takes⟩ := MethodPredicate.check_isMarked.1 h
    adder type takes
  simp [ofMethod?, noSetter, noAdder]

/-- A member that is what a template gives, of a kind and with parameters of these types; a type
comes with whether there may be any number of values of it. -/
structure Member.MadeAs (w template : Member) (kind : MemberKind)
    (types : List (TypeRef × Bool)) : Prop where
  same : w = template
  kind : w.kind = kind
  types : w.parameters.map (fun p => (p.type, p.varargs)) = types

namespace Planner

def Keeps (planner : Planner) (m : Method) : Prop :=
  planner.filter.methods.check m = true ∧ m.name ∉ planner.filter.ignored.toList

inductive Wraps (planner : Planner) : List Method → List Member → Prop where
  | nil : planner.Wraps [] []
  | pass {m : Method} {rest : List Method} {wrappers : List Member} :
      ¬ (planner.Keeps m ∧ ∃ type, m.Takes "set" type ∨ m.Takes "add" type) →
      planner.Wraps rest wrappers → planner.Wraps (m :: rest) wrappers
  | setter {m : Method} {type : TypeRef} {w : Member} {rest : List Method}
      {wrappers : List Member} :
      planner.Keeps m → m.Takes "set" type → type ≠ .primitive .boolean →
      w.MadeAs (Template.setterWrapper m.name type) .setterWrapper [(type, false)] →
      planner.Wraps rest wrappers → planner.Wraps (m :: rest) (w :: wrappers)
  | booleanSetter {m : Method} {w overload : Member} {rest : List Method}
      {wrappers : List Member} :
      planner.Keeps m → m.Takes "set" (.primitive .boolean) →
      w.MadeAs (Template.setterWrapper m.name (.primitive .boolean)) .setterWrapper
        [(.primitive .boolean, false)] →
      overload.MadeAs (Template.booleanDefault (Naming.setterWrapper m.name) m.name)
        .booleanDefault [] →
      planner.Wraps rest wrappers → planner.Wraps (m :: rest) (w :: overload :: wrappers)
  | adder {m : Method} {type : TypeRef} {w : Member} {rest : List Method}
      {wrappers : List Member} :
      planner.Keeps m → m.Takes "add" type →
      w.MadeAs (Template.adderWrapper m.name type) .adderWrapper [(type, true)] →
      planner.Wraps rest wrappers → planner.Wraps (m :: rest) (w :: wrappers)

def wrappersFor (planner : Planner) (m : Method) : List Member :=
  if planner.filter.methods.check m && !planner.filter.isIgnored m then
    match WrapperKind.ofMethod? m with
    | some kind => wrappersOf ⟨kind, m⟩
    | none => []
  else []

variable {planner : Planner} {source : SourceType}

theorem selectMethods_flatMap :
    (planner.filter.selectMethods source).flatMap wrappersOf =
      source.methods.flatMap planner.wrappersFor := by
  -- Two filters and a classification in turn, or all three at once for each method.
  unfold CandidateFilter.selectMethods Predicate.filter
  induction source.methods with
  | nil => rfl
  | cons m rest ih =>
    rw [List.flatMap_cons, ← ih]
    by_cases chosen : planner.filter.methods.check m = true
    · by_cases ignored : planner.filter.isIgnored m = true
      · simp [wrappersFor, chosen, ignored]
      · cases kind : WrapperKind.ofMethod? m <;> simp [wrappersFor, chosen, ignored, kind]
    · simp [wrappersFor, chosen]

theorem keeps_iff {m : Method} :
    (planner.filter.methods.check m && !planner.filter.isIgnored m) = true ↔
      planner.Keeps m := by
  simp [Keeps, CandidateFilter.isIgnored, NameSet.contains]

theorem wrappersFor_setter {m : Method} {type : TypeRef} (keeps : planner.Keeps m)
    (takes : m.Takes "set" type) :
    planner.wrappersFor m = Template.setterWrapper m.name type ::
      if type = .primitive .boolean then
        [Template.booleanDefault (Naming.setterWrapper m.name) m.name]
      else [] := by
  simp [wrappersFor, keeps_iff.2 keeps, WrapperKind.ofMethod?_setter takes, wrappersOf,
    takes.single_eq, TypeRef.isBoolean, Template.setterWrapper]

theorem wrappersFor_adder {m : Method} {type : TypeRef} (keeps : planner.Keeps m)
    (takes : m.Takes "add" type) :
    planner.wrappersFor m = [Template.adderWrapper m.name type] := by
  simp [wrappersFor, keeps_iff.2 keeps, WrapperKind.ofMethod?_adder takes, wrappersOf,
    takes.single_eq]

theorem wrappersFor_pass {m : Method}
    (passed : ¬ (planner.Keeps m ∧ ∃ type, m.Takes "set" type ∨ m.Takes "add" type)) :
    planner.wrappersFor m = [] := by
  unfold wrappersFor
  split
  · next keeps =>
    have unmarked : ∀ type, ¬ (m.Takes "set" type ∨ m.Takes "add" type) := fun type takes =>
      passed ⟨keeps_iff.1 keeps, type, takes⟩
    rw [WrapperKind.ofMethod?_none (fun type takes => unmarked type (.inl takes))
      fun type takes => unmarked type (.inr takes)]
  · rfl

theorem Wraps.cons {rest : List Method} {wrappers : List Member} (m : Method)
    (wraps : planner.Wraps rest wrappers) :
    planner.Wraps (m :: rest) (planner.wrappersFor m ++ wrappers) := by
  by_cases kept : planner.Keeps m ∧ ∃ type, m.Takes "set" type ∨ m.Takes "add" type
  · obtain ⟨keeps, type, takes | takes⟩ := kept
    · rw [wrappersFor_setter keeps takes]
      -- Only here do two members come from one method.
      by_cases boolean : type = .primitive .boolean
      · subst boolean
        exact .booleanSetter keeps takes ⟨rfl, rfl, rfl⟩ ⟨rfl, rfl, rfl⟩ wraps
      · rw [if_neg boolean]
        exact .setter keeps takes boolean ⟨rfl, rfl, rfl⟩ wraps
    · rw [wrappersFor_adder keeps takes]
      exact .adder keeps takes ⟨rfl, rfl, rfl⟩ wraps
  · rw [wrappersFor_pass kept]
    exact .pass kept wraps

theorem wraps_iff {methods : List Method} {wrappers : List Member} :
    planner.Wraps methods wrappers ↔ wrappers = methods.flatMap planner.wrappersFor := by
  constructor
  · intro wraps
    induction wraps with
    | nil => rfl
    | pass passed _ ih => rw [List.flatMap_cons, wrappersFor_pass passed, ih]; rfl
    | setter keeps takes other made _ ih =>
      rw [List.flatMap_cons, wrappersFor_setter keeps takes, if_neg other, ih, made.same]; rfl
    | booleanSetter keeps takes made added _ ih =>
      rw [List.flatMap_cons, wrappersFor_setter keeps takes, if_pos rfl, ih, made.same, added.same]
      rfl
    | adder keeps takes made _ ih =>
      rw [List.flatMap_cons, wrappersFor_adder keeps takes, ih, made.same]; rfl
  · rintro rfl
    induction methods with
    | nil => exact .nil
    | cons m rest ih => exact ih.cons m

theorem map_type_factoryOf (c : Constructor) :
    (factoryOf source c).parameters.map FormalParameter.type = c.parameters.map Parameter.type :=
  Template.map_type_factoryParameters 0 _

theorem members_plan (planner : Planner) (source : SourceType) :
    (planner.plan source).members =
      scaffold source
        ++ (planner.filter.constructors.filter source.constructors).map (factoryOf source)
        ++ source.methods.flatMap planner.wrappersFor := by
  rw [← selectMethods_flatMap]
  rfl

inductive Produces (planner : Planner) (source : SourceType) : Member → Prop where
  | field : planner.Produces source
      (Template.delegateField (Naming.fieldName source.simpleName))
  | getter : planner.Produces source Template.getter
  | hiddenConstructor : planner.Produces source
      (Template.hiddenConstructor source.typeRef (Naming.fieldName source.simpleName))
  | factory {c : Constructor} : c ∈ source.constructors →
      planner.filter.constructors.check c = true → planner.Produces source (factoryOf source c)
  | setter {m : Method} {type : TypeRef} : m ∈ source.methods → planner.Keeps m →
      m.Takes "set" type → planner.Produces source (Template.setterWrapper m.name type)
  | booleanDefault {m : Method} : m ∈ source.methods → planner.Keeps m →
      m.Takes "set" (.primitive .boolean) →
      planner.Produces source (Template.booleanDefault (Naming.setterWrapper m.name) m.name)
  | adder {m : Method} {type : TypeRef} : m ∈ source.methods → planner.Keeps m →
      m.Takes "add" type → planner.Produces source (Template.adderWrapper m.name type)

theorem mem_wrappersFor_iff {m : Method} {w : Member} :
    w ∈ planner.wrappersFor m ↔ planner.Keeps m ∧
      ((∃ type, m.Takes "set" type ∧ w = Template.setterWrapper m.name type) ∨
        (m.Takes "set" (.primitive .boolean) ∧
          w = Template.booleanDefault (Naming.setterWrapper m.name) m.name) ∨
        ∃ type, m.Takes "add" type ∧ w = Template.adderWrapper m.name type) := by
  constructor
  · intro member
    by_cases kept : planner.Keeps m ∧ ∃ type, m.Takes "set" type ∨ m.Takes "add" type
    · obtain ⟨keeps, type, takes | takes⟩ := kept
      · rw [wrappersFor_setter keeps takes] at member
        rcases List.mem_cons.1 member with same | member
        · exact ⟨keeps, .inl ⟨type, takes, same⟩⟩
        · split at member
          · next boolean =>
            exact ⟨keeps, .inr (.inl ⟨boolean ▸ takes, List.mem_singleton.1 member⟩)⟩
          · cases member
      · rw [wrappersFor_adder keeps takes] at member
        exact ⟨keeps, .inr (.inr ⟨type, takes, List.mem_singleton.1 member⟩)⟩
    · rw [wrappersFor_pass kept] at member
      cases member
  · rintro ⟨keeps, ⟨type, takes, rfl⟩ | ⟨takes, rfl⟩ | ⟨type, takes, rfl⟩⟩
    · simp [wrappersFor_setter keeps takes]
    · simp [wrappersFor_setter keeps takes]
    · simp [wrappersFor_adder keeps takes]

theorem mem_members_plan {w : Member} :
    w ∈ (planner.plan source).members ↔ planner.Produces source w := by
  rw [members_plan]
  simp only [List.mem_append, List.mem_flatMap, mem_wrappersFor_iff, Predicate.filter,
    List.mem_map, List.mem_filter, scaffold, List.mem_cons, List.not_mem_nil, or_false]
  constructor
  · rintro (((rfl | rfl | rfl) | ⟨c, ⟨member, chosen⟩, rfl⟩) |
      ⟨m, member, keeps, ⟨type, takes, rfl⟩ | ⟨takes, rfl⟩ | ⟨type, takes, rfl⟩⟩)
    · exact .field
    · exact .getter
    · exact .hiddenConstructor
    · exact .factory member chosen
    · exact .setter member keeps takes
    · exact .booleanDefault member keeps takes
    · exact .adder member keeps takes
  · intro produces
    cases produces with
    | field => exact .inl (.inl (.inl rfl))
    | getter => exact .inl (.inl (.inr (.inl rfl)))
    | hiddenConstructor => exact .inl (.inl (.inr (.inr rfl)))
    | factory member chosen => exact .inl (.inr ⟨_, ⟨member, chosen⟩, rfl⟩)
    | setter member keeps takes => exact .inr ⟨_, member, keeps, .inl ⟨_, takes, rfl⟩⟩
    | booleanDefault member keeps takes =>
      exact .inr ⟨_, member, keeps, .inr (.inl ⟨takes, rfl⟩)⟩
    | adder member keeps takes => exact .inr ⟨_, member, keeps, .inr (.inr ⟨_, takes, rfl⟩)⟩

section Order

variable {before after : List Member} {w : Member}

theorem Wraps.before_booleanDefault {methods : List Method} {wrappers : List Member}
    (wraps : planner.Wraps methods wrappers) (split : wrappers = before ++ w :: after)
    (isDefault : w.kind = .booleanDefault) :
    ∃ m ∈ methods, planner.Keeps m ∧ m.Takes "set" (.primitive .boolean) ∧
      w = Template.booleanDefault (Naming.setterWrapper m.name) m.name ∧
      ∃ earlier, before = earlier ++ [Template.setterWrapper m.name (.primitive .boolean)] := by
  induction wraps generalizing before with
  | nil => simp at split
  | pass _ _ ih =>
    obtain ⟨m, member, found⟩ := ih split
    exact ⟨m, List.mem_cons_of_mem _ member, found⟩
  | setter _ _ _ made _ ih | adder _ _ made _ ih =>
    rcases List.cons_eq_append_iff.1 split with ⟨-, same⟩ | ⟨later, rfl, rest⟩
    · obtain rfl := (List.cons.inj same).1
      cases made.kind.symm.trans isDefault
    · obtain ⟨m, member, keeps, takes, same, earlier, rfl⟩ := ih rest
      exact ⟨m, List.mem_cons_of_mem _ member, keeps, takes, same, _ :: earlier, rfl⟩
  | @booleanSetter m _ _ _ _ keeps takes made added _ ih =>
    -- The split lies at the setter's wrapper, at its default, or behind both.
    rcases List.cons_eq_append_iff.1 split with ⟨-, same⟩ | ⟨later, rfl, rest⟩
    · obtain rfl := (List.cons.inj same).1
      cases made.kind.symm.trans isDefault
    · rcases List.cons_eq_append_iff.1 rest with ⟨rfl, same⟩ | ⟨last, rfl, behind⟩
      · obtain rfl := (List.cons.inj same).1
        exact ⟨m, List.mem_cons_self, keeps, takes, added.same, [], congrArg ([·]) made.same⟩
      · obtain ⟨other, member, keeps, takes, same, earlier, rfl⟩ := ih behind
        exact ⟨other, List.mem_cons_of_mem _ member, keeps, takes, same, _ :: _ :: earlier, rfl⟩

theorem before_booleanDefault (split : (planner.plan source).members = before ++ w :: after)
    (isDefault : w.kind = .booleanDefault) :
    ∃ m ∈ source.methods, planner.Keeps m ∧ m.Takes "set" (.primitive .boolean) ∧
      w = Template.booleanDefault (Naming.setterWrapper m.name) m.name ∧
      ∃ earlier, before = earlier ++ [Template.setterWrapper m.name (.primitive .boolean)] := by
  have wraps : planner.Wraps source.methods (source.methods.flatMap planner.wrappersFor) :=
    wraps_iff.2 rfl
  rw [members_plan] at split
  rcases List.append_eq_append_iff.1 split with ⟨later, rfl, wrappers⟩ | ⟨rest, front, whole⟩
  · obtain ⟨m, member, keeps, takes, same, earlier, rfl⟩ :=
      wraps.before_booleanDefault wrappers isDefault
    exact ⟨m, member, keeps, takes, same, _ ++ earlier, (List.append_assoc ..).symm⟩
  · rcases List.cons_eq_append_iff.1 whole with ⟨rfl, wrappers⟩ | ⟨tail, rfl, -⟩
    · rw [← List.nil_append (w :: after)] at wrappers
      obtain ⟨m, -, -, -, -, earlier, nothing⟩ := wraps.before_booleanDefault wrappers isDefault
      simp at nothing
    · -- Neither the scaffold nor a factory is a boolean default.
      have member : w ∈ before ++ w :: tail := by simp
      rw [← front] at member
      rcases List.mem_append.1 member with inScaffold | inFactories
      · simp only [scaffold, List.mem_cons, List.not_mem_nil, or_false] at inScaffold
        rcases inScaffold with rfl | rfl | rfl <;> cases isDefault
      · obtain ⟨c, -, rfl⟩ := List.mem_map.1 inFactories
        cases isDefault

end Order

end Planner

end FluentWrap
