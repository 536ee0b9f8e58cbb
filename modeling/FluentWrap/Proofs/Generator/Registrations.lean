import FluentWrap.Proofs.Class.Edits
import FluentWrap.Proofs.Generator.Successes

/-!
What becomes of a registration. A generator keeps the class name and the plan of a type until a type
of the same name is added again, which succeeds only under another class name: types whose simple
name is that of their binary name are registered once, but a type that is described under another
simple name takes the place of the one before.
-/

set_option autoImplicit false

namespace FluentWrap

namespace CodeModel

variable {model after : CodeModel} {plan : Plan}

theorem Coherent.names_onClass? {α : Type} {name : QualifiedName}
    {step : ClassDeclaration → Attempt ClassDeclaration α} {outcome : Attempt CodeModel α}
    (coherent : model.Coherent) (keeps : ∀ c, (step c).2.name = c.name)
    (taken : model.onClass? name step = some outcome) : outcome.2.names = model.names := by
  obtain ⟨position, c, found, -, rfl⟩ := coherent.onClass?_eq taken
  exact names_set found (keeps c)

theorem Coherent.names_perform {edit : Edit} {result : Except Error Unit}
    (coherent : model.Coherent) (performed : edit.perform model = some (result, after)) :
    model.names ⊆ after.names := by
  cases edit with
  | define plan =>
    obtain rfl := (Prod.mk.inj (Option.some.inj performed)).2
    cases staged : model.stage plan with
    | error e =>
      rw [define_error staged]
      exact List.Subset.refl _
    | ok c =>
      rw [names_define staged]
      exact List.subset_append_left _ _
  | declare name m =>
    have same := coherent.names_onClass? (fun c => c.name_declare m) performed
    exact same ▸ List.Subset.refl _
  | restamp name stamp =>
    have same := coherent.names_onClass? (fun _ => rfl) performed
    exact same ▸ List.Subset.refl _

end CodeModel

namespace Generator

/-- The generators that come about and the types that were added to them, in this order: from any
settings and over any coherent model, by calls of the generator, whether or not they succeed, and by
edits of its model from outside. -/
inductive Reached : Generator → List SourceType → Prop where
  | start (config : Config) (pattern : NamePattern) {model : CodeModel} : model.Coherent →
      Reached (start config pattern model) []
  | perform {g : Generator} {added : List SourceType} (call : Call) : Reached g added →
      Reached (call.perform g).2 (added ++ (call.added? (call.perform g).1).toList)
  | edit {g : Generator} {added : List SourceType} {edit : Edit} {result : Except Error Unit}
      {model : CodeModel} : Reached g added → edit.perform g.model = some (result, model) →
      Reached { g with model } added

/-- Whether the registry of a generator tells of exactly the types that were added to it, each of
which took a class name of its own. -/
structure Tracks (g : Generator) (added : List SourceType) : Prop where
  coherent : g.model.Coherent
  registered : g.registered = added.map SourceType.qualifiedName
  registers : g.Registers g.planner added
  taken : added.map g.planner.generatedName ⊆ g.model.names
  distinct : (added.map g.planner.generatedName).Nodup

variable {g : Generator} {added : List SourceType} {name : String}

section Steps

theorem Tracks.start (config : Config) (pattern : NamePattern) {model : CodeModel}
    (coherent : model.Coherent) : (start config pattern model).Tracks [] where
  coherent := coherent
  registered := rfl
  registers _ := rfl
  taken := List.nil_subset _
  distinct := .nil

/-- Only the names in the model matter, so that its classes may change. -/
theorem Tracks.withModel {model : CodeModel} (tracks : g.Tracks added)
    (coherent : model.Coherent) (keeps : g.model.names ⊆ model.names) :
    { g with model }.Tracks added where
  coherent := coherent
  registered := tracks.registered
  registers := tracks.registers
  taken := List.Subset.trans tracks.taken keeps
  distinct := tracks.distinct

theorem Tracks.add_staged {source : SourceType} {c : ClassDeclaration} (tracks : g.Tracks added)
    (staged : g.model.stage (g.plan source) = .ok c) :
    (g.add source).2.Tracks (added ++ [source]) := by
  have fresh := tracks.coherent.fresh_of_stage staged
  have grown := CodeModel.names_define staged
  simp only [plan, Planner.generated_plan] at fresh grown
  rw [Generator.add_staged staged]
  refine ⟨tracks.coherent.define _, ?_, Registers.insert (g := g) tracks.registers, ?_, ?_⟩
  · simp [tracks.registered]
  · dsimp only [plan]
    rw [grown, List.map_append]
    exact List.append_subset.2
      ⟨List.Subset.trans tracks.taken (List.subset_append_left _ _),
        List.subset_append_right _ _⟩
  · rw [List.map_append]
    refine List.nodup_append.2 ⟨tracks.distinct, List.nodup_singleton _, ?_⟩
    rintro earlier before later last rfl
    exact fresh (List.mem_singleton.1 last ▸ tracks.taken before)

theorem Tracks.add (tracks : g.Tracks added) (source : SourceType) :
    (∃ e, g.add source = (.error e, g)) ∨
      (g.add source).1 = .ok (g.planner.generatedName source) ∧
        (g.add source).2.planner = g.planner ∧
        (g.add source).2.Tracks (added ++ [source]) := by
  cases staged : g.model.stage (g.plan source) with
  | error e => exact .inl ⟨e, add_refused staged⟩
  | ok c =>
    refine .inr ⟨?_, ?_, tracks.add_staged staged⟩
    all_goals rw [Generator.add_staged staged]

theorem Tracks.onClass {α : Type} {step : ClassDeclaration → Attempt ClassDeclaration α}
    (tracks : g.Tracks added) (keeps : ∀ c, (step c).2.name = c.name) :
    (g.onClass name step).2.Tracks added := by
  unfold Generator.onClass
  split
  · exact tracks
  · split
    · exact tracks
    · next result model stepped =>
      have names := tracks.coherent.names_onClass? keeps stepped
      exact tracks.withModel (tracks.coherent.onClass? keeps stepped)
        (names ▸ List.Subset.refl _)

/-- One call adds to what is tracked the type that it has added, and nothing else. -/
theorem Tracks.perform (tracks : g.Tracks added) (call : Call) :
    (call.perform g).2.Tracks (added ++ (call.added? (call.perform g).1).toList) := by
  rcases g.perform_cases call with ⟨source, asks, performs⟩ | ⟨e, asks, performs⟩ |
    ⟨name, step, asks, -, named, -, performs⟩
  · rw [performs]
    rcases tracks.add source with ⟨e, refused⟩ | ⟨result, -, grown⟩
    · rw [refused]
      simpa [Except.map, Call.added?] using tracks
    · rw [result]
      simpa [Except.map, Call.added?, asks] using grown
  · rw [added?_eq_none asks, performs]
    simpa using tracks
  · rw [added?_eq_none asks, performs]
    simpa using tracks.onClass named

theorem Reached.tracks (reached : g.Reached added) : g.Tracks added := by
  induction reached with
  | start config pattern coherent => exact .start config pattern coherent
  | perform call _ ih => exact ih.perform call
  | edit _ performed ih =>
    exact ih.withModel (ih.coherent.perform performed) (ih.coherent.names_perform performed)

end Steps

section Runs

theorem Tracks.addAll (tracks : g.Tracks added) (sources : List SourceType) :
    (g.addAll sources).2.planner = g.planner ∧
      (g.addAll sources).2.Tracks (added ++ succeeded sources (g.addAll sources).1) := by
  induction sources generalizing g added with
  | nil => exact ⟨rfl, by simpa [Generator.addAll, succeeded] using tracks⟩
  | cons source rest ih =>
    rw [addAll_cons]
    rcases tracks.add source with ⟨e, refused⟩ | ⟨result, planner, grown⟩
    · rw [refused]
      exact ih tracks
    · obtain ⟨same, final⟩ := ih grown
      rw [result]
      refine ⟨same.trans planner, ?_⟩
      simpa [succeeded] using final

theorem succeeded_subset (sources : List SourceType) (results : List (Except Error QualifiedName)) :
    succeeded sources results ⊆ sources := by
  induction sources generalizing results with
  | nil => exact List.Subset.refl _
  | cons source rest ih =>
    cases results with
    | nil => exact List.nil_subset _
    | cons result results =>
      cases result with
      | error e => exact List.Subset.trans (ih results) (List.subset_cons_self _ _)
      | ok handle => exact List.cons_subset_cons source (ih results)

end Runs

section Lasting

variable {planner : Planner} {more : List SourceType} {source : SourceType}

theorem lastNamed?_of_no_later (none_ : ∀ other ∈ more, other.qualifiedName ≠ name) :
    lastNamed? (added ++ more) name = lastNamed? added name := by
  have missing : lastNamed? more name = none := by
    rw [lastNamed?, List.find?_eq_none]
    simpa using none_
  rw [lastNamed?_append, missing, Option.none_or]

theorem generatedName_ne_of_later {other : SourceType}
    (distinct : ((added ++ more).map planner.generatedName).Nodup) (before : source ∈ added)
    (later : other ∈ more) : planner.generatedName other ≠ planner.generatedName source := by
  intro same
  rw [List.map_append] at distinct
  exact List.disjoint_of_nodup_append distinct (List.mem_map_of_mem before)
    (same ▸ List.mem_map_of_mem later)

theorem lastNamed?_of_later (added : List SourceType) {other : SourceType} (later : other ∈ more)
    (named : other.qualifiedName = name) :
    ∃ last ∈ more, lastNamed? (added ++ more) name = some last := by
  obtain ⟨last, found⟩ := Option.isSome_iff_exists.1
    (lastNamed?_isSome.2 (named ▸ List.mem_map_of_mem (f := SourceType.qualifiedName) later))
  exact ⟨last, (lastNamed?_some found).1, by rw [lastNamed?_append, found, Option.some_or]⟩

theorem not_again_of_once (once : ((added ++ more).map SourceType.qualifiedName).Nodup)
    (last : lastNamed? added name = some source) :
    ∀ other ∈ more, other.qualifiedName ≠ name := by
  rintro other later rfl
  obtain ⟨before, named⟩ := lastNamed?_some last
  rw [List.map_append] at once
  exact List.disjoint_of_nodup_append once (List.mem_map_of_mem before)
    (named ▸ List.mem_map_of_mem later)

/-- What tells the class names of types apart stays what it is of the last type of a name exactly as
long as no type of this name is added again. -/
theorem lasts_iff {α : Type} {tell : SourceType → α}
    (tells : ∀ a b, tell a = tell b → planner.generatedName a = planner.generatedName b)
    (distinct : ((added ++ more).map planner.generatedName).Nodup)
    (last : lastNamed? added name = some source) :
    (∃ final, lastNamed? (added ++ more) name = some final ∧ tell final = tell source) ↔
      ∀ other ∈ more, other.qualifiedName ≠ name := by
  constructor
  · rintro ⟨final, found, same⟩ other later named
    obtain ⟨_, member, found'⟩ := lastNamed?_of_later added later named
    obtain rfl := Option.some.inj (found.symm.trans found')
    exact generatedName_ne_of_later distinct (lastNamed?_some last).1 member (tells _ _ same)
  · intro none_
    exact ⟨source, (lastNamed?_of_no_later none_).trans last, rfl⟩

variable {g' : Generator} {handle : QualifiedName} {plan : Plan}

theorem Registers.handle_lasts_iff (before : g.Registers planner added)
    (after : g'.Registers planner (added ++ more))
    (distinct : ((added ++ more).map planner.generatedName).Nodup)
    (known : g.handle name = .ok handle) :
    g'.handle name = .ok handle ↔ ∀ source ∈ more, source.qualifiedName ≠ name := by
  obtain ⟨source, last, rfl⟩ := before.handle_iff.1 known
  rw [after.handle_iff]
  exact lasts_iff (fun _ _ same => same) distinct last

theorem Registers.planFor_lasts_iff (before : g.Registers planner added)
    (after : g'.Registers planner (added ++ more))
    (distinct : ((added ++ more).map planner.generatedName).Nodup)
    (known : g.planFor name = .ok plan) :
    g'.planFor name = .ok plan ↔ ∀ source ∈ more, source.qualifiedName ≠ name := by
  obtain ⟨source, last, rfl⟩ := before.planFor_iff.1 known
  rw [after.planFor_iff]
  refine lasts_iff (fun a b same => ?_) distinct last
  -- A plan tells the name of its class.
  have generated := congrArg Plan.generated same
  rwa [Planner.generated_plan, Planner.generated_plan] at generated

theorem nodup_qualifiedName_iff (distinct : (added.map planner.generatedName).Nodup) :
    (added.map SourceType.qualifiedName).Nodup ↔
      ∀ a ∈ added, ∀ b ∈ added, a.qualifiedName = b.qualifiedName →
        planner.generatedName a = planner.generatedName b := by
  constructor
  · intro apart a left b right same
    rw [List.inj_on_of_nodup_map apart left right same]
  · intro decides
    unfold List.Nodup at distinct ⊢
    rw [List.pairwise_map] at distinct ⊢
    exact distinct.imp_of_mem fun left right other same => other (decides _ left _ right same)

theorem generatedName_of_plain {a b : SourceType}
    (left : a.simpleName = TypeRef.simpleClass a.qualifiedName)
    (right : b.simpleName = TypeRef.simpleClass b.qualifiedName)
    (same : a.qualifiedName = b.qualifiedName) :
    planner.generatedName a = planner.generatedName b := by
  unfold Planner.generatedName SourceType.package
  rw [left, right, same]

/-- What a run of adds makes of the registrations before it. A name keeps its class name and plan
exactly if no type of this name is added again, and every type that is added brings another class
name. Names are listed once exactly if all types of one name that were added have one class name; so
it is if every type has the simple name of its binary name, and then nothing is ever replaced. -/
theorem addAll_registrations (reached : g.Reached added) (sources : List SourceType) :
    let final := (g.addAll sources).2
    let more := succeeded sources (g.addAll sources).1
    final.registered = (added ++ more).map SourceType.qualifiedName ∧
    (∀ name handle plan, g.handle name = .ok handle → g.planFor name = .ok plan →
      (final.handle name = .ok handle ↔ ∀ source ∈ more, source.qualifiedName ≠ name) ∧
      (final.planFor name = .ok plan ↔ ∀ source ∈ more, source.qualifiedName ≠ name) ∧
      ∀ source ∈ more, g.planner.generatedName source ≠ handle) ∧
    (final.registered.Nodup ↔ ∀ a ∈ added ++ more, ∀ b ∈ added ++ more,
      a.qualifiedName = b.qualifiedName →
        g.planner.generatedName a = g.planner.generatedName b) ∧
    ((∀ source ∈ added ++ sources,
        source.simpleName = TypeRef.simpleClass source.qualifiedName) →
      final.registered.Nodup ∧
        ∀ name handle plan, g.handle name = .ok handle → g.planFor name = .ok plan →
          final.handle name = .ok handle ∧ final.planFor name = .ok plan) := by
  intro final more
  have tracks := reached.tracks
  obtain ⟨planner, grown⟩ : final.planner = g.planner ∧ final.Tracks (added ++ more) :=
    tracks.addAll sources
  -- The class names of all types differ, those added before the run included.
  have registers := grown.registers
  have distinct := grown.distinct
  rw [planner] at registers distinct
  have listed := nodup_qualifiedName_iff distinct
  rw [← grown.registered] at listed
  refine ⟨grown.registered, fun name handle plan known planned => ?_, listed, fun plain => ?_⟩
  · obtain ⟨source, last, rfl⟩ := tracks.registers.handle_iff.1 known
    exact ⟨tracks.registers.handle_lasts_iff registers distinct known,
      tracks.registers.planFor_lasts_iff registers distinct planned,
      fun other => generatedName_ne_of_later distinct (lastNamed?_some last).1⟩
  · have known : ∀ source ∈ added ++ more,
        source.simpleName = TypeRef.simpleClass source.qualifiedName := by
      intro source member
      refine plain source (List.mem_append.2 ?_)
      exact (List.mem_append.1 member).imp_right fun later => succeeded_subset sources _ later
    have once : final.registered.Nodup :=
      listed.2 fun a left b right => generatedName_of_plain (known a left) (known b right)
    refine ⟨once, fun name handle plan given planned => ?_⟩
    obtain ⟨first, last, -⟩ := tracks.registers.handle_iff.1 given
    have never := not_again_of_once (grown.registered ▸ once) last
    exact ⟨(tracks.registers.handle_lasts_iff registers distinct given).2 never,
      (tracks.registers.planFor_lasts_iff registers distinct planned).2 never⟩

theorem Reached.add (reached : g.Reached added) (accepted : (g.add source).1.isOk = true) :
    (g.add source).2.Reached (added ++ [source]) := by
  have performed := reached.perform (.add source)
  cases result : (g.add source).1 with
  | error e =>
    rw [result] at accepted
    cases accepted
  | ok handle =>
    simpa [Call.perform, result, Except.map, Call.added?, Call.source?] using performed

theorem addAll_registrations_point :
    let g := ((start .default default (.stampedWith none)).add Samples.point).2
    let final := (g.addAll [Samples.textField, Samples.point]).2
    g.Reached [Samples.point] ∧ g.handle "com.example.Point" = .ok ⟨"com.example", "FluentPoint"⟩ ∧
      final.handle "com.example.Point" = .ok ⟨"com.example", "FluentPoint"⟩ ∧
      final.registered.Nodup := by
  intro g final
  have reached : g.Reached [Samples.point] :=
    (Reached.start .default default (.stampedWith none)).add (by decide)
  have handle : g.handle "com.example.Point" = .ok ⟨"com.example", "FluentPoint"⟩ := by decide
  have planFor : g.planFor "com.example.Point" = .ok (Planner.plan default Samples.point) := by
    decide
  obtain ⟨-, -, -, plain⟩ := addAll_registrations reached [Samples.textField, Samples.point]
  obtain ⟨once, keeps⟩ := plain (by decide)
  exact ⟨reached, handle, (keeps _ _ _ handle planFor).1, once⟩

theorem registration_replaced :
    let box := SourceType.ofName "a.Box"
    let g := ((start .default default (.stampedWith none)).add box).2
    let final := (g.addAll [{ box with simpleName := "Crate" }]).2
    g.Reached [box] ∧
      g.handle "a.Box" = .ok ⟨"a", "FluentBox"⟩ ∧ final.handle "a.Box" = .ok ⟨"a", "FluentCrate"⟩ ∧
      g.planFor "a.Box" ≠ final.planFor "a.Box" ∧ final.registered = ["a.Box", "a.Box"] := by
  intro box g final
  have reached : g.Reached [box] :=
    (Reached.start .default default (.stampedWith none)).add (by decide)
  refine ⟨reached, ?_, ?_, ?_, ?_⟩
  all_goals decide +kernel

end Lasting

end Generator

end FluentWrap
