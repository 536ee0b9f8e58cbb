import FluentWrap.Proofs.Generator.Runs
import FluentWrap.Samples
import Mathlib.Data.List.Nodup

/-!
Types do not get in each other's way. Whether a type is added depends on its own plan and on the
class names that are taken; types of distinct names can be added in any order.
-/

set_option autoImplicit false

namespace FluentWrap

def Planner.classOf (planner : Planner) (stamp : Option Stamp) (source : SourceType) :
    Except Error ClassDeclaration :=
  (CodeModel.stampedWith stamp).stage (planner.plan source)

namespace Generator

/-- Add types one after the other, also behind one that fails; gives the results. -/
def addAll (g : Generator) : List SourceType → List (Except Error QualifiedName) × Generator
  | [] => ([], g)
  | source :: rest =>
    let (result, g) := g.add source
    let (results, g) := addAll g rest
    (result :: results, g)

/-- Whether a generator holds the classes of the types that were added to it, unchanged. -/
structure Built (g : Generator) (planner : Planner) (stamp : Option Stamp)
    (added : List SourceType) : Prop where
  stamps : g.model.stamp = stamp
  remembers : g.Remembers planner added
  classes : ∀ c, c ∈ g.model.classes ↔ ∃ source ∈ added, planner.classOf stamp source = .ok c

variable {g : Generator} {planner : Planner} {stamp : Option Stamp} {added : List SourceType}

theorem Built.start (config : Config) (pattern : NamePattern) (stamp : Option Stamp) :
    (start config pattern (.stampedWith stamp)).Built (config.planner pattern) stamp [] where
  stamps := rfl
  remembers := .start config pattern stamp
  classes c := by simp [Generator.start, CodeModel.stampedWith]

section Steps

/-- A type is refused if the name of its class is taken; otherwise its own plan decides. -/
theorem Built.stage (built : g.Built planner stamp added) (source : SourceType) :
    g.model.stage (g.plan source) =
      if planner.generatedName source ∈ g.model.names then
        .error (.conflict (planner.generatedName source).display "class")
      else planner.classOf stamp source := by
  obtain rfl := built.remembers.plans
  obtain rfl := built.stamps
  -- The index decides only whether the name is taken; all else happens in an empty model.
  rw [CodeModel.stage_of_index]
  simp only [built.remembers.coherent.contains_iff, plan, Planner.generated_plan]
  rfl

theorem name_of_classOf {source : SourceType} {c : ClassDeclaration}
    (own : planner.classOf stamp source = .ok c) : c.name = planner.generatedName source :=
  (CodeModel.realizes_of_stage own).name.trans (planner.generated_plan source)

theorem Built.add_taken {source : SourceType} (built : g.Built planner stamp added)
    (taken : planner.generatedName source ∈ g.model.names) :
    g.add source = (.error (.conflict (planner.generatedName source).display "class"), g) :=
  add_refused ((built.stage source).trans (if_pos taken))

theorem Built.add_error {source : SourceType} {e : Error} (built : g.Built planner stamp added)
    (free : planner.generatedName source ∉ g.model.names)
    (own : planner.classOf stamp source = .error e) : g.add source = (.error e, g) :=
  add_refused ((built.stage source).trans ((if_neg free).trans own))

theorem Built.add_ok {source : SourceType} {c : ClassDeclaration}
    (built : g.Built planner stamp added)
    (free : planner.generatedName source ∉ g.model.names)
    (own : planner.classOf stamp source = .ok c) :
    (g.add source).1 = .ok (planner.generatedName source) ∧
      (g.add source).2.model.names = g.model.names ++ [planner.generatedName source] ∧
      (g.add source).2.Built planner stamp (added ++ [source]) := by
  have staged := (built.stage source).trans ((if_neg free).trans own)
  have defined := CodeModel.define_ok staged
  have grown := CodeModel.names_append g.model c
  rw [name_of_classOf own] at grown
  obtain rfl := built.remembers.plans
  obtain rfl := built.stamps
  have result := congrArg Prod.fst (add_staged staged)
  refine ⟨result, ?_, ?_, built.remembers.add result, fun d => ?_⟩
  all_goals
    rw [add_staged staged]
    dsimp only
    rw [defined]
  · exact grown
  · simp [built.classes d, or_and_right, exists_or, own, eq_comm]

end Steps

section Runs

theorem addAll_cons (g : Generator) (source : SourceType) (rest : List SourceType) :
    g.addAll (source :: rest) =
      ((g.add source).1 :: ((g.add source).2.addAll rest).1,
        ((g.add source).2.addAll rest).2) := rfl

theorem Built.add (built : g.Built planner stamp added) (source : SourceType) :
    (∃ added', (g.add source).2.Built planner stamp added') ∧
      ∀ name, name ∈ (g.add source).2.model.names ↔
        name ∈ g.model.names ∨ (g.add source).1 = .ok name := by
  by_cases taken : planner.generatedName source ∈ g.model.names
  · rw [built.add_taken taken]
    exact ⟨⟨added, built⟩, fun name => by simp⟩
  · cases own : planner.classOf stamp source with
    | error e =>
      rw [built.add_error taken own]
      exact ⟨⟨added, built⟩, fun name => by simp⟩
    | ok c =>
      obtain ⟨result, names, grown⟩ := built.add_ok taken own
      refine ⟨⟨_, grown⟩, fun name => ?_⟩
      rw [names, result]
      simp [eq_comm]

theorem Built.addAll_ok_iff {sources : List SourceType} {i : Nat} {source : SourceType}
    (built : g.Built planner stamp added) (called : sources[i]? = some source) :
    (∃ handle, (g.addAll sources).1[i]? = some (.ok handle)) ↔
      (∃ c, planner.classOf stamp source = .ok c) ∧
        planner.generatedName source ∉ g.model.names ∧
        ∀ j < i, (g.addAll sources).1[j]? ≠ some (.ok (planner.generatedName source)) := by
  induction sources generalizing g added i with
  | nil => cases called
  | cons first rest ih =>
    rw [addAll_cons]
    cases i with
    | zero =>
      obtain rfl := Option.some.inj called
      by_cases taken : planner.generatedName first ∈ g.model.names
      · simp [built.add_taken taken, taken]
      · cases own : planner.classOf stamp first with
        | error e => simp [built.add_error taken own]
        | ok c => simp [(built.add_ok taken own).1, taken]
    | succ i =>
      -- Behind the first call one more name may be taken: the one that it gave.
      obtain ⟨⟨added', next⟩, names⟩ := built.add first
      have later := ih next called
      simp only [List.getElem?_cons_succ]
      rw [later, names, Nat.forall_lt_succ_left]
      simp only [List.getElem?_cons_zero, List.getElem?_cons_succ, ne_eq, Option.some.injEq,
        not_or, and_assoc]

theorem Built.addAll_distinct {sources : List SourceType} (built : g.Built planner stamp added)
    (distinct : (sources.map planner.generatedName).Nodup)
    (free : ∀ source ∈ sources, planner.generatedName source ∉ g.model.names) :
    (g.addAll sources).1 =
        sources.map (fun source => (planner.classOf stamp source).map ClassDeclaration.name) ∧
      (g.addAll sources).2.Built planner stamp
        (added ++ sources.filter fun source => (planner.classOf stamp source).isOk) := by
  induction sources generalizing g added with
  | nil =>
    rw [List.filter_nil, List.append_nil]
    exact ⟨rfl, built⟩
  | cons first rest ih =>
    obtain ⟨fresh, distinct⟩ := List.nodup_cons.1 distinct
    have firstFree := free first List.mem_cons_self
    have restFree : ∀ source ∈ rest, planner.generatedName source ∉ g.model.names :=
      fun source member => free source (List.mem_cons_of_mem first member)
    rw [addAll_cons, List.map_cons]
    cases own : planner.classOf stamp first with
    | error e =>
      obtain ⟨results, final⟩ := ih built distinct restFree
      rw [built.add_error firstFree own]
      exact ⟨congrArg _ results, by simpa [own, Except.isOk, Except.toBool] using final⟩
    | ok c =>
      obtain ⟨result, names, next⟩ := built.add_ok firstFree own
      -- The new class takes one name, which no later type asks for.
      have nextFree : ∀ source ∈ rest,
          planner.generatedName source ∉ (g.add first).2.model.names := by
        intro source member
        rw [names, List.mem_append, List.mem_singleton]
        rintro (taken | same)
        · exact restFree source member taken
        · exact fresh (same ▸ List.mem_map_of_mem member)
      obtain ⟨results, final⟩ := ih next distinct nextFree
      rw [result, results]
      refine ⟨?_, by simpa [own, Except.isOk, Except.toBool] using final⟩
      rw [← name_of_classOf own]
      rfl

end Runs

section Order

variable {g' : Generator} {added' : List SourceType}

theorem lastNamed?_iff (distinct : (added.map SourceType.qualifiedName).Nodup) {name : String}
    {source : SourceType} :
    lastNamed? added name = some source ↔ source ∈ added ∧ source.qualifiedName = name := by
  constructor
  · exact lastNamed?_some
  · rintro ⟨member, rfl⟩
    have known := lastNamed?_isSome.2 (List.mem_map_of_mem member)
    obtain ⟨other, found⟩ := Option.isSome_iff_exists.1 known
    obtain ⟨present, same⟩ := lastNamed?_some found
    rw [found, List.inj_on_of_nodup_map distinct present member same]

theorem lastNamed?_perm (perm : added.Perm added')
    (distinct : (added.map SourceType.qualifiedName).Nodup) (name : String) :
    lastNamed? added name = lastNamed? added' name := by
  have distinct' := (perm.map SourceType.qualifiedName).nodup distinct
  ext source
  rw [lastNamed?_iff distinct, lastNamed?_iff distinct', perm.mem_iff]

theorem Built.registration_perm (built : g.Built planner stamp added)
    (built' : g'.Built planner stamp added') (perm : added.Perm added')
    (distinct : (added.map SourceType.qualifiedName).Nodup) (name : String) :
    g.registration name = g'.registration name := by
  rw [built.remembers.registers.registration, built'.remembers.registers.registration,
    lastNamed?_perm perm distinct name]

theorem Built.find?_perm (built : g.Built planner stamp added)
    (built' : g'.Built planner stamp added') (perm : added.Perm added') (name : QualifiedName) :
    g.model.find? name = g'.model.find? name := by
  ext c
  rw [built.remembers.coherent.find?_iff, built'.remembers.coherent.find?_iff, built.classes,
    built'.classes]
  simp only [perm.mem_iff]

theorem Built.answers_perm (built : g.Built planner stamp added)
    (built' : g'.Built planner stamp added') (perm : added.Perm added')
    (distinct : (added.map SourceType.qualifiedName).Nodup) (name : String) :
    g.planFor name = g'.planFor name ∧ g.handle name = g'.handle name ∧
      g.definedClass name = g'.definedClass name := by
  have registration := built.registration_perm built' perm distinct name
  have handle : g.handle name = g'.handle name := by
    unfold Generator.handle
    rw [registration]
  refine ⟨?_, handle, ?_⟩
  · unfold Generator.planFor
    rw [registration]
  · unfold Generator.definedClass
    rw [handle]
    split
    · rfl
    · rw [built.find?_perm built' perm]

end Order

theorem classOf_isOk_iff (planner : Planner) (stamp other : Option Stamp) (source : SourceType) :
    (∃ c, planner.classOf stamp source = .ok c) ↔
      ∃ c, (CodeModel.stampedWith other).stage (planner.plan source) = .ok c := by
  rw [CodeModel.stage_stampedWith stamp other]
  unfold Planner.classOf
  cases (CodeModel.stampedWith stamp).stage (planner.plan source) <;> simp [Except.map]

/-- A call succeeds exactly if the plan of its own can be staged and no earlier call has given the
same class name. Types of distinct names and distinct class names fare the same in any order. -/
theorem addAll_independent (config : Config) (pattern : NamePattern)
    (stamp other : Option Stamp) :
    let g := start config pattern (.stampedWith stamp)
    (∀ (sources : List SourceType) (i : Nat) (source : SourceType), sources[i]? = some source →
      ((∃ handle, (g.addAll sources).1[i]? = some (.ok handle)) ↔
        (∃ c, (CodeModel.stampedWith other).stage (g.plan source) = .ok c) ∧
          ∀ j < i, (g.addAll sources).1[j]? ≠ some (.ok (g.planner.generatedName source)))) ∧
    ∀ sources permuted : List SourceType, sources.Perm permuted →
      (sources.map SourceType.qualifiedName).Nodup →
      (sources.map g.planner.generatedName).Nodup →
        (∀ (i j : Nat) (source : SourceType), sources[i]? = some source →
          permuted[j]? = some source → (g.addAll sources).1[i]? = (g.addAll permuted).1[j]?) ∧
        ∀ name,
          (g.addAll sources).2.planFor name = (g.addAll permuted).2.planFor name ∧
          (g.addAll sources).2.handle name = (g.addAll permuted).2.handle name ∧
          (g.addAll sources).2.definedClass name =
            (g.addAll permuted).2.definedClass name := by
  intro g
  have built : g.Built g.planner stamp [] := .start config pattern stamp
  have empty : ∀ name, name ∉ g.model.names := fun name => List.not_mem_nil
  constructor
  · intro sources i source called
    rw [built.addAll_ok_iff called, classOf_isOk_iff g.planner stamp other]
    exact and_congr_right fun _ => and_iff_right (empty _)
  · intro sources permuted perm distinct apart
    obtain ⟨results, final⟩ := built.addAll_distinct apart fun _ _ => empty _
    obtain ⟨results', final'⟩ := built.addAll_distinct
      ((perm.map g.planner.generatedName).nodup apart) fun _ _ => empty _
    constructor
    · intro i j source left right
      rw [results, results', List.getElem?_map, List.getElem?_map, left, right]
    · intro name
      -- The same types succeed in both orders.
      have kept := perm.filter fun source => (g.planner.classOf stamp source).isOk
      have names : (List.filter (fun source => (g.planner.classOf stamp source).isOk)
          sources).Sublist sources := List.filter_sublist
      exact final.answers_perm final' kept ((names.map _).nodup distinct) name

theorem addAll_point_textField :
    let g := start .default default (.stampedWith none)
    [Samples.point, Samples.textField].Perm [Samples.textField, Samples.point] ∧
      ([Samples.point, Samples.textField].map SourceType.qualifiedName).Nodup ∧
      ([Samples.point, Samples.textField].map g.planner.generatedName).Nodup ∧
      (g.addAll [Samples.point, Samples.textField]).2.definedClass "com.example.Point" =
        (g.addAll [Samples.textField, Samples.point]).2.definedClass "com.example.Point" := by
  intro g
  have perm : [Samples.point, Samples.textField].Perm [Samples.textField, Samples.point] :=
    .swap ..
  have distinct : ([Samples.point, Samples.textField].map SourceType.qualifiedName).Nodup := by
    decide
  have apart : ([Samples.point, Samples.textField].map g.planner.generatedName).Nodup := by
    decide
  have same := ((addAll_independent .default default none none).2 _ _ perm distinct apart).2
  exact ⟨perm, distinct, apart, (same "com.example.Point").2.2⟩

end Generator

end FluentWrap
