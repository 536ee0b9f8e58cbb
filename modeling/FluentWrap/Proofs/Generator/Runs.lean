import FluentWrap.Generator
import FluentWrap.Proofs.Class.Coherence

/-!
Generators over whole runs. Whatever is asked of a generator, and whether or not it succeeds, its
registry, its order of adding, its classes and their index tell of the same source types.
-/

set_option autoImplicit false

namespace FluentWrap

inductive Call where
  | add (source : SourceType)
  | addNamed (provide : String → Except Error SourceType) (name : String)
  | declare (name : String) (m : Member)
  | restamp (name : String) (stamp : Option Stamp)

inductive Reply where
  | handle (name : QualifiedName)
  | done
  deriving DecidableEq, Repr

namespace Call

def source? : Call → Option SourceType
  | add source => some source
  | addNamed provide name => (Generator.resolveThrough provide name).toOption
  | declare .. | restamp .. => none

def isAdd : Call → Bool
  | add _ | addNamed .. => true
  | declare .. | restamp .. => false

def perform (g : Generator) : Call → Attempt Generator Reply
  | add source => ((g.add source).1.map .handle, (g.add source).2)
  | addNamed provide name =>
    ((g.addNamed provide name).1.map .handle, (g.addNamed provide name).2)
  | declare name m => ((g.declareIn name m).1.map fun _ => .done, (g.declareIn name m).2)
  | restamp name stamp => ((g.restamp name stamp).1.map fun _ => .done, (g.restamp name stamp).2)

def added? (call : Call) : Except Error Reply → Option SourceType
  | .ok _ => call.source?
  | .error _ => none

def isFailedAdd (call : Call) : Except Error Reply → Bool
  | .ok _ => false
  | .error _ => call.isAdd

end Call

def addedBy (calls : List Call) (results : List (Except Error Reply)) : List SourceType :=
  (calls.zip results).filterMap fun (call, result) => call.added? result

def withoutFailedAdds (calls : List Call) (results : List (Except Error Reply)) :
    List (Call × Except Error Reply) :=
  (calls.zip results).filter fun (call, result) => !call.isFailedAdd result

def lastNamed? (sources : List SourceType) (name : String) : Option SourceType :=
  sources.reverse.find? fun source => source.qualifiedName = name

namespace Generator

def performAll (g : Generator) : List Call → List (Except Error Reply) × Generator
  | [] => ([], g)
  | call :: rest =>
    let (result, g) := call.perform g
    let (results, g) := performAll g rest
    (result :: results, g)

/-- Whether a registry tells of each name what a planner makes of the last type of this name that was
added. -/
def Registers (g : Generator) (planner : Planner) (added : List SourceType) : Prop :=
  ∀ name, g.registry.get? name = (lastNamed? added name).map fun source =>
    ⟨planner.generatedName source, planner.plan source⟩

structure Remembers (g : Generator) (planner : Planner) (added : List SourceType) : Prop where
  plans : g.planner = planner
  registered : g.registered = added.map SourceType.qualifiedName
  realized : List.Forall₂ (fun source c => c.Realizes (planner.plan source)) added g.model.classes
  registry : ∀ name, g.registry.get? name = (lastNamed? added name).map fun source =>
    ⟨planner.generatedName source, planner.plan source⟩
  coherent : g.model.Coherent

variable {g : Generator} {planner : Planner} {added : List SourceType}

theorem Remembers.start (config : Config) (pattern : NamePattern) (stamp : Option Stamp) :
    (start config pattern (.stampedWith stamp)).Remembers (config.planner pattern) [] where
  plans := rfl
  registered := rfl
  realized := .nil
  registry _ := rfl
  coherent := .stampedWith stamp

section Steps

theorem add_refused {source : SourceType} {e : Error}
    (refused : g.model.stage (g.plan source) = .error e) : g.add source = (.error e, g) := by
  unfold add
  rw [CodeModel.define_error refused]

theorem add_staged {source : SourceType} {c : ClassDeclaration}
    (staged : g.model.stage (g.plan source) = .ok c) :
    g.add source = (.ok (g.planner.generatedName source), { g with
      model := (g.model.define (g.plan source)).2
      registered := g.registered ++ [source.qualifiedName]
      registry := g.registry.insert source.qualifiedName
        ⟨g.planner.generatedName source, g.plan source⟩ }) := by
  unfold add
  rw [CodeModel.define_ok staged]
  simp only [plan, Planner.generated_plan]

theorem lastNamed?_append (added more : List SourceType) (name : String) :
    lastNamed? (added ++ more) name = (lastNamed? more name).or (lastNamed? added name) := by
  unfold lastNamed?
  rw [List.reverse_append, List.find?_append]

theorem Registers.insert {source : SourceType} (registers : g.Registers planner added) :
    Registers { g with
      registry := g.registry.insert source.qualifiedName
        ⟨planner.generatedName source, planner.plan source⟩ } planner (added ++ [source]) := by
  intro name
  dsimp only
  rw [Dictionary.get?_insert, lastNamed?_append, registers name]
  by_cases same : source.qualifiedName = name <;> simp [lastNamed?, same]

theorem Remembers.add {source : SourceType} {handle : QualifiedName}
    (remembers : g.Remembers planner added) (accepted : (g.add source).1 = .ok handle) :
    (g.add source).2.Remembers planner (added ++ [source]) := by
  obtain rfl := remembers.plans
  cases staged : g.model.stage (g.plan source) with
  | error e =>
    rw [add_refused staged] at accepted
    cases accepted
  | ok c =>
    have coherent := remembers.coherent.define (g.plan source)
    have realizes := CodeModel.realizes_of_stage staged
    have defined := CodeModel.define_ok staged
    rw [add_staged staged]
    refine ⟨rfl, ?_, ?_, ?_, coherent⟩
    · simp [remembers.registered]
    · dsimp only
      rw [defined]
      exact List.rel_append remembers.realized (.cons realizes .nil)
    · exact Registers.insert (g := g) remembers.registry

theorem add_of_error {source : SourceType} {e : Error} (failed : (g.add source).1 = .error e) :
    (g.add source).2 = g := by
  cases staged : g.model.stage (g.plan source) with
  | error => rw [add_refused staged]
  | ok c =>
    rw [add_staged staged] at failed
    cases failed

theorem forall₂_set {sources : List SourceType} {classes : List ClassDeclaration}
    {R : SourceType → ClassDeclaration → Prop} {position : Nat} {c changed : ClassDeclaration}
    (related : List.Forall₂ R sources classes) (found : classes[position]? = some c)
    (keeps : ∀ source, R source c → R source changed) :
    List.Forall₂ R sources (classes.set position changed) := by
  induction related generalizing position with
  | nil => exact .nil
  | cons first rest ih =>
    cases position with
    | zero =>
      obtain rfl := Option.some.inj found
      exact .cons (keeps _ first) rest
    | succ position => exact .cons first (ih found)

theorem Remembers.onClass {α : Type} {name : String}
    {step : ClassDeclaration → Attempt ClassDeclaration α} (remembers : g.Remembers planner added)
    (named : ∀ c, (step c).2.name = c.name)
    (keeps : ∀ c plan, c.Realizes plan → (step c).2.Realizes plan) :
    (g.onClass name step).2.Remembers planner added := by
  unfold Generator.onClass
  split
  · exact remembers
  · next handle known =>
    split
    · exact remembers
    · next result model stepped =>
      -- Registry and order stay as they are, and one class gives way to another.
      have coherent := remembers.coherent.onClass? named stepped
      obtain ⟨position, c, found, -, same⟩ := remembers.coherent.onClass?_eq stepped
      obtain ⟨-, rfl⟩ := Prod.mk.inj same
      refine ⟨remembers.plans, remembers.registered, ?_, remembers.registry, coherent⟩
      exact forall₂_set remembers.realized found fun source => keeps c (planner.plan source)

/-- What a call does: it adds a type, or it cannot tell which, or it changes a class that goes on
realizing its plan. -/
theorem perform_cases (g : Generator) (call : Call) :
    (∃ source, call.source? = some source ∧
      call.perform g = ((g.add source).1.map .handle, (g.add source).2)) ∨
    (∃ e, call.source? = none ∧ call.perform g = (.error e, g)) ∨
    ∃ name, ∃ step : ClassDeclaration → Attempt ClassDeclaration Unit,
      call.source? = none ∧ call.isAdd = false ∧ (∀ c, (step c).2.name = c.name) ∧
        (∀ c plan, c.Realizes plan → (step c).2.Realizes plan) ∧
        call.perform g = ((g.onClass name step).1.map fun _ => .done, (g.onClass name step).2) := by
  cases call with
  | add source => exact .inl ⟨source, rfl, rfl⟩
  | addNamed provide name =>
    cases found : resolveThrough provide name with
    | error e =>
      refine .inr (.inl ⟨e, ?_, ?_⟩)
      · simp only [Call.source?, found, Except.toOption]
      · simp only [Call.perform, addNamed, found, Except.map]
    | ok source =>
      refine .inl ⟨source, ?_, ?_⟩
      · simp only [Call.source?, found, Except.toOption]
      · simp only [Call.perform, addNamed, found]
  | declare name m =>
    exact .inr (.inr ⟨name, fun c => c.declare m, rfl, rfl, fun c => c.name_declare m,
      fun _ _ realizes => realizes.declare m, rfl⟩)
  | restamp name stamp =>
    exact .inr (.inr ⟨name, fun c => c.restamp stamp, rfl, rfl, fun _ => rfl,
      fun _ _ realizes => realizes.restamp stamp, rfl⟩)

theorem added?_eq_none {call : Call} (asks : call.source? = none)
    (result : Except Error Reply) : call.added? result = none := by
  cases result with
  | error => rfl
  | ok => exact asks

/-- One call adds to what is remembered the type that it has added, and nothing else. -/
theorem Remembers.perform (remembers : g.Remembers planner added) (call : Call) :
    (call.perform g).2.Remembers planner (added ++ (call.added? (call.perform g).1).toList) := by
  rcases g.perform_cases call with ⟨source, asks, performs⟩ | ⟨e, asks, performs⟩ |
    ⟨name, step, asks, -, named, keeps, performs⟩
  · rw [performs]
    cases outcome : (g.add source).1 with
    | error e =>
      rw [add_of_error outcome]
      simpa [Except.map, Call.added?] using remembers
    | ok handle => simpa [Except.map, Call.added?, asks] using remembers.add outcome
  · rw [added?_eq_none asks, performs]
    simpa using remembers
  · rw [added?_eq_none asks, performs]
    simpa using remembers.onClass named keeps

theorem perform_of_failedAdd {call : Call}
    (failed : call.isFailedAdd (call.perform g).1 = true) : (call.perform g).2 = g := by
  rcases g.perform_cases call with ⟨source, -, performs⟩ | ⟨e, -, performs⟩ |
    ⟨name, step, -, noAdd, -, -, performs⟩
  · rw [performs] at failed ⊢
    cases outcome : (g.add source).1 with
    | error e => exact add_of_error outcome
    | ok handle =>
      rw [outcome] at failed
      cases failed
  · rw [performs]
  · cases result : (call.perform g).1 with
    | error e =>
      rw [result, Call.isFailedAdd, noAdd] at failed
      cases failed
    | ok reply =>
      rw [result] at failed
      cases failed

end Steps

section Runs

theorem performAll_cons (g : Generator) (call : Call) (rest : List Call) :
    g.performAll (call :: rest) =
      ((call.perform g).1 :: ((call.perform g).2.performAll rest).1,
        ((call.perform g).2.performAll rest).2) := rfl

theorem addedBy_cons (call : Call) (calls : List Call) (result : Except Error Reply)
    (results : List (Except Error Reply)) :
    addedBy (call :: calls) (result :: results) =
      (call.added? result).toList ++ addedBy calls results := by
  cases found : call.added? result <;> simp [addedBy, found]

theorem withoutFailedAdds_cons (call : Call) (calls : List Call) (result : Except Error Reply)
    (results : List (Except Error Reply)) :
    withoutFailedAdds (call :: calls) (result :: results) =
      if call.isFailedAdd result then withoutFailedAdds calls results
      else (call, result) :: withoutFailedAdds calls results := by
  cases failed : call.isFailedAdd result <;> simp [withoutFailedAdds, failed]

theorem performAll_remembers (remembers : g.Remembers planner added) (calls : List Call) :
    (g.performAll calls).2.Remembers planner (added ++ addedBy calls (g.performAll calls).1) := by
  -- What was added before grows with each call, so it is generalized too.
  induction calls generalizing g added with
  | nil => simpa [performAll, addedBy] using remembers
  | cons call rest ih =>
    rw [performAll_cons, addedBy_cons, ← List.append_assoc]
    exact ih (remembers.perform call)

theorem performAll_withoutFailedAdds (g : Generator) (calls : List Call) :
    g.performAll ((withoutFailedAdds calls (g.performAll calls).1).map Prod.fst) =
      ((withoutFailedAdds calls (g.performAll calls).1).map Prod.snd,
        (g.performAll calls).2) := by
  induction calls generalizing g with
  | nil => rfl
  | cons call rest ih =>
    have tail := ih (call.perform g).2
    rw [performAll_cons, withoutFailedAdds_cons]
    split
    · next failed =>
      -- The call is left out, and the rest starts from the state before it.
      rw [perform_of_failedAdd failed] at tail ⊢
      exact tail
    · rw [List.map_cons, List.map_cons, performAll_cons, tail]

end Runs

section Lookups

theorem lastNamed?_isSome {name : String} :
    (lastNamed? added name).isSome = true ↔ name ∈ added.map SourceType.qualifiedName := by
  simp [lastNamed?]

theorem lastNamed?_split {before after : List SourceType} {source : SourceType}
    (last : ∀ other ∈ after, other.qualifiedName ≠ source.qualifiedName) :
    lastNamed? (before ++ source :: after) source.qualifiedName = some source := by
  have missing : after.reverse.find? (fun other => other.qualifiedName = source.qualifiedName) =
      none := by
    simpa using last
  simp [lastNamed?, missing]

theorem lastNamed?_some {name : String} {source : SourceType}
    (found : lastNamed? added name = some source) :
    source ∈ added ∧ source.qualifiedName = name := by
  have member := List.mem_of_find?_eq_some found
  have named := List.find?_some found
  exact ⟨List.mem_reverse.1 member, by simpa using named⟩

theorem Registers.registration (registers : g.Registers planner added) (name : String) :
    g.registration name =
      match lastNamed? added name with
      | some source => .ok ⟨planner.generatedName source, planner.plan source⟩
      | none => .error (.notRegistered name) := by
  unfold Generator.registration
  rw [registers name]
  cases lastNamed? added name <;> rfl

theorem Registers.handle_iff {name : String} {handle : QualifiedName}
    (registers : g.Registers planner added) :
    g.handle name = .ok handle ↔
      ∃ source, lastNamed? added name = some source ∧
        planner.generatedName source = handle := by
  unfold Generator.handle
  rw [registers.registration name]
  cases lastNamed? added name <;> simp [Except.map]

theorem Registers.planFor_iff {name : String} {plan : Plan}
    (registers : g.Registers planner added) :
    g.planFor name = .ok plan ↔
      ∃ source, lastNamed? added name = some source ∧ planner.plan source = plan := by
  unfold Generator.planFor
  rw [registers.registration name]
  cases lastNamed? added name <;> simp [Except.map]

theorem Remembers.registers (remembers : g.Remembers planner added) :
    g.Registers planner added :=
  remembers.registry

theorem Remembers.resolves {name : String} {handle : QualifiedName}
    (remembers : g.Remembers planner added) (known : g.handle name = .ok handle) :
    ∃ c ∈ g.model.classes, c.name = handle ∧ g.model.find? handle = some c ∧
      g.definedClass name = .ok c := by
  obtain ⟨source, found, rfl⟩ := remembers.registers.handle_iff.1 known
  obtain ⟨member, -⟩ := lastNamed?_some found
  obtain ⟨c, present, realizes⟩ := exists_of_forall₂ remembers.realized member
  have named := realizes.name.trans (planner.generated_plan source)
  have located := remembers.coherent.find?_iff.2 ⟨present, named⟩
  refine ⟨c, present, named, located, ?_⟩
  unfold Generator.definedClass
  rw [known]
  dsimp only
  rw [located]

theorem Remembers.missing {name : String} (remembers : g.Remembers planner added)
    (never : lastNamed? added name = none) :
    g.handle name = .error (.notRegistered name) ∧
      g.planFor name = .error (.notRegistered name) := by
  unfold Generator.handle Generator.planFor
  rw [remembers.registers.registration name, never]
  exact ⟨rfl, rfl⟩

end Lookups

structure Shows (g : Generator) (planner : Planner) (added : List SourceType) : Prop where
  registered : g.registered = added.map SourceType.qualifiedName
  classes : List.Forall₂ (fun source c => c.Realizes (planner.plan source)) added g.model.classes
  distinct : g.model.names.Nodup
  found : ∀ name c, g.model.find? name = some c ↔ c ∈ g.model.classes ∧ c.name = name
  known : ∀ name, (∃ r, g.registration name = .ok r) ↔ name ∈ g.registered
  resolves : ∀ name handle, g.handle name = .ok handle →
    ∃ c ∈ g.model.classes, c.name = handle ∧ g.model.find? handle = some c ∧
      g.definedClass name = .ok c
  /-- Of several types of one name the last counts. -/
  last : ∀ before source after, added = before ++ source :: after →
    (∀ other ∈ after, other.qualifiedName ≠ source.qualifiedName) →
      g.planFor source.qualifiedName = .ok (planner.plan source) ∧
        g.handle source.qualifiedName = .ok (planner.generatedName source)
  missing : ∀ name, (∀ source ∈ added, source.qualifiedName ≠ name) →
    g.handle name = .error (.notRegistered name) ∧
      g.planFor name = .error (.notRegistered name) ∧
      g.definedClass name = .error (.notRegistered name) ∧
      ∀ {α : Type} (step : ClassDeclaration → Attempt ClassDeclaration α),
        g.onClass name step = (.error (.notRegistered name), g)

theorem Remembers.shows (remembers : g.Remembers planner added) : g.Shows planner added where
  registered := remembers.registered
  classes := remembers.realized
  distinct := remembers.coherent.distinct
  found name c := remembers.coherent.find?_iff
  known name := by
    rw [remembers.registered, ← lastNamed?_isSome, remembers.registers.registration name]
    cases lastNamed? added name <;> simp
  resolves name handle known := remembers.resolves known
  last before source after split last := by
    have found : lastNamed? added source.qualifiedName = some source := by
      rw [split]
      exact lastNamed?_split last
    exact ⟨remembers.registers.planFor_iff.2 ⟨source, found, rfl⟩,
      remembers.registers.handle_iff.2 ⟨source, found, rfl⟩⟩
  missing name never := by
    have absent : lastNamed? added name = none := by
      rw [lastNamed?, List.find?_eq_none]
      simpa using never
    obtain ⟨handle, planFor⟩ := remembers.missing absent
    refine ⟨handle, planFor, ?_, fun step => ?_⟩
    · unfold Generator.definedClass
      rw [handle]
    · unfold Generator.onClass
      rw [handle]

/-- Whatever is asked of a new generator, it shows exactly the types whose adding has succeeded,
and the adds that have failed might as well not have been tried. -/
theorem performAll_start (config : Config) (pattern : NamePattern) (stamp : Option Stamp)
    (calls : List Call) :
    let g := start config pattern (.stampedWith stamp)
    let (results, final) := g.performAll calls
    final.Shows (config.planner pattern) (addedBy calls results) ∧
      g.performAll ((withoutFailedAdds calls results).map Prod.fst) =
        ((withoutFailedAdds calls results).map Prod.snd, final) := by
  have remembers := performAll_remembers (Remembers.start config pattern stamp) calls
  exact ⟨remembers.shows, performAll_withoutFailedAdds _ calls⟩

end Generator

end FluentWrap
