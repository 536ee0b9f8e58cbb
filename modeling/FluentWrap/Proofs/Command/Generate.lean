import FluentWrap.Command.Generate
import FluentWrap.Proofs.Class.Building
import FluentWrap.Proofs.Command.Inputs
import FluentWrap.Proofs.Generator.Opening
import FluentWrap.Proofs.Generator.Successes

/-!
The command that generates classes. It writes nothing if one of the types is not known; otherwise it
writes the classes of all types that can be added, and fails afterwards if there were others.
-/

set_option autoImplicit false

namespace FluentWrap.Command

open Session

def GenerateRequest.chosen (request : GenerateRequest) (registry : Registry) : List String :=
  if request.types.isEmpty then registry.names else request.types

def refused : List String → List (Except Error QualifiedName) → List Skipped
  | name :: names, .error e :: results => ⟨name, e⟩ :: refused names results
  | _ :: names, .ok _ :: results => refused names results
  | _, _ => []

def ending (total : Nat) (written : List Path) : List Skipped → Except Failure (List Path)
  | [] => .ok written
  | first :: rest => .error ⟨["Skipped " ++ toString (rest.length + 1) ++ " of "
      ++ toString total ++ " types: " ++ ", ".intercalate ((first :: rest).map Skipped.type)],
      .error first.reason⟩

variable {registry : Registry} {g : Generator} {names : List String} {sources : List SourceType}
  {name : String}

section Adding

theorem ends_tellSkipped (skipped : Skipped) :
    Ends (tellSkipped skipped : ExceptT Failure Action Unit) (.ok ()) :=
  fun _ => ⟨_, rfl, rfl, rfl, rfl, rfl⟩

theorem ends_addNamedReporting (g : Generator) (registry : Registry) (name : String) :
    Ends (g.addNamedReporting registry.resolve name :
        ExceptT Failure Action (Attempt Generator QualifiedName))
      (.ok (g.addNamed registry.resolve name)) := by
  unfold Generator.addNamedReporting
  split
  · exact ends_pure _
  · exact (ends_reportAll _).bind (ends_pure _)

theorem addNamed_known {source : SourceType} (known : registry.get? name = some source) :
    g.addNamed registry.resolve name = g.add source := by
  unfold Generator.addNamed Generator.resolveThrough Registry.resolve
  rw [known]

theorem addNamed_unknown (unknown : registry.get? name = none) :
    g.addNamed registry.resolve name = (.error (.unresolved name none), g) := by
  unfold Generator.addNamed Generator.resolveThrough Registry.resolve
  rw [unknown]

/-- Known types are added one after the other, and those that are refused are skipped. -/
theorem ends_addAll_known
    (known : List.Forall₂ (fun name source => registry.get? name = some source) names sources) :
    Ends (addAll registry names g : ExceptT Failure Action (Generator × List Skipped))
      (.ok ((g.addAll sources).2, refused names (g.addAll sources).1)) := by
  induction known generalizing g with
  | nil => exact ends_pure _
  | @cons name source names sources found known ih =>
    rw [addAll, Generator.addAll_cons]
    refine (ends_addNamedReporting g registry name).bind ?_
    rw [addNamed_known found]
    rcases one : g.add source with ⟨e | handle, next⟩
    · have alone := Generator.isTypeScoped_of_add (congrArg Prod.fst one)
      dsimp only
      rw [if_pos alone]
      exact (ends_tellSkipped _).bind (ih.bind (ends_pure _))
    · exact ih

/-- At the first type that is not known everything stops. -/
theorem ends_addAll_unknown
    (unknown : names.find? (fun name => (registry.get? name).isNone) = some name) :
    Ends (addAll registry names g : ExceptT Failure Action (Generator × List Skipped))
      (.error ⟨["Failed to add " ++ name], .error (.unresolved name none)⟩) := by
  induction names generalizing g with
  | nil => cases unknown
  | cons first rest ih =>
    rw [addAll]
    refine (ends_addNamedReporting g registry first).bind ?_
    -- A type refused on its own account is skipped, so only an unknown one ends the loop.
    cases found : registry.get? first with
    | none =>
      rw [List.find?_cons_of_pos (by simp [found])] at unknown
      obtain rfl := Option.some.inj unknown
      rw [addNamed_unknown found]
      exact ends_throw _
    | some source =>
      rw [List.find?_cons_of_neg (by simp [found])] at unknown
      rw [addNamed_known found]
      rcases one : g.add source with ⟨e | handle, next⟩
      · have alone := Generator.isTypeScoped_of_add (congrArg Prod.fst one)
        dsimp only
        rw [if_pos alone]
        exact (ends_tellSkipped _).bind (ih unknown).bind_error
      · exact ih unknown

end Adding

section Generating

variable {request : GenerateRequest} {s t u : Session} {config : Config} {pattern : NamePattern}

def generateTypes (config : Config) (registry : Registry) (names : List String) :
    ExceptT Failure Action (List Path) := do
  let g ← attempt "Invalid generator configuration" (Generator.openAt config)
  let (g, skipped) ← addAll registry names g
  let written ← attempt "Failed to write sources" g.generate
  written.forM fun p => Host.print (p.text ++ "\n")
  match skippedFailure? names.length skipped with
  | some failure => throw failure
  | none => pure written

theorem run_attempt {α : Type} (s : Session) (what : String) (action : Action (Except Error α)) :
    s.run (attempt what action) =
      (Failure.inside what (s.perform action).1, (s.perform action).2) := rfl

theorem run_attempt_ok {α : Type} {what : String} {action : Action (Except Error α)} {a : α}
    (performed : s.perform action = (.ok a, t)) : s.run (attempt what action) = (.ok a, t) := by
  rw [run_attempt, performed]
  rfl

theorem run_generate (settled : s.run (settings request.overrides) = (.ok config, t))
    (loaded : t.perform (Manifest.loadAll request.manifests) = (.ok registry, u)) :
    s.run (generate request) =
      if request.chosen registry = [] then
        (.error (.plain "No types to generate: the manifests describe no types"), u)
      else u.run (generateTypes config registry (request.chosen registry)) := by
  unfold generate
  rw [run_bind_ok settled, run_bind_ok (run_attempt_ok loaded)]
  change u.run (if (request.chosen registry).isEmpty then _ else
    generateTypes config registry (request.chosen registry)) = _
  by_cases none : request.chosen registry = []
  · rw [if_pos none, if_pos (List.isEmpty_iff.2 none)]
    rfl
  · rw [if_neg none, if_neg (by simpa using none)]

theorem config_addAll (g : Generator) (sources : List SourceType) :
    (g.addAll sources).2.config = g.config := by
  induction sources generalizing g with
  | nil => rfl
  | cons source rest ih =>
    rw [Generator.addAll_cons, ih]
    unfold Generator.add
    split <;> rfl

theorem ends_printAll (paths : List Path) :
    Ends (paths.forM fun p => Host.print (p.text ++ "\n") : ExceptT Failure Action Unit)
      (.ok ()) := by
  induction paths with
  | nil => exact ends_pure ()
  | cons p rest ih => exact (ends_print _).bind ih

theorem perform_writeSources {g : Generator} {written : List Path}
    (built : s.perform (g.model.build g.config.targetDirectory) = (.ok written, t)) :
    ∃ u, s.perform g.generate = (.ok written, u) ∧ t.Alike u := by
  unfold Generator.generate
  rw [perform_bind, built]
  exact ⟨_, rfl, (reading_report _).alike t⟩

/-- Behind a type that is not known nothing is done, and before it nothing is written. -/
theorem run_generateTypes_unknown (opened : s.perform (Generator.openAt config) = (.ok g, t))
    (unknown : names.find? (fun name => (registry.get? name).isNone) = some name) :
    ∃ u, s.run (generateTypes config registry names) =
        (.error ⟨["Failed to add " ++ name], .error (.unresolved name none)⟩, u) ∧ t.Alike u := by
  obtain ⟨u, ended, alike⟩ := ends_addAll_unknown (g := g) unknown t
  refine ⟨u, ?_, alike⟩
  unfold generateTypes
  rw [run_bind_ok (run_attempt_ok opened), run_bind, ended]

theorem run_generateTypes_known (opened : s.perform (Generator.openAt config) = (.ok g, t))
    (known : List.Forall₂ (fun name source => registry.get? name = some source) names sources) :
    let added := g.addAll sources
    ∃ u, t.Alike u ∧ ∀ written after,
      u.perform (added.2.model.build g.config.targetDirectory) = (.ok written, after) →
        ∃ last, after.Alike last ∧ s.run (generateTypes config registry names) =
          (ending names.length written (refused names added.1), last) := by
  intro added
  obtain ⟨u, ended, alike⟩ := ends_addAll_known (g := g) known t
  refine ⟨u, alike, fun written after built => ?_⟩
  rw [← config_addAll g sources] at built
  obtain ⟨shown, wrote, alike'⟩ := perform_writeSources built
  obtain ⟨last, printed, alike''⟩ := ends_printAll written shown
  refine ⟨last, alike'.trans alike'', ?_⟩
  unfold generateTypes
  rw [run_bind_ok (run_attempt_ok opened), run_bind_ok ended, run_bind_ok (run_attempt_ok wrote),
    run_bind_ok printed]
  cases refused names added.1 <;> rfl

theorem run_generateTypes_emits {stamp : Option Stamp}
    (opened : s.perform (Generator.openAt config) =
      (.ok (.start config pattern (.stampedWith stamp)), t))
    (known : List.Forall₂ (fun name source => registry.get? name = some source) names sources) :
    let added := (Generator.start config pattern (.stampedWith stamp)).addAll sources
    let outcome := s.run (generateTypes config registry names)
    (t.perform (Host.storeAll (CodeModel.sourceFiles config.targetDirectory
        added.2.model.classes))).1 = .ok () →
      List.Forall₂ (fun source c => (config.planner pattern).classOf stamp source = .ok c)
        (Generator.succeeded sources added.1) added.2.model.classes ∧
      CodeModel.Emitted config.targetDirectory added.2.model.classes t outcome.2 ∧
      outcome.1 = ending names.length
        (added.2.model.names.map (CodeModel.sourcePath config.targetDirectory))
        (refused names added.1) := by
  intro added outcome stored
  obtain ⟨all, final, whole, own⟩ := (Generator.Built.start config pattern stamp).addAll .nil
    sources
  rw [List.nil_append] at whole
  rw [whole] at own
  have usable : ∀ c ∈ added.2.model.classes, c.name.Usable := by
    intro c member
    obtain ⟨source, -, staged⟩ := exists_of_forall₂ own.flip member
    exact CodeModel.usable_of_stage staged
  obtain ⟨ready, still, rest⟩ := run_generateTypes_known opened known
  -- What has been reported since the target directory is ready does not matter.
  have stored' := (steady_storeAll _ _ _ still).1.trans stored
  obtain ⟨last, written, emitted, -⟩ :=
    CodeModel.writeAll_emits usable final.remembers.coherent.distinct stored'
  obtain ⟨shown, quiet, ended⟩ := rest _ last written
  change outcome = _ at ended
  have paths : added.2.model.names.map (CodeModel.sourcePath config.targetDirectory) =
      added.2.model.classes.map fun c => CodeModel.sourcePath config.targetDirectory c.name :=
    List.map_map
  rw [ended, paths]
  refine ⟨own, (emitted.alike quiet).of_adds still.workingDir ?_ fun _ => still.files, rfl⟩
  rw [still.files]
  exact .refl _

theorem exists_unknown (unknown : ∃ name ∈ names, registry.get? name = none) :
    ∃ first, names.find? (fun name => (registry.get? name).isNone) = some first := by
  obtain ⟨name, member, unknown⟩ := unknown
  refine Option.isSome_iff_exists.1 (List.find?_isSome.2 ⟨name, member, ?_⟩)
  rw [unknown]
  rfl

theorem forall₂_filterMap_get? (known : ∀ name ∈ names, registry.get? name ≠ none) :
    List.Forall₂ (fun name source => registry.get? name = some source) names
      (names.filterMap registry.get?) := by
  induction names with
  | nil => exact .nil
  | cons name rest ih =>
    obtain ⟨source, found⟩ := Option.ne_none_iff_exists'.1 (known name List.mem_cons_self)
    rw [List.filterMap_cons_some found]
    exact .cons found (ih fun other member => known other (List.mem_cons_of_mem _ member))

/-- The command reads its settings and manifests, and opens a generator if there is something to
generate. Between these steps nothing changes but what is reported. -/
theorem run_generate_opened
    (settled : (s.run (settings request.overrides)).1 = .ok config)
    (valid : config.validate = .ok ()) (named : config.pattern = .ok pattern)
    (loaded : (s.perform (Manifest.loadAll request.manifests)).1 = .ok registry)
    (usable : (s.perform (Generator.prepareTarget config.targetDirectory)).1 = .ok ()) :
    ∃ u after, s.Alike u ∧
      (s.perform (Generator.prepareTarget config.targetDirectory)).2.Alike after ∧
      u.perform (Generator.openAt config) =
        (.ok (.start config pattern (.stampedWith (config.stampAt s.clock))), after) ∧
      s.run (generate request) =
        if request.chosen registry = [] then
          (.error (.plain "No types to generate: the manifests describe no types"), u)
        else u.run (generateTypes config registry (request.chosen registry)) := by
  have quiet := (reading_settings request.overrides).alike s
  obtain ⟨same, alike⟩ := (Manifest.reading_loadAll request.manifests).steady _ _ quiet
  have read := ((Manifest.reading_loadAll request.manifests).alike s).trans alike
  obtain ⟨ready, after⟩ := Generator.steady_prepareTarget config.targetDirectory _ _ read
  have opened := Generator.perform_openAt valid named (ready.trans usable)
  rw [read.clock] at opened
  exact ⟨_, _, read, after, opened,
    run_generate (Prod.ext settled rfl) (Prod.ext (same.trans loaded) rfl)⟩

/-- With valid settings, manifests and a target directory that takes files, the command ends in one
of three ways. If there is nothing to generate it fails and the files stay as they are. If a type is
not known it fails and no file is written or changed. Otherwise, unless access to the files fails, the classes of
the types that can be added are written as each type would have its class alone, and nothing else;
and the command fails exactly if types were refused, of which it tells. -/
theorem generate_ends (request : GenerateRequest) (s : Session) {config : Config}
    {registry : Registry} (settled : (s.run (settings request.overrides)).1 = .ok config)
    (valid : config.validate = .ok ())
    (loaded : (s.perform (Manifest.loadAll request.manifests)).1 = .ok registry)
    (usable : (s.perform (Generator.prepareTarget config.targetDirectory)).1 = .ok ()) :
    let names := request.chosen registry
    let outcome := s.run (generate request)
    (names = [] → outcome.2.files = s.files ∧ outcome.1 =
      .error (.plain "No types to generate: the manifests describe no types")) ∧
    ((∃ name ∈ names, registry.get? name = none) → s.files.AddsDirs outcome.2.files ∧
      ∃ name, names.find? (fun name => (registry.get? name).isNone) = some name ∧
        outcome.1 = .error ⟨["Failed to add " ++ name], .error (.unresolved name none)⟩) ∧
    (names ≠ [] → (∀ name ∈ names, registry.get? name ≠ none) →
      ∃ pattern, config.pattern = .ok pattern ∧
        let stamp := config.stampAt s.clock
        let sources := names.filterMap registry.get?
        let added := (Generator.start config pattern (.stampedWith stamp)).addAll sources
        ((s.perform (Generator.prepareTarget config.targetDirectory)).2.perform
            (Host.storeAll (CodeModel.sourceFiles config.targetDirectory
              added.2.model.classes))).1 = .ok () →
          List.Forall₂ (fun source c => (config.planner pattern).classOf stamp source = .ok c)
            (Generator.succeeded sources added.1) added.2.model.classes ∧
          CodeModel.Emitted config.targetDirectory added.2.model.classes s outcome.2 ∧
          outcome.1 = ending names.length
            (added.2.model.names.map (CodeModel.sourcePath config.targetDirectory))
            (refused names added.1)) := by
  intro names outcome
  obtain ⟨pattern, named⟩ := Config.exists_pattern valid
  obtain ⟨u, after, read, alike, opened, ran⟩ :=
    run_generate_opened settled valid named loaded usable
  have begins : (s.perform (Generator.prepareTarget config.targetDirectory)).2 = _ := rfl
  obtain ⟨workingDir, -, adds, unchanged⟩ := Generator.prepareTarget_adds begins
  rw [← alike.files] at adds unchanged
  change outcome = if names = [] then _ else _ at ran
  refine ⟨fun none => ?_, fun unknown => ?_, fun some known => ⟨pattern, named, ?_⟩⟩
  · rw [ran, if_pos none]
    exact ⟨read.files, rfl⟩
  · obtain ⟨first, found⟩ := exists_unknown unknown
    have some : names ≠ [] := List.ne_nil_of_mem (List.mem_of_find?_eq_some found)
    obtain ⟨last, ended, alike'⟩ := run_generateTypes_unknown opened found
    rw [ran, if_neg some, ended]
    refine ⟨?_, first, found, rfl⟩
    rw [alike'.files]
    exact adds
  · intro stamp sources added stored
    have stored' := (steady_storeAll _ _ _ alike).1.trans stored
    obtain ⟨own, emitted, ends⟩ :=
      run_generateTypes_emits opened (forall₂_filterMap_get? known) stored'
    rw [ran, if_neg some]
    exact ⟨own, emitted.of_adds (alike.workingDir.trans workingDir) adds unchanged, ends⟩

def manifestOnly : Session :=
  { files := ⟨[(["m.json"], .file (.text "\x7b\"types\":[\x7b\"name\":\"B\"\x7d]\x7d"))]⟩ }

def askedTwice : GenerateRequest := ⟨[⟨"m.json"⟩], ["B", "B"], {}⟩

theorem manifestOnly_read : ∃ registry,
    (manifestOnly.perform (Manifest.loadAll askedTwice.manifests)).1 = .ok registry ∧
      registry.get? "B" = some (.ofName "B") := by
  have known : ((manifestOnly.perform (Manifest.loadAll askedTwice.manifests)).1.map fun registry =>
      registry.get? "B") = .ok (some (.ofName "B")) := by decide +kernel
  cases loaded : (manifestOnly.perform (Manifest.loadAll askedTwice.manifests)).1 with
  | error e =>
    rw [loaded] at known
    cases known
  | ok registry =>
    rw [loaded] at known
    exact ⟨registry, rfl, Except.ok.inj known⟩

theorem generate_ends_askedTwice :
    let target := Config.default.targetDirectory
    (manifestOnly.run (settings askedTwice.overrides)).1 = .ok .default ∧
      Config.default.validate = .ok () ∧
      (∃ registry, (manifestOnly.perform (Manifest.loadAll askedTwice.manifests)).1 =
        .ok registry) ∧
      (manifestOnly.perform (Generator.prepareTarget target)).1 = .ok () ∧
      (manifestOnly.run (generate askedTwice)).1 =
        .error ⟨["Skipped 1 of 2 types: B"], .error (.conflict "FluentB" "class")⟩ ∧
      ∃ c, (Config.default.planner default).classOf (Config.default.stampAt manifestOnly.clock)
          (.ofName "B") = .ok c ∧
        CodeModel.Emitted target [c] manifestOnly (manifestOnly.run (generate askedTwice)).2 := by
  intro target
  have settled : (manifestOnly.run (settings askedTwice.overrides)).1 = .ok .default := by
    with_unfolding_all rfl
  have valid : Config.default.validate = .ok () := by decide +kernel
  have usable : (manifestOnly.perform (Generator.prepareTarget target)).1 = .ok () := by
    decide +kernel
  obtain ⟨registry, loaded, known⟩ := manifestOnly_read
  obtain ⟨-, -, ends⟩ := generate_ends askedTwice manifestOnly settled valid loaded usable
  have names : askedTwice.chosen registry = ["B", "B"] := rfl
  have sources : ["B", "B"].filterMap registry.get? = [.ofName "B", .ofName "B"] := by
    simp [known]
  rw [names, sources] at ends
  obtain ⟨pattern, named, ends⟩ := ends (by simp) (by simp [known])
  obtain rfl : pattern = default := (Except.ok.inj named).symm
  obtain ⟨own, emitted, result⟩ := ends (by decide +kernel)
  have added : Generator.succeeded [.ofName "B", .ofName "B"]
      ((Generator.start .default default (.stampedWith
        (Config.default.stampAt manifestOnly.clock))).addAll
          [.ofName "B", .ofName "B"]).1 = [.ofName "B"] := by decide +kernel
  rw [added] at own
  obtain ⟨c, none, first, rest, all⟩ := List.forall₂_cons_left_iff.1 own
  obtain rfl := List.forall₂_nil_left_iff.1 rest
  rw [all] at emitted
  exact ⟨settled, valid, ⟨registry, loaded⟩, usable, result.trans (by decide +kernel), c, first,
    emitted⟩

end Generating

end FluentWrap.Command
