import FluentWrap.Proofs.Class.Imports
import FluentWrap.Proofs.Command.Inputs
import FluentWrap.Proofs.Generator.Runs

/-!
What registries hold. However types were registered and registries merged, a registry is the one in
which all these types were registered one by one: each name stands where it was first registered,
with the type that was last registered under it. Manifests that are loaded one after the other are
merged in this way.
-/

set_option autoImplicit false

namespace FluentWrap

section FirstOccurrences

variable {α : Type} [DecidableEq α]

theorem eraseDups_of_nodup {entries : List α} (distinct : entries.Nodup) :
    entries.eraseDups = entries := by
  induction entries with
  | nil => rfl
  | cons first rest ih =>
    obtain ⟨fresh, distinct⟩ := List.nodup_cons.1 distinct
    have kept : rest.filter (fun other => !other == first) = rest := by
      refine List.filter_eq_self.2 fun other member => ?_
      simpa using fun same : other = first => fresh (same ▸ member)
    rw [List.eraseDups_cons, kept, ih distinct]

theorem eraseDups_filter (p : α → Bool) (entries : List α) :
    (entries.filter p).eraseDups = entries.eraseDups.filter p := by
  match entries with
  | [] => rfl
  | first :: rest =>
    have shorter : (rest.filter fun other => !other == first).length < rest.length + 1 :=
      Nat.lt_succ_of_le (List.length_filter_le _ rest)
    -- The occurrences behind the first one go before or after those that `p` refuses.
    have behind := eraseDups_filter p (rest.filter fun other => !other == first)
    rw [List.filter_filter] at behind
    rw [List.eraseDups_cons]
    by_cases kept : p first = true
    · rw [List.filter_cons_of_pos kept, List.filter_cons_of_pos kept, List.eraseDups_cons,
        List.filter_filter, ← behind]
      congr 2
      exact List.filter_congr fun other _ => Bool.and_comm _ _
    · rw [List.filter_cons_of_neg kept, List.filter_cons_of_neg kept, ← behind]
      congr 1
      refine List.filter_congr fun other _ => ?_
      by_cases same : other = first
      · subst same
        simp [kept]
      · simp [same]
termination_by entries.length

theorem eraseDups_concat_of_mem {entries : List α} {last : α} (known : last ∈ entries) :
    (entries ++ [last]).eraseDups = entries.eraseDups := by
  simp [List.eraseDups_append, List.removeAll, known]

theorem eraseDups_concat_of_not_mem {entries : List α} {last : α} (fresh : last ∉ entries) :
    (entries ++ [last]).eraseDups = entries.eraseDups ++ [last] := by
  simp [List.eraseDups_append, List.removeAll, fresh, List.eraseDups_cons]

theorem eraseDups_append_eraseDups (before entries : List α) :
    (before ++ entries.eraseDups).eraseDups = (before ++ entries).eraseDups := by
  rw [List.eraseDups_append, List.eraseDups_append]
  congr 1
  unfold List.removeAll
  rw [eraseDups_filter, eraseDups_filter, eraseDups_of_nodup (nodup_eraseDups entries)]

end FirstOccurrences

namespace Dictionary

variable {κ ν : Type} [DecidableEq κ]

theorem place_of_absent {key : κ} {value : ν} {entries : List (κ × ν)}
    (absent : lookup? entries key = none) :
    place key value entries = entries ++ [(key, value)] := by
  induction entries with
  | nil => rfl
  | cons first rest ih =>
    rw [lookup?_cons] at absent
    split at absent
    · cases absent
    · next other => rw [place, if_neg other, ih absent, List.cons_append]

theorem lookup?_zipIdx (keys : List κ) (start : Nat) (key : κ) :
    lookup? (keys.zipIdx start) key = (keys.idxOf? key).map (start + ·) := by
  induction keys generalizing start with
  | nil => rfl
  | cons first rest ih =>
    rw [List.zipIdx_cons, lookup?_cons, List.idxOf?_cons]
    by_cases same : first = key
    · simp [same]
    · simp only [same, ih, if_false, beq_iff_eq, Option.map_map]
      congr 1
      funext position
      exact Nat.succ_add_eq_add_succ start position

omit [DecidableEq κ] in
theorem eq_of_entries {d other : Dictionary κ ν} (same : d.entries = other.entries) :
    d = other := by
  cases d
  cases other
  congr

end Dictionary

namespace Registry

/-- Whether a registry holds what was registered, in this order: the first registration of a name
gives its place, and the last one its type. -/
structure Follows (registry : Registry) (history : List SourceType) : Prop where
  names : registry.names = (history.map SourceType.qualifiedName).eraseDups
  latest : ∀ source ∈ registry.types, lastNamed? history source.qualifiedName = some source
  index : registry.index.entries = registry.names.zipIdx

variable {registry other : Registry} {history later : List SourceType} {source : SourceType}
  {name : String}

section Reading

theorem Follows.distinct (follows : registry.Follows history) : registry.names.Nodup := by
  rw [follows.names]
  exact nodup_eraseDups _

theorem Follows.mem_names (follows : registry.Follows history) :
    name ∈ registry.names ↔ name ∈ history.map SourceType.qualifiedName := by
  rw [follows.names, List.mem_eraseDups]

theorem Follows.get?_index (follows : registry.Follows history) (name : String) :
    registry.index.get? name = registry.names.idxOf? name := by
  rw [Dictionary.get?, follows.index, Dictionary.lookup?_zipIdx]
  simp

theorem Follows.index_cases (follows : registry.Follows history) (name : String) :
    (∃ (position : Nat) (bound : position < registry.types.length),
      registry.index.get? name = some position ∧
        registry.types[position].qualifiedName = name) ∨
      registry.index.get? name = none ∧ name ∉ registry.names := by
  rw [follows.get?_index]
  cases found : registry.names.idxOf? name with
  | none => exact .inr ⟨rfl, List.idxOf?_eq_none_iff.1 found⟩
  | some position =>
    obtain ⟨bound, same, -⟩ := List.idxOf?_eq_some_iff.1 found
    simp only [Registry.names, List.length_map, List.getElem_map] at bound same
    exact .inl ⟨position, bound, rfl, same⟩

theorem Follows.types (follows : registry.Follows history) :
    registry.types = registry.names.filterMap (lastNamed? history) := by
  have latest : registry.types.filterMap (lastNamed? history ∘ SourceType.qualifiedName) =
      registry.types.filterMap some := List.filterMap_congr follows.latest
  rw [Registry.names, List.filterMap_map, latest, List.filterMap_some]

/-- What was registered determines the whole registry. -/
theorem Follows.eq (follows : registry.Follows history) (same : other.Follows history) :
    registry = other := by
  have names : registry.names = other.names := follows.names.trans same.names.symm
  have types : registry.types = other.types := by rw [follows.types, same.types, names]
  have index : registry.index = other.index :=
    Dictionary.eq_of_entries (by rw [follows.index, same.index, names])
  cases registry
  cases other
  exact congrArg₂ Registry.mk types index

theorem Follows.get?_eq (follows : registry.Follows history) (name : String) :
    registry.get? name = (lastNamed? history name).or
      (registry.types.find? fun source => source.typeRef.canonicalName = name) := by
  unfold get?
  rcases follows.index_cases name with ⟨position, bound, found, named⟩ | ⟨missing, absent⟩
  · have last := follows.latest _ (List.getElem_mem bound)
    rw [named] at last
    rw [found, last, Option.some_or]
    exact List.getElem?_eq_getElem bound
  · have never : lastNamed? history name = none := by
      rw [follows.mem_names, ← Generator.lastNamed?_isSome] at absent
      simpa using absent
    rw [missing, never, Option.none_or]
    rfl

theorem Follows.resolve_of_mem (follows : registry.Follows history)
    (member : name ∈ registry.names) :
    ∃ source, registry.resolve name = .ok source ∧ source.qualifiedName = name := by
  rw [follows.mem_names, ← Generator.lastNamed?_isSome, Option.isSome_iff_exists] at member
  obtain ⟨source, last⟩ := member
  refine ⟨source, ?_, (Generator.lastNamed?_some last).2⟩
  rw [resolve, follows.get?_eq, last, Option.some_or]

end Reading

section Registering

theorem follows_empty : empty.Follows [] :=
  ⟨rfl, nofun, rfl⟩

theorem lastNamed?_concat (history : List SourceType) (source : SourceType) (name : String) :
    lastNamed? (history ++ [source]) name =
      if source.qualifiedName = name then some source else lastNamed? history name := by
  rw [Generator.lastNamed?_append]
  by_cases same : source.qualifiedName = name <;> simp [lastNamed?, same]

theorem Follows.register (follows : registry.Follows history) (source : SourceType) :
    (registry.register source).Follows (history ++ [source]) := by
  unfold Registry.register
  rcases follows.index_cases source.qualifiedName with
    ⟨position, bound, found, named⟩ | ⟨missing, absent⟩
  · -- The name is taken; the new type stands in the place of the old one.
    have known : source.qualifiedName ∈ history.map SourceType.qualifiedName := by
      rw [← follows.mem_names, ← named]
      exact List.mem_map_of_mem (List.getElem_mem bound)
    have kept : (registry.types.set position source).map SourceType.qualifiedName =
        registry.names := by
      have placed : position < registry.names.length := by
        rwa [Registry.names, List.length_map]
      rw [List.map_set, ← named, ← List.getElem_map (h := placed) SourceType.qualifiedName]
      exact List.set_getElem_self placed
    rw [found]
    refine ⟨?_, fun t member => ?_, ?_⟩
    · rw [List.map_append, List.map_singleton, eraseDups_concat_of_mem known, ← follows.names]
      exact kept
    · rw [lastNamed?_concat]
      split
      · next same =>
        -- No two types have one name, so this is the one that was put there.
        have distinct := follows.distinct
        rw [← kept] at distinct
        exact congrArg some
          (List.inj_on_of_nodup_map distinct (List.mem_set bound source) member same)
      · next differs =>
        have before := (List.mem_or_eq_of_mem_set member).resolve_right fun same =>
          differs (congrArg _ same.symm)
        exact follows.latest t before
    · exact follows.index.trans (congrArg List.zipIdx kept.symm)
  · have fresh : source.qualifiedName ∉ history.map SourceType.qualifiedName := by
      rwa [← follows.mem_names]
    have longer : (registry.types ++ [source]).map SourceType.qualifiedName =
        registry.names ++ [source.qualifiedName] := List.map_append
    rw [missing]
    refine ⟨?_, fun t member => ?_, ?_⟩
    · rw [List.map_append, List.map_singleton, eraseDups_concat_of_not_mem fresh, ← follows.names]
      exact longer
    · rw [lastNamed?_concat]
      rcases List.mem_append.1 member with before | last
      · have differs : source.qualifiedName ≠ t.qualifiedName := fun same =>
          absent (same ▸ List.mem_map_of_mem before)
        rw [if_neg differs]
        exact follows.latest t before
      · rw [List.mem_singleton.1 last, if_pos rfl]
    · have length : registry.types.length = registry.names.length := (List.length_map _).symm
      dsimp only [Registry.names, Dictionary.insert]
      rw [longer, Dictionary.place_of_absent missing, follows.index, List.zipIdx_append, length]
      simp

theorem Follows.registerAll (follows : registry.Follows history) (sources : List SourceType) :
    (registry.registerAll sources).Follows (history ++ sources) := by
  induction sources generalizing registry history with
  | nil => simpa [Registry.registerAll] using follows
  | cons source rest ih =>
    have all := ih (follows.register source)
    rwa [List.append_assoc, List.singleton_append] at all

theorem follows_ofList (sources : List SourceType) : (ofList sources).Follows sources :=
  follows_empty.registerAll sources

theorem Follows.lastNamed?_types (follows : registry.Follows history) (name : String) :
    lastNamed? registry.types name = lastNamed? history name := by
  cases found : lastNamed? registry.types name with
  | some source =>
    obtain ⟨member, rfl⟩ := Generator.lastNamed?_some found
    exact (follows.latest source member).symm
  | none =>
    have absent : name ∉ registry.names := by
      rw [Registry.names, ← Generator.lastNamed?_isSome, found]
      exact Bool.false_ne_true
    rw [follows.mem_names, ← Generator.lastNamed?_isSome] at absent
    exact (Option.not_isSome_iff_eq_none.1 absent).symm

/-- Merging a registry is registering all that it was made from. -/
theorem Follows.extend (follows : registry.Follows history) (merged : other.Follows later) :
    (registry.extend other).Follows (history ++ later) := by
  have all := follows.registerAll other.types
  refine ⟨all.names.trans ?_, fun source member => ?_, all.index⟩
  · have names : other.types.map SourceType.qualifiedName = _ := merged.names
    rw [List.map_append, names, eraseDups_append_eraseDups, List.map_append]
  · rw [← all.latest source member, Generator.lastNamed?_append, Generator.lastNamed?_append,
      merged.lastNamed?_types]

end Registering

end Registry

namespace Manifest

open Session

variable {s : Session} {registry : Registry} {history : List SourceType}

def sourcesAt (tree : FileTree) (workingDir : Place) (p : Path) :
    Except Error (List SourceType) :=
  match tree.readText workingDir p with
  | .error e => .error (.metadata (some p.text) ("cannot read manifest: " ++ e.message))
  | .ok text => read (.ofPath p) (some p.text) text

theorem perform_load (s : Session) (p : Path) :
    (s.perform (load p)).1 = (sourcesAt s.files s.workingDir p).map Registry.ofList := by
  unfold load sourcesAt
  rw [perform_bind, perform_readText]
  cases s.files.readText s.workingDir p with
  | error e => rfl
  | ok text =>
    dsimp only
    cases read (.ofPath p) (some p.text) text <;> rfl

theorem perform_loadInto (follows : registry.Follows history) (s : Session) (paths : List Path) :
    (s.perform (loadInto registry paths)).1 =
      (paths.mapM (sourcesAt s.files s.workingDir)).map fun sources =>
        .ofList (history ++ sources.flatten) := by
  induction paths generalizing registry history s with
  | nil =>
    have same := follows.eq (Registry.follows_ofList history)
    rw [loadInto, perform_pure, same, List.mapM_nil]
    exact congrArg (fun sources => Except.ok (Registry.ofList sources)) (List.append_nil _).symm
  | cons p rest ih =>
    have alike := (reading_load p).alike s
    rw [loadInto, perform_bind, List.mapM_cons]
    cases found : sourcesAt s.files s.workingDir p with
    | error e =>
      have failed : (s.perform (load p)).1 = .error e := by rw [perform_load, found]; rfl
      rw [failed]
      rfl
    | ok sources =>
      have loaded : (s.perform (load p)).1 = .ok (.ofList sources) := by
        rw [perform_load, found]
        rfl
      rw [loaded]
      dsimp only
      rw [perform_bind]
      -- Reporting leaves the files as they are, so the rest is read from the same ones.
      have reported := (reading_reportAll
        (registry.registerAllReport (Registry.ofList sources).types)).alike
          (s.perform (load p)).2
      rw [ih (follows.extend (Registry.follows_ofList sources)), reported.files, alike.files,
        reported.workingDir, alike.workingDir]
      cases rest.mapM (sourcesAt s.files s.workingDir) with
      | error e => rfl
      | ok others => simp [bind, Except.bind, pure, Except.pure, Except.map]

theorem mapM_error_iff {ε α β : Type} {f : α → Except ε β} {entries : List α} :
    (∃ e, entries.mapM f = .error e) ↔ ∃ entry ∈ entries, ∃ e, f entry = .error e := by
  induction entries with
  | nil => exact iff_of_false nofun nofun
  | cons entry rest ih =>
    rw [List.mapM_cons]
    cases first : f entry with
    | error e => exact ⟨fun _ => ⟨entry, List.mem_cons_self, e, first⟩, fun _ => ⟨e, rfl⟩⟩
    | ok result =>
      have others : (∃ e, (do
          let result ← Except.ok result
          let results ← rest.mapM f
          pure (result :: results)) = .error e) ↔ ∃ e, rest.mapM f = .error e := by
        cases rest.mapM f <;> simp [bind, Except.bind, pure, Except.pure]
      rw [others, ih]
      simp [first]

end Manifest

namespace Registry

inductive Assembly where
  | empty
  | register (assembly : Assembly) (source : SourceType)
  | extend (assembly other : Assembly)

namespace Assembly

def registry : Assembly → Registry
  | empty => .empty
  | register assembly source => assembly.registry.register source
  | extend assembly other => assembly.registry.extend other.registry

def history : Assembly → List SourceType
  | empty => []
  | register assembly source => assembly.history ++ [source]
  | extend assembly other => assembly.history ++ other.history

theorem follows (assembly : Assembly) : assembly.registry.Follows assembly.history := by
  induction assembly with
  | empty => exact follows_empty
  | register assembly source ih => exact ih.register source
  | extend assembly other ih merged => exact ih.extend merged

end Assembly

/-- A registry that was made in any way is the one in which all types were registered one by one. Its
names stand in the order of first registration, and each finds the last type of the name; a name that
was never registered finds the first type of that canonical name. Loading manifests registers the
types of all files in order, unless one of the files fails. -/
theorem assembled (assembly : Assembly) :
    assembly.registry = .ofList assembly.history ∧
    assembly.registry.names = (assembly.history.map SourceType.qualifiedName).eraseDups ∧
    assembly.registry.names.Nodup ∧
    assembly.registry.types = assembly.registry.names.filterMap (lastNamed? assembly.history) ∧
    (∀ name, assembly.registry.get? name = (lastNamed? assembly.history name).or
      (assembly.registry.types.find? fun source => source.typeRef.canonicalName = name)) ∧
    (∀ name ∈ assembly.registry.names, ∃ source,
      assembly.registry.resolve name = .ok source ∧ source.qualifiedName = name) ∧
    ∀ (s : Session) (paths : List Path),
      (s.perform (Manifest.loadAll paths)).1 =
        (paths.mapM (Manifest.sourcesAt s.files s.workingDir)).map
          (fun sources => .ofList sources.flatten) ∧
      ((∃ e, (s.perform (Manifest.loadAll paths)).1 = .error e) ↔
        ∃ p ∈ paths, ∃ e, Manifest.sourcesAt s.files s.workingDir p = .error e) := by
  have follows := assembly.follows
  refine ⟨follows.eq (follows_ofList _), follows.names, follows.distinct, follows.types,
    follows.get?_eq, fun name member => follows.resolve_of_mem member, fun s paths => ?_⟩
  have loaded := Manifest.perform_loadInto follows_empty s paths
  refine ⟨loaded, ?_⟩
  rw [Manifest.loadAll, loaded, ← Manifest.mapM_error_iff]
  cases paths.mapM (Manifest.sourcesAt s.files s.workingDir) <;> simp [Except.map]

end Registry

end FluentWrap
