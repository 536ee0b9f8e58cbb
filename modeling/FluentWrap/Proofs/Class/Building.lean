import FluentWrap.Plan.Planner
import FluentWrap.Proofs.Class.Edits
import FluentWrap.Proofs.Host.Storing
import FluentWrap.Samples

/-!
Writing classes out. The source file of a class lies where its package and its name say, below the
directory that is given; the classes of a model have distinct files, and each of them holds what its
class is written as, however often it is written.
-/

set_option autoImplicit false

namespace FluentWrap

open FileTree (IsStep)

namespace QualifiedName

def packageSegments (name : QualifiedName) : List String :=
  if name.package = "" then [] else (Text.splitOn '.' name.package.toList).map String.ofList

def fileNames (name : QualifiedName) : List String :=
  name.packageSegments ++ [name.simpleName ++ ".java"]

structure Usable (name : QualifiedName) : Prop where
  package : name.package = "" ∨ Naming.isPackage name.package = true
  simpleName : Naming.isIdentifier name.simpleName = true

variable {name other : QualifiedName} {part : String} {dir : Path}

section FileNames

theorem intercalate_packageSegments (name : QualifiedName) :
    ".".intercalate name.packageSegments = name.package := by
  unfold packageSegments
  split
  · next absent => rw [absent, String.intercalate_nil]
  · apply String.toList_injective
    rw [String.toList_intercalate, List.map_map, Text.splitOn_eq]
    have same : String.toList ∘ String.ofList = id := funext fun s => String.toList_ofList
    rw [same, List.map_id]
    exact List.intercalate_splitOn '.'

theorem fileNames_inj (same : name.fileNames = other.fileNames) : name = other := by
  obtain ⟨segments, simple⟩ := List.append_inj' same rfl
  have package : name.package = other.package := by
    rw [← intercalate_packageSegments name, segments, intercalate_packageSegments]
  have simpleName : name.simpleName = other.simpleName := by
    have marked := congrArg String.toList (List.singleton_inj.1 simple)
    rw [String.toList_append, String.toList_append] at marked
    exact String.toList_injective (List.append_cancel_right marked)
  cases name
  cases other
  simp_all

theorem not_mem_of_isIdentifier {c : Char} (named : Naming.isIdentifier part = true)
    (other : Naming.isIdentifierPart c = false) (start : Naming.isIdentifierStart c = false) :
    c ∉ part.toList := by
  obtain ⟨first, rest, whole, begins, goesOn, -⟩ := Naming.isIdentifier_iff.1 named
  rw [whole]
  intro member
  rcases List.mem_cons.1 member with rfl | later
  · rw [start] at begins
    cases begins
  · rw [goesOn c later] at other
    cases other

theorem isStep_of_isIdentifier (named : Naming.isIdentifier part = true) : IsStep part where
  nonempty := by
    rintro rfl
    cases named
  notHere := by
    rintro rfl
    exact not_mem_of_isIdentifier (c := '.') named (by decide) (by decide) (by decide)
  notUp := by
    rintro rfl
    exact not_mem_of_isIdentifier (c := '.') named (by decide) (by decide) (by decide)
  single := not_mem_of_isIdentifier named (by decide) (by decide)

theorem isStep_java (named : Naming.isIdentifier part = true) : IsStep (part ++ ".java") := by
  have step := isStep_of_isIdentifier named
  have letters : (part ++ ".java").toList = part.toList ++ ['.', 'j', 'a', 'v', 'a'] :=
    String.toList_append
  -- No special name is as long as the ending.
  have long : 5 ≤ (part ++ ".java").toList.length := by
    rw [letters, List.length_append]
    exact Nat.le_add_left 5 _
  refine ⟨?_, ?_, ?_, ?_⟩
  · intro empty
    rw [empty] at long
    exact absurd long (by decide)
  · intro here
    rw [here] at long
    exact absurd long (by decide)
  · intro up
    rw [up] at long
    exact absurd long (by decide)
  · rw [letters, List.mem_append, not_or]
    exact ⟨step.single, by decide⟩

theorem Usable.isStep (usable : name.Usable) : ∀ part ∈ name.fileNames, IsStep part := by
  intro part member
  unfold fileNames packageSegments at member
  rcases List.mem_append.1 member with inside | last
  · split at inside
    · cases inside
    · next present =>
      obtain ⟨segment, cut, rfl⟩ := List.mem_map.1 inside
      exact isStep_of_isIdentifier
        (List.all_eq_true.1 (usable.package.resolve_left present) segment cut)
  · rw [List.mem_singleton.1 last]
    exact isStep_java usable.simpleName

theorem fileNames_ne_nil (name : QualifiedName) : name.fileNames ≠ [] := by
  simp [fileNames]

theorem sourcePath_eq (dir : Path) (name : QualifiedName) :
    CodeModel.sourcePath dir name = name.fileNames.foldl Path.push dir := by
  unfold CodeModel.sourcePath fileNames packageSegments
  rw [List.foldl_concat]
  split <;> rfl

theorem Usable.text_sourcePath (usable : name.Usable) (dir : Path) :
    (CodeModel.sourcePath dir name).text =
      dir.text ++ dir.joint ++ "/".intercalate name.fileNames := by
  rw [sourcePath_eq, Path.text_foldl_push usable.isStep name.fileNames_ne_nil]

theorem Usable.sourcePath_inj (usable : name.Usable) (usable' : other.Usable)
    (same : CodeModel.sourcePath dir name = CodeModel.sourcePath dir other) : name = other := by
  have texts := congrArg Path.text same
  rw [usable.text_sourcePath, usable'.text_sourcePath, String.append_right_inj] at texts
  exact fileNames_inj (Path.intercalate_inj (fun part member => (usable.isStep part member).single)
    (fun part member => (usable'.isStep part member).single) name.fileNames_ne_nil
    other.fileNames_ne_nil texts)

end FileNames

end QualifiedName

namespace CodeModel

def sourceFiles (dir : Path) (classes : List ClassDeclaration) : List (Path × String) :=
  classes.map fun c => (sourcePath dir c.name, c.source)

/-- Whether a session shows the source files of classes below a directory, and is else as another
session was. -/
structure Emitted (dir : Path) (classes : List ClassDeclaration) (before after : Session) :
    Prop where
  /-- No two classes share a file. -/
  distinct : (classes.map fun c => sourcePath dir c.name).Nodup
  /-- The directory is followed by the segments of the package and the name of the class. -/
  shape : ∀ c ∈ classes, ∃ segments : List String, ".".intercalate segments = c.name.package ∧
    (∀ part ∈ segments ++ [c.name.simpleName ++ ".java"], IsStep part) ∧
    (sourcePath dir c.name).text = dir.text ++ dir.joint ++
      "/".intercalate (segments ++ [c.name.simpleName ++ ".java"])
  holds : ∀ c ∈ classes, ∃ base, after.files.reach after.workingDir dir = .ok base ∧
    after.files.lookup? (base ++ c.name.fileNames) = some (.file (.text c.source)) ∧
    after.files.readText after.workingDir (sourcePath dir c.name) = .ok c.source
  /-- Elsewhere there are at most new directories. -/
  kept : ∀ place, (∀ c ∈ classes,
      after.files.reach after.workingDir (sourcePath dir c.name) ≠ .ok place) →
    before.files.KeptAt after.files place
  below : ∀ base, before.OpenAt dir base → Session.ChangedBelow base before.files after.files

variable {s t u : Session} {dir : Path} {classes : List ClassDeclaration}

section Writing

theorem perform_writeClass {c : ClassDeclaration}
    (stored : s.perform (Host.store (sourcePath dir c.name) c.source) = (.ok (), t)) :
    ∃ u, s.perform (writeClass dir c) = (.ok (sourcePath dir c.name), u) ∧ t.Alike u := by
  obtain ⟨opened, above, written⟩ := Session.store_ok_iff.1 stored
  refine ⟨(t.perform (Host.report ⟨.debug, "Wrote " ++ (sourcePath dir c.name).text, []⟩)).2, ?_,
    (Session.reading_report _).alike t⟩
  rw [Host.makeAbove] at above
  unfold writeClass
  dsimp only
  cases found : (sourcePath dir c.name).parent? with
  | none =>
    rw [found] at above
    obtain ⟨-, rfl⟩ := Prod.mk.inj above
    dsimp only
    rw [Session.perform_bind, Session.perform_pure, Session.perform_bind, written]
    rfl
  | some parent =>
    rw [found] at above
    dsimp only at above ⊢
    rw [Session.perform_bind, above, Session.perform_bind, Session.perform_pure]
    dsimp only [Except.mapError]
    rw [Session.perform_bind, written]
    rfl

theorem perform_writeAll
    (stored : s.perform (Host.storeAll (sourceFiles dir classes)) = (.ok (), t)) :
    ∃ u, s.perform (writeAll dir classes) =
      (.ok (classes.map fun c => sourcePath dir c.name), u) ∧ t.Alike u := by
  induction classes generalizing s t with
  | nil =>
    obtain ⟨-, rfl⟩ := Prod.mk.inj stored
    exact ⟨s, rfl, .refl s⟩
  | cons c classes ih =>
    rw [sourceFiles, List.map_cons, Session.perform_storeAll] at stored
    rcases one : s.perform (Host.store (sourcePath dir c.name) c.source) with ⟨e | ⟨⟩, next⟩
    · rw [one] at stored
      cases stored
    · rw [one] at stored
      change next.perform (Host.storeAll (sourceFiles dir classes)) = (.ok (), t) at stored
      obtain ⟨shown, first, alike⟩ := perform_writeClass one
      -- What was reported in between does not matter for the files that follow.
      obtain ⟨same, after⟩ := Session.steady_storeAll (sourceFiles dir classes) _ _ alike
      rw [stored] at same after
      obtain ⟨u, others, alike'⟩ := ih (s := shown)
        (t := (shown.perform (Host.storeAll (sourceFiles dir classes))).2) (Prod.ext same rfl)
      refine ⟨u, ?_, after.trans alike'⟩
      rw [writeAll, Session.perform_bind, first]
      dsimp only
      rw [Session.perform_bind, others]
      rfl

end Writing

section Emitting

theorem Emitted.alike (emitted : Emitted dir classes s t) (alike : t.Alike u) :
    Emitted dir classes s u where
  distinct := emitted.distinct
  shape := emitted.shape
  holds := by
    rw [alike.files, alike.workingDir]
    exact emitted.holds
  kept := by
    rw [alike.files, alike.workingDir]
    exact emitted.kept
  below := by
    rw [alike.files]
    exact emitted.below

/-- Directories that were made beforehand do not count, if none are made below one that is there. -/
theorem Emitted.of_adds (emitted : Emitted dir classes t u) (same : t.workingDir = s.workingDir)
    (adds : s.files.AddsDirs t.files)
    (unchanged : s.files.stat s.workingDir dir = .ok .directory → t.files = s.files) :
    Emitted dir classes s u where
  distinct := emitted.distinct
  shape := emitted.shape
  holds := emitted.holds
  kept place elsewhere := (adds place).trans (emitted.kept place elsewhere)
  below base opened := by
    have below := emitted.below base (opened.keep same adds.keeps)
    rwa [unchanged opened.1] at below

theorem reach_sourcePath {name : QualifiedName} {place : Place} (usable : name.Usable)
    (reached : s.files.reach s.workingDir (sourcePath dir name) = .ok place) :
    ∃ base, s.files.reach s.workingDir dir = .ok base ∧ place = base ++ name.fileNames := by
  rw [QualifiedName.sourcePath_eq] at reached
  exact FileTree.reach_foldl_push usable.isStep reached

theorem nodup_places {names : List QualifiedName} {places : List Place}
    (usable : ∀ name ∈ names, name.Usable) (distinct : names.Nodup)
    (led : List.Forall₂ (fun name place =>
      s.files.reach s.workingDir (sourcePath dir name) = .ok place) names places) :
    places.Nodup := by
  have unique : Relator.BiUnique fun (name : QualifiedName) place => name.Usable ∧
      s.files.reach s.workingDir (sourcePath dir name) = .ok place := by
    constructor
    · rintro name other place ⟨usable, reached⟩ ⟨usable', reached'⟩
      obtain ⟨base, found, rfl⟩ := reach_sourcePath usable reached
      obtain ⟨base', found', same⟩ := reach_sourcePath usable' reached'
      obtain rfl := Except.ok.inj (found.symm.trans found')
      exact QualifiedName.fileNames_inj (List.append_cancel_left same)
    · rintro name place other ⟨-, reached⟩ ⟨-, reached'⟩
      exact Except.ok.inj (reached.symm.trans reached')
  exact (List.rel_nodup unique ((List.forall₂_and_left _ _).2 ⟨usable, led⟩)).1 distinct

theorem nodup_sourcePaths (usable : ∀ c ∈ classes, c.name.Usable)
    (distinct : (classes.map ClassDeclaration.name).Nodup) (dir : Path) :
    (classes.map fun c => sourcePath dir c.name).Nodup := by
  have injective : ∀ name ∈ classes.map ClassDeclaration.name,
      ∀ other ∈ classes.map ClassDeclaration.name,
        sourcePath dir name = sourcePath dir other → name = other := by
    intro name first other second same
    obtain ⟨c, member, rfl⟩ := List.mem_map.1 first
    obtain ⟨d, member', rfl⟩ := List.mem_map.1 second
    exact (usable c member).sourcePath_inj (usable d member') same
  have paths := List.Nodup.map_on injective distinct
  rwa [List.map_map] at paths

theorem emitted_of_storeAll (usable : ∀ c ∈ classes, c.name.Usable)
    (distinct : (classes.map ClassDeclaration.name).Nodup)
    (stored : s.perform (Host.storeAll (sourceFiles dir classes)) = (.ok (), t)) :
    Emitted dir classes s t ∧ ∃ files : FileTree,
      t.perform (Host.storeAll (sourceFiles dir classes)) = (.ok (), { t with files }) ∧
        ∀ place, files.lookup? place = t.files.lookup? place := by
  obtain ⟨places, done⟩ := Session.stored_of_storeAll stored
  have filed := done.filed
  rw [sourceFiles, List.forall₂_map_left_iff] at filed
  have led : List.Forall₂ (fun name place =>
      t.files.reach t.workingDir (sourcePath dir name) = .ok place)
      (classes.map ClassDeclaration.name) places := by
    rw [List.forall₂_map_left_iff]
    exact filed.imp fun c place both => both.1.reach
  -- Two paths could still lead to one place; below a directory that is there they do not.
  have apart : places.Nodup := nodup_places (by simpa using usable) distinct led
  refine ⟨⟨nodup_sourcePaths usable distinct dir, fun c member => ?_, fun c member => ?_,
    fun place elsewhere => ?_, fun base opened => ?_⟩, Session.storeAll_again
      (done.filed.imp fun item place both => And.intro both.1 (both.2 apart))⟩
  · exact ⟨c.name.packageSegments, c.name.intercalate_packageSegments, (usable c member).isStep,
      (usable c member).text_sourcePath dir⟩
  · obtain ⟨place, -, lodges, holds⟩ := exists_of_forall₂ filed member
    obtain ⟨base, found, rfl⟩ := reach_sourcePath (usable c member) lodges.reach
    exact ⟨base, found, holds apart,
      FileTree.readText_of_reached lodges.admissible lodges.reach (holds apart)⟩
  · refine done.kept place fun among => ?_
    obtain ⟨c, member, lodges, -⟩ := exists_of_forall₂ filed.flip among
    exact elsewhere c member lodges.reach
  · refine Session.storeAll_below opened (fun item member => ?_) stored
    obtain ⟨c, inside, rfl⟩ := List.mem_map.1 member
    exact ⟨c.name.fileNames, c.name.fileNames_ne_nil, (usable c inside).isStep,
      QualifiedName.sourcePath_eq dir c.name⟩

/-- Classes of distinct, usable names are written out if their files can be stored. Then they can be
written out once more, and nothing changes. -/
theorem writeAll_emits (usable : ∀ c ∈ classes, c.name.Usable)
    (distinct : (classes.map ClassDeclaration.name).Nodup)
    (stored : (s.perform (Host.storeAll (sourceFiles dir classes))).1 = .ok ()) :
    ∃ after, s.perform (writeAll dir classes) =
        (.ok (classes.map fun c => sourcePath dir c.name), after) ∧
      Emitted dir classes s after ∧
      ∃ again, after.perform (writeAll dir classes) =
          (.ok (classes.map fun c => sourcePath dir c.name), again) ∧
        ∀ place, again.files.lookup? place = after.files.lookup? place := by
  have first : s.perform (Host.storeAll (sourceFiles dir classes)) = (.ok (), _) :=
    Prod.ext stored rfl
  obtain ⟨emitted, files, second, same⟩ := emitted_of_storeAll usable distinct first
  obtain ⟨after, written, alike⟩ := perform_writeAll first
  obtain ⟨once, more⟩ := Session.steady_storeAll (sourceFiles dir classes) _ _ alike
  obtain ⟨again, rewritten, alike'⟩ := perform_writeAll
    (t := (after.perform (Host.storeAll (sourceFiles dir classes))).2)
    (Prod.ext (once.trans (by rw [second])) rfl)
  refine ⟨after, written, emitted.alike alike, again, rewritten, fun place => ?_⟩
  rw [alike'.files, more.files, second, alike.files]
  exact same place

end Emitting

section Models

theorem usable_of_stage {model : CodeModel} {plan : Plan} {c : ClassDeclaration}
    (staged : model.stage plan = .ok c) : c.name.Usable := by
  obtain ⟨-, declarable⟩ := stage_isOk_iff.1 ⟨c, staged⟩
  rw [(realizes_of_stage staged).name]
  exact ⟨declarable.openable.package, declarable.openable.simpleName⟩

theorem usable_of_editAll (stamp : Option Stamp) (edits : List Edit) :
    ∀ c ∈ ((CodeModel.stampedWith stamp).editAll edits).classes, c.name.Usable := by
  refine (editAll_induction
    (P := fun model => model.Coherent ∧ ∀ c ∈ model.classes, c.name.Usable) ?_
    ⟨.stampedWith stamp, fun _ member => absurd member List.not_mem_nil⟩).2
  rintro edit - model result after ⟨coherent, usable⟩ performed
  refine ⟨coherent.perform performed, fun c member => ?_⟩
  rcases coherent.mem_of_perform performed member with old | made
  · exact usable c old
  · cases made with
    | staged staged => exact usable_of_stage staged
    | declared known =>
      rw [ClassDeclaration.name_declare]
      exact usable _ known
    | @restamped old _ known => exact usable old known

/-- However a model has come about, its classes can be written out below any directory, each to a
file of its own, unless an access to the files fails; and once they are written out, to do so again
changes nothing. -/
theorem build_editAll (stamp : Option Stamp) (edits : List Edit) (dir : Path) (s : Session)
    (stored : (s.perform (Host.storeAll (sourceFiles dir
      ((CodeModel.stampedWith stamp).editAll edits).classes))).1 = .ok ()) :
    let model := (CodeModel.stampedWith stamp).editAll edits
    ∃ after, s.perform (model.build dir) = (.ok (model.names.map (sourcePath dir)), after) ∧
      Emitted dir model.classes s after ∧
      ∃ again, after.perform (model.build dir) =
          (.ok (model.names.map (sourcePath dir)), again) ∧
        ∀ place, again.files.lookup? place = after.files.lookup? place := by
  intro model
  have consistent := (Consistent.stampedWith stamp).editAll edits
  have paths : model.names.map (sourcePath dir) =
      model.classes.map fun c => sourcePath dir c.name := List.map_map
  rw [paths]
  exact writeAll_emits (usable_of_editAll stamp edits) consistent.distinct stored

theorem build_editAll_point :
    let edits := [Edit.define (Planner.plan default Samples.point)]
    let model := (CodeModel.stampedWith none).editAll edits
    (Session.perform default (Host.storeAll (sourceFiles ⟨"out"⟩ model.classes))).1 = .ok () ∧
      model.names.map (sourcePath ⟨"out"⟩) = [⟨"out/com/example/FluentPoint.java"⟩] ∧
      ∃ after, Session.perform default (model.build ⟨"out"⟩) =
          (.ok (model.names.map (sourcePath ⟨"out"⟩)), after) ∧
        Emitted ⟨"out"⟩ model.classes default after := by
  intro edits model
  have stored : (Session.perform default
      (Host.storeAll (sourceFiles ⟨"out"⟩ model.classes))).1 = .ok () := by decide +kernel
  obtain ⟨after, written, emitted, -⟩ := build_editAll none edits ⟨"out"⟩ default stored
  exact ⟨stored, by decide +kernel, after, written, emitted⟩

end Models

end CodeModel

end FluentWrap
