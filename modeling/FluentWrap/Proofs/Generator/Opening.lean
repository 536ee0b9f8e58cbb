import FluentWrap.Generator
import FluentWrap.Proofs.Config.Rules
import FluentWrap.Proofs.Host.Sessions

/-!
Opening a generator. Settings that break a rule are refused before anything is done. With all others
a target directory is made where nothing lies, and what lies there is probed with a temporary file.
The generator then begins with nothing, or the failure is one of the target directory.
-/

set_option autoImplicit false

namespace FluentWrap

open Session

namespace Config

def stampAt (config : Config) (moment : String) : Option Stamp :=
  if config.stamped then some (.dated moment) else none

end Config

structure Session.TakesFiles (s : Session) (dir : Path) : Prop where
  there : s.files.stat s.workingDir dir = .ok .directory
  writable : s.probe dir = .ok ()

namespace Generator

variable {s t : Session} {dir : Path}

theorem steady_makeTarget (dir : Path) : Steady (makeTarget dir) := by
  refine (reading_exists? dir).steady.bind fun there => ?_
  split
  · exact steady_pure _
  · refine (steady_makeDirs dir).bind fun made => ?_
    split
    · exact steady_pure _
    · exact (steady_report _).bind fun _ => steady_pure _

theorem steady_checkTarget (dir : Path) : Steady (checkTarget dir) := by
  refine (steady_stat dir).bind fun found => ?_
  split
  · exact steady_pure _
  · exact steady_pure _
  · refine (steady_makeTemporary dir).bind fun made => ?_
    split <;> exact steady_pure _

theorem steady_prepareTarget (dir : Path) : Steady (prepareTarget dir) := by
  refine (steady_makeTarget dir).bind fun made => ?_
  split
  · exact steady_pure _
  · exact steady_checkTarget dir

/-- A target directory passes if it is there and takes files, and checking it leaves no trace. -/
theorem checkTarget_ends (s : Session) (dir : Path) :
    (∃ what, s.perform (checkTarget dir) = (.error (targetError dir what), s)) ∨
      s.perform (checkTarget dir) = (.ok (), s) ∧ s.TakesFiles dir := by
  unfold checkTarget
  rw [perform_bind, perform_stat]
  rcases found : s.files.stat s.workingDir dir with e | (_ | _)
  · exact .inl ⟨_, rfl⟩
  · exact .inl ⟨_, rfl⟩
  · dsimp only
    rw [perform_bind, perform_makeTemporary]
    cases probed : s.probe dir with
    | error e => exact .inl ⟨_, rfl⟩
    | ok made => exact .inr ⟨rfl, found, probed⟩

theorem perform_prepareTarget (s : Session) (dir : Path) :
    (s.perform (prepareTarget dir)).2 = (s.perform (makeTarget dir)).2 := by
  unfold prepareTarget
  rw [perform_bind]
  rcases s.perform (makeTarget dir) with ⟨e | _, t⟩
  · rfl
  · dsimp only
    rcases checkTarget_ends t dir with ⟨what, same⟩ | ⟨same, -⟩
    all_goals rw [same]

theorem makeTarget_of_ok {kind : EntryKind} (there : s.files.stat s.workingDir dir = .ok kind) :
    s.perform (makeTarget dir) = (.ok (), s) := by
  unfold makeTarget
  rw [perform_bind, perform_exists?, there]
  rfl

theorem makeTarget_of_error {e : IoError} (missing : s.files.stat s.workingDir dir = .error e) :
    (∃ e t, s.perform (Host.makeDirs dir) = (.error e, t) ∧ s.perform (makeTarget dir) =
        (.error (targetError dir ("could not be created: " ++ e.message)), t)) ∨
      ∃ t events, s.perform (Host.makeDirs dir) = (.ok (), t) ∧
        s.perform (makeTarget dir) = (.ok (), { t with events }) := by
  unfold makeTarget
  rw [perform_bind, perform_exists?, missing]
  have absent : (Except.error e : Except IoError EntryKind).isOk = false := rfl
  rw [absent, if_neg Bool.false_ne_true, perform_bind]
  rcases s.perform (Host.makeDirs dir) with ⟨e | _, t⟩
  · exact .inl ⟨e, t, rfl, rfl⟩
  · exact .inr ⟨t, _, rfl, rfl⟩

theorem makeTarget_ends (s : Session) (dir : Path) :
    (∃ what, (s.perform (makeTarget dir)).1 = .error (targetError dir what)) ∨
      (s.perform (makeTarget dir)).1 = .ok () := by
  cases found : s.files.stat s.workingDir dir with
  | ok kind =>
    rw [makeTarget_of_ok found]
    exact .inr rfl
  | error e =>
    rcases makeTarget_of_error found with ⟨e, t, -, same⟩ | ⟨t, events, -, same⟩
    · exact .inl ⟨_, congrArg Prod.fst same⟩
    · exact .inr (congrArg Prod.fst same)

/-- Directories are made at most, and none if the target directory is there. -/
theorem prepareTarget_adds (prepared : (s.perform (prepareTarget dir)).2 = t) :
    t.workingDir = s.workingDir ∧ t.clock = s.clock ∧ s.files.AddsDirs t.files ∧
      (s.files.stat s.workingDir dir = .ok .directory → t.files = s.files) := by
  rw [perform_prepareTarget] at prepared
  subst prepared
  cases found : s.files.stat s.workingDir dir with
  | ok kind =>
    rw [makeTarget_of_ok found]
    exact ⟨rfl, rfl, .refl _, fun _ => rfl⟩
  | error e =>
    -- Directories that have been made stay even if the last of them could not be made.
    have furnished := furnished_makeDirs s dir
    rcases makeTarget_of_error found with ⟨e, t, made, same⟩ | ⟨t, events, made, same⟩
    all_goals
      rw [made] at furnished
      rw [same]
      exact ⟨furnished.workingDir, furnished.clock, furnished.dirs, nofun⟩

theorem prepareTarget_ends (s : Session) (dir : Path) :
    (∃ what, (s.perform (prepareTarget dir)).1 = .error (targetError dir what)) ∨
      (s.perform (prepareTarget dir)).1 = .ok () ∧
        (s.perform (prepareTarget dir)).2.TakesFiles dir := by
  have made := makeTarget_ends s dir
  unfold prepareTarget
  rw [perform_bind]
  rcases run : s.perform (makeTarget dir) with ⟨e | _, t⟩
  · rw [run] at made
    rcases made with ⟨what, failed⟩ | done
    · exact .inl ⟨what, failed⟩
    · cases done
  · dsimp only
    rcases checkTarget_ends t dir with ⟨what, same⟩ | ⟨same, takes⟩
    · exact .inl ⟨what, congrArg Prod.fst same⟩
    · rw [same]
      exact .inr ⟨rfl, takes⟩

theorem prepareTarget_of_directory (there : s.files.stat s.workingDir dir = .ok .directory) :
    s.perform (prepareTarget dir) =
      ((s.probe dir).mapError fun e => targetError dir ("is not writable: " ++ e.message), s) := by
  unfold prepareTarget checkTarget
  rw [perform_bind, makeTarget_of_ok there]
  dsimp only
  rw [perform_bind, perform_stat, there]
  dsimp only
  rw [perform_bind, perform_makeTemporary]
  cases s.probe dir <;> rfl

variable {config : Config} {pattern : NamePattern}

theorem openWith_invalid {m : Type → Type} [Monad m] [Host m] {e : Error}
    (invalid : config.validate = .error e) (model : CodeModel) :
    (openWith config model : m (Except Error Generator)) = pure (.error e) := by
  unfold openWith
  rw [invalid]

theorem perform_openAt_invalid {e : Error} (invalid : config.validate = .error e) (s : Session) :
    s.perform (openAt config) = (.error e, s) := by
  unfold openAt
  simp only [openWith_invalid invalid]
  split <;> rfl

/-- What comes of valid settings is what comes of their target directory. -/
theorem perform_openAt_valid (valid : config.validate = .ok ())
    (named : config.pattern = .ok pattern) (s : Session) :
    s.perform (openAt config) =
      ((s.perform (prepareTarget config.targetDirectory)).1.map fun _ =>
          start config pattern (.stampedWith (config.stampAt s.clock)),
        (s.perform (prepareTarget config.targetDirectory)).2) := by
  have opened : ∀ model, s.perform (openWith config model) =
      ((s.perform (prepareTarget config.targetDirectory)).1.map fun _ => start config pattern model,
        (s.perform (prepareTarget config.targetDirectory)).2) := by
    intro model
    unfold openWith
    rw [valid, named]
    dsimp only
    rw [perform_bind]
    rcases s.perform (prepareTarget config.targetDirectory) with ⟨_ | _, t⟩ <;> rfl
  unfold openAt Config.stampAt
  split
  · exact opened _
  · exact opened _

theorem perform_openAt (valid : config.validate = .ok ()) (named : config.pattern = .ok pattern)
    (usable : (s.perform (prepareTarget config.targetDirectory)).1 = .ok ()) :
    s.perform (openAt config) =
      (.ok (start config pattern (.stampedWith (config.stampAt s.clock))),
        (s.perform (prepareTarget config.targetDirectory)).2) := by
  rw [perform_openAt_valid valid named, usable]
  rfl

structure Fresh (g : Generator) (config : Config) (pattern : NamePattern) : Prop where
  settings : g.config = config
  planning : g.planner = config.planner pattern
  unwritten : g.model.classes = []
  unlisted : g.registered = []
  unknown : ∀ name, g.handle name = .error (.notRegistered name)

theorem fresh_start (config : Config) (pattern : NamePattern) (stamp : Option Stamp) :
    (start config pattern (.stampedWith stamp)).Fresh config pattern where
  settings := rfl
  planning := rfl
  unwritten := rfl
  unlisted := rfl
  unknown _ := rfl

/-- Settings that break rules are refused with one failure, which tells of the violated rules in
their order and of no others, and nothing has been done. With all other settings the pattern is
read, and the root package is none or a package; what lay anywhere before stays; and either nothing
has been added to the generator and its target directory takes files, or the failure names the
target directory. If this was there before, no file shows that it was probed, and the probe
decides. -/
theorem openAt_ends (config : Config) (s : Session) :
    let outcome := s.perform (openAt config)
    ((∃ problem, config.Violates problem) → ∃ problems : List Config.Problem,
      (∀ problem, problem ∈ problems ↔ config.Violates problem) ∧
        problems.Pairwise (fun a b => a.rank < b.rank) ∧
        outcome = (.error (.configuration
          ("; ".intercalate (problems.map Config.Problem.message))), s)) ∧
    ((∀ problem, ¬ config.Violates problem) → ∃ pattern,
      config.pattern = .ok pattern ∧ pattern.text = config.namePattern ∧
        ((config.planner pattern).rootPackage = "" ∨
          Naming.isPackage (config.planner pattern).rootPackage = true) ∧
        s.files.AddsDirs outcome.2.files ∧
        ((∃ what, outcome.1 = .error (.configuration
            ("target directory '" ++ config.targetDirectory.text ++ "' " ++ what))) ∨
          (∃ g, outcome.1 = .ok g ∧ g.Fresh config pattern) ∧
            outcome.2.TakesFiles config.targetDirectory) ∧
        (s.files.stat s.workingDir config.targetDirectory = .ok .directory →
          outcome.2.files = s.files ∧
          match s.probe config.targetDirectory with
          | .ok () => outcome.1.isOk = true
          | .error e => outcome.1 = .error (.configuration ("target directory '" ++
              config.targetDirectory.text ++ "' " ++ ("is not writable: " ++ e.message))))) := by
  intro outcome
  refine ⟨fun broken => ?_, fun kept => ?_⟩
  · refine ⟨config.problems, fun _ => Config.mem_problems, config.problems_increasing, ?_⟩
    obtain ⟨problem, violates⟩ := broken
    have some : config.problems ≠ [] := List.ne_nil_of_mem (Config.mem_problems.2 violates)
    refine perform_openAt_invalid ?_ s
    rw [Config.validate_eq, if_neg some]
    rfl
  · have valid := Config.validate_ok_iff.2 kept
    obtain ⟨pattern, named⟩ := Config.exists_pattern valid
    have opened : outcome = _ := perform_openAt_valid valid named s
    have begins : (s.perform (prepareTarget config.targetDirectory)).2 = _ := rfl
    obtain ⟨-, -, adds, -⟩ := prepareTarget_adds begins
    refine ⟨pattern, named, Config.text_of_pattern named, Config.rootPackage_planner valid pattern,
      ?_, ?_, fun there => ?_⟩
    · rw [opened]
      exact adds
    · rw [opened]
      rcases prepareTarget_ends s config.targetDirectory with ⟨what, failed⟩ | ⟨made, takes⟩
      · refine .inl ⟨what, ?_⟩
        rw [failed]
        rfl
      · refine .inr ⟨⟨_, ?_, fresh_start config pattern (config.stampAt s.clock)⟩, takes⟩
        rw [made]
        rfl
    · rw [opened, prepareTarget_of_directory there]
      refine ⟨rfl, ?_⟩
      cases s.probe config.targetDirectory <;> rfl

def writingHere : Config := { Config.default with targetDirectory := ⟨"."⟩ }

def sealedSession : Session where
  temporary _ workingDir dir := .error ((IoError.other "Permission denied (os error 13)").located
    (temporaryPath workingDir dir).text)

theorem openAt_ends_here :
    (∀ problem, ¬ writingHere.Violates problem) ∧
      (∃ g, (({} : Session).perform (openAt writingHere)).1 = .ok g ∧
        g.Fresh writingHere default) ∧
      (sealedSession.perform (openAt writingHere)).1 = .error (.configuration
        "target directory '.' is not writable: Permission denied (os error 13) at path \"/./.tmp000000\"") := by
  have kept := Config.validate_ok_iff.1 (show writingHere.validate = .ok () by decide +kernel)
  obtain ⟨pattern, named, -, -, -, ends, there⟩ := (openAt_ends writingHere {}).2 kept
  obtain rfl : pattern = default := (Except.ok.inj named).symm
  obtain ⟨-, -, -, -, -, -, refused⟩ := (openAt_ends writingHere sealedSession).2 kept
  refine ⟨kept, ?_, (refused (by decide +kernel)).2⟩
  obtain ⟨-, done⟩ := there (by decide +kernel)
  have done : (({} : Session).perform (openAt writingHere)).1.isOk = true := done
  rcases ends with ⟨what, failed⟩ | ⟨opened, -⟩
  · rw [failed] at done
    cases done
  · exact opened

end Generator

end FluentWrap
