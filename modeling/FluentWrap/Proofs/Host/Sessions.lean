import FluentWrap.Host.Session
import FluentWrap.Proofs.Files.Paths

/-!
Actions in a session. What an action does depends on the files, the working directory and the clock,
never on what has been reported or printed. Making directories adds some where nothing lay, and
directories that are there are left alone.
-/

set_option autoImplicit false

namespace FluentWrap

variable {α β : Type}

namespace Host

variable {m : Type → Type} [Monad m] [Host m]

def ensureDir (p : Path) : m (Except IoError Unit) := do
  tolerate p (← makeDir p)

end Host

namespace Session

def perform (s : Session) (action : Action α) : α × Session :=
  action s

/-- Whether two sessions differ at most by what was reported and printed. -/
structure Alike (s t : Session) : Prop where
  files : t.files = s.files
  workingDir : t.workingDir = s.workingDir
  temporary : t.temporary = s.temporary
  clock : t.clock = s.clock

variable {s t u : Session} {p : Path} {outer : List Path} {action : Action α}

section Performing

@[simp] theorem perform_pure (s : Session) (a : α) : s.perform (pure a) = (a, s) := rfl

@[simp] theorem perform_bind (s : Session) (action : Action α) (next : α → Action β) :
    s.perform (action >>= next) = (s.perform action).2.perform (next (s.perform action).1) := rfl

@[simp] theorem perform_stat (s : Session) (p : Path) :
    s.perform (Host.stat p) = (s.files.stat s.workingDir p, s) := rfl

@[simp] theorem perform_readText (s : Session) (p : Path) :
    s.perform (Host.readText p) = (s.files.readText s.workingDir p, s) := rfl

@[simp] theorem perform_report (s : Session) (event : Event) :
    s.perform (Host.report event) = ((), { s with events := s.events ++ [event] }) := rfl

theorem perform_makeDir (s : Session) (p : Path) : s.perform (Host.makeDir p) =
    match s.files.makeDir s.workingDir p with
    | .ok files => (.ok (), { s with files })
    | .error e => (.error e, s) := rfl

theorem perform_writeText (s : Session) (p : Path) (text : String) :
    s.perform (Host.writeText p text) =
      match s.files.writeText s.workingDir p text with
      | .ok files => (.ok (), { s with files })
      | .error e => (.error e, s) := rfl

@[simp] theorem perform_makeTemporary (s : Session) (p : Path) :
    s.perform (Host.makeTemporary p) = (s.probe p, s) := rfl

theorem perform_exists? (s : Session) (p : Path) :
    s.perform (Host.exists? p) = ((s.files.stat s.workingDir p).isOk, s) := by
  unfold Host.exists?
  rw [perform_bind, perform_stat]
  cases s.files.stat s.workingDir p <;> rfl

theorem perform_isDirectory (s : Session) (p : Path) : s.perform (Host.isDirectory p) =
    (decide (s.files.stat s.workingDir p = .ok .directory), s) := by
  unfold Host.isDirectory
  rw [perform_bind, perform_stat]
  rcases s.files.stat s.workingDir p with e | (_ | _) <;> rfl

end Performing

section Alike

theorem Alike.refl (s : Session) : s.Alike s :=
  ⟨rfl, rfl, rfl, rfl⟩

theorem Alike.trans (first : s.Alike t) (second : t.Alike u) : s.Alike u :=
  ⟨second.files.trans first.files, second.workingDir.trans first.workingDir,
    second.temporary.trans first.temporary, second.clock.trans first.clock⟩

theorem Alike.probe (alike : s.Alike t) (dir : Path) : t.probe dir = s.probe dir := by
  rw [Session.probe, Session.probe, alike.temporary, alike.files, alike.workingDir]

/-- Whether what an action does never depends on what was reported and printed before it. -/
def Steady (action : Action α) : Prop :=
  ∀ s t : Session, s.Alike t → (t.perform action).1 = (s.perform action).1 ∧
    (s.perform action).2.Alike (t.perform action).2

structure Reading (action : Action α) : Prop where
  steady : Steady action
  alike : ∀ s : Session, s.Alike (s.perform action).2

theorem steady_pure (a : α) : Steady (pure a) :=
  fun _ _ alike => ⟨rfl, alike⟩

theorem Steady.bind {next : α → Action β} (first : Steady action)
    (second : ∀ a, Steady (next a)) : Steady (action >>= next) := by
  intro s t alike
  obtain ⟨same, after⟩ := first s t alike
  rw [perform_bind, perform_bind, same]
  exact second _ _ _ after

theorem steady_stat (p : Path) : Steady (Host.stat p) := by
  intro s t alike
  rw [perform_stat, perform_stat, alike.files, alike.workingDir]
  exact ⟨rfl, alike⟩

theorem steady_readText (p : Path) : Steady (Host.readText p) := by
  intro s t alike
  rw [perform_readText, perform_readText, alike.files, alike.workingDir]
  exact ⟨rfl, alike⟩

theorem steady_report (event : Event) : Steady (Host.report event) :=
  fun _ _ alike => ⟨rfl, alike.files, alike.workingDir, alike.temporary, alike.clock⟩

theorem steady_makeDir (p : Path) : Steady (Host.makeDir p) := by
  intro s t alike
  rw [perform_makeDir, perform_makeDir, alike.files, alike.workingDir]
  cases s.files.makeDir s.workingDir p with
  | error e => exact ⟨rfl, alike⟩
  | ok files => exact ⟨rfl, rfl, rfl, alike.temporary, alike.clock⟩

theorem steady_writeText (p : Path) (text : String) : Steady (Host.writeText p text) := by
  intro s t alike
  rw [perform_writeText, perform_writeText, alike.files, alike.workingDir]
  cases s.files.writeText s.workingDir p text with
  | error e => exact ⟨rfl, alike⟩
  | ok files => exact ⟨rfl, rfl, rfl, alike.temporary, alike.clock⟩

theorem steady_makeTemporary (p : Path) : Steady (Host.makeTemporary p) :=
  fun _ _ alike => ⟨alike.probe p, alike⟩

theorem reading_pure (a : α) : Reading (pure a) :=
  ⟨steady_pure a, fun s => .refl s⟩

theorem Reading.bind {next : α → Action β} (first : Reading action)
    (second : ∀ a, Reading (next a)) : Reading (action >>= next) :=
  ⟨first.steady.bind fun a => (second a).steady,
    fun s => (first.alike s).trans ((second _).alike _)⟩

theorem Reading.map (f : α → β) (reading : Reading action) : Reading (f <$> action) :=
  reading.bind fun a => reading_pure (f a)

theorem reading_stat (p : Path) : Reading (Host.stat p) :=
  ⟨steady_stat p, fun s => .refl s⟩

theorem reading_readText (p : Path) : Reading (Host.readText p) :=
  ⟨steady_readText p, fun s => .refl s⟩

theorem reading_report (event : Event) : Reading (Host.report event) :=
  ⟨steady_report event, fun _ => ⟨rfl, rfl, rfl, rfl⟩⟩

theorem reading_workingDirectory : Reading Host.workingDirectory := by
  refine ⟨fun s t alike => ⟨?_, alike⟩, fun s => .refl s⟩
  exact congrArg (fun place => Except.ok (pathOf place)) alike.workingDir

theorem reading_reportAll (events : List Event) : Reading (Host.reportAll events) := by
  induction events with
  | nil => exact reading_pure ()
  | cons event rest ih => exact (reading_report event).bind fun _ => ih

theorem reading_exists? (p : Path) : Reading (Host.exists? p) := by
  refine (reading_stat p).bind fun found => ?_
  split <;> exact reading_pure _

theorem steady_isDirectory (p : Path) : Steady (Host.isDirectory p) := by
  refine (steady_stat p).bind fun found => ?_
  split <;> exact steady_pure _

theorem steady_tolerate (p : Path) (made : Except IoError Unit) :
    Steady (Host.tolerate p made) := by
  unfold Host.tolerate
  split
  · refine (steady_isDirectory p).bind fun there => ?_
    split <;> exact steady_pure _
  · exact steady_pure _

theorem steady_makeNested (paths : List Path) : Steady (Host.makeNested paths) := by
  induction paths with
  | nil => exact steady_pure _
  | cons p outer ih =>
    refine (steady_makeDir p).bind fun made => ?_
    split
    · refine ih.bind fun around => ?_
      split
      · exact steady_pure _
      · exact (steady_makeDir p).bind fun made => steady_tolerate p made
    · exact steady_tolerate p _

theorem steady_makeDirs (p : Path) : Steady (Host.makeDirs p) :=
  steady_makeNested p.nested

end Alike

section Stopping

variable {ε : Type}

def run (s : Session) (action : ExceptT ε Action α) : Except ε α × Session :=
  s.perform action.run

/-- Whether an action always has one outcome, and changes at most what is reported and printed. -/
def Ends (action : ExceptT ε Action α) (outcome : Except ε α) : Prop :=
  ∀ s : Session, ∃ t, s.run action = (outcome, t) ∧ s.Alike t

variable {action : ExceptT ε Action α} {next : α → ExceptT ε Action β} {a : α} {e : ε}
  {outcome : Except ε β}

theorem run_bind (s : Session) (action : ExceptT ε Action α) (next : α → ExceptT ε Action β) :
    s.run (action >>= next) =
      match s.run action with
      | (.ok a, t) => t.run (next a)
      | (.error e, t) => (.error e, t) := by
  unfold run
  rw [ExceptT.run_bind, perform_bind]
  rcases s.perform action.run with ⟨_ | _, _⟩ <;> rfl

theorem run_bind_ok (ran : s.run action = (.ok a, t)) :
    s.run (action >>= next) = t.run (next a) := by
  rw [run_bind, ran]

theorem ends_pure (a : α) : Ends (pure a : ExceptT ε Action α) (.ok a) :=
  fun s => ⟨s, rfl, .refl s⟩

theorem ends_throw (e : ε) : Ends (throw e : ExceptT ε Action α) (.error e) :=
  fun s => ⟨s, rfl, .refl s⟩

theorem Ends.bind (first : Ends action (.ok a)) (second : Ends (next a) outcome) :
    Ends (action >>= next) outcome := by
  intro s
  obtain ⟨t, ran, alike⟩ := first s
  obtain ⟨u, ended, alike'⟩ := second t
  exact ⟨u, (run_bind_ok ran).trans ended, alike.trans alike'⟩

theorem Ends.bind_error (first : Ends action (.error e)) : Ends (action >>= next) (.error e) := by
  intro s
  obtain ⟨t, ran, alike⟩ := first s
  refine ⟨t, ?_, alike⟩
  rw [run_bind, ran]

theorem ends_report (event : Event) : Ends (ε := ε) (Host.report event) (.ok ()) :=
  fun s => ⟨_, rfl, (reading_report event).alike s⟩

theorem ends_print (text : String) : Ends (ε := ε) (Host.print text) (.ok ()) :=
  fun _ => ⟨_, rfl, rfl, rfl, rfl, rfl⟩

theorem ends_reportAll (events : List Event) : Ends (ε := ε) (Host.reportAll events) (.ok ()) := by
  induction events with
  | nil => exact ends_pure ()
  | cons event rest ih => exact (ends_report event).bind ih

theorem Reading.run_bind {next : α → ExceptT ε Action β} (first : Reading action.run)
    (second : ∀ a, Reading (next a).run) : Reading (action >>= next).run := by
  rw [ExceptT.run_bind]
  refine first.bind fun outcome => ?_
  split
  · exact second _
  · exact reading_pure _

end Stopping

section Directories

structure Furnished (s t : Session) : Prop where
  rest : t = { s with files := t.files }
  dirs : s.files.AddsDirs t.files

theorem Furnished.refl (s : Session) : s.Furnished s :=
  ⟨rfl, .refl _⟩

theorem Furnished.workingDir (furnished : s.Furnished t) : t.workingDir = s.workingDir := by
  rw [furnished.rest]

theorem Furnished.clock (furnished : s.Furnished t) : t.clock = s.clock := by
  rw [furnished.rest]

theorem Furnished.trans (first : s.Furnished t) (second : t.Furnished u) : s.Furnished u := by
  refine ⟨?_, first.dirs.trans second.dirs⟩
  rw [second.rest, first.rest]

theorem furnished_makeDir (s : Session) (p : Path) :
    s.Furnished (s.perform (Host.makeDir p)).2 := by
  rw [perform_makeDir]
  cases made : s.files.makeDir s.workingDir p with
  | error e => exact .refl s
  | ok files =>
    obtain ⟨⟨place, -, inner, free, rfl⟩, -⟩ := FileTree.makeDir_ok made
    exact ⟨rfl, FileTree.addsDirs_put inner free⟩

theorem perform_tolerate (s : Session) (p : Path) (made : Except IoError Unit) :
    s.perform (Host.tolerate p made) =
      (if made = .error .alreadyExists ∧ s.files.stat s.workingDir p = .ok .directory
        then .ok () else made, s) := by
  unfold Host.tolerate
  split
  · rw [perform_bind, perform_isDirectory]
    by_cases there : s.files.stat s.workingDir p = .ok .directory
    · simp [there]
    · simp [there]
  · next other => rw [perform_pure, if_neg fun both => other both.1]

theorem furnished_ensureDir (s : Session) (p : Path) :
    s.Furnished (s.perform (Host.ensureDir p)).2 := by
  unfold Host.ensureDir
  rw [perform_bind, perform_tolerate]
  exact furnished_makeDir s p

theorem stat_of_ensureDir (made : (s.perform (Host.ensureDir p)).1 = .ok ()) :
    (s.perform (Host.ensureDir p)).2.files.stat (s.perform (Host.ensureDir p)).2.workingDir p =
      .ok .directory := by
  unfold Host.ensureDir at made ⊢
  rw [perform_bind, perform_tolerate, perform_makeDir] at made ⊢
  cases tree : s.files.makeDir s.workingDir p with
  | error e =>
    simp only [tree] at made ⊢
    split at made
    · next found => exact found.2
    · cases made
  | ok files => exact (FileTree.makeDir_ok tree).2

theorem ensureDir_of_stat (there : s.files.stat s.workingDir p = .ok .directory) :
    s.perform (Host.ensureDir p) = (.ok (), s) := by
  unfold Host.ensureDir
  rw [perform_bind, perform_tolerate, perform_makeDir, FileTree.makeDir_of_directory there]
  simp [there]

theorem ensureDir_changes (s : Session) (p : Path) :
    (s.perform (Host.ensureDir p)).2 = s ∨
      ∃ place, (s.perform (Host.ensureDir p)).2.files.reach s.workingDir p = .ok place ∧
        ∀ other, other ≠ place →
          (s.perform (Host.ensureDir p)).2.files.lookup? other = s.files.lookup? other := by
  unfold Host.ensureDir
  rw [perform_bind, perform_tolerate, perform_makeDir]
  cases made : s.files.makeDir s.workingDir p with
  | error e => exact .inl rfl
  | ok files =>
    obtain ⟨⟨place, reached, inner, -, rfl⟩, -⟩ := FileTree.makeDir_ok made
    refine .inr ⟨place, reached, fun other apart => ?_⟩
    dsimp only
    rw [FileTree.lookup?_put inner, if_neg apart]

/-- The first of several nested directories is made at once, or else after the others. -/
theorem makeNested_cases (s : Session) (p : Path) (outer : List Path) :
    (s.files.makeDir s.workingDir p ≠ .error .notFound ∧
        s.perform (Host.makeNested (p :: outer)) = s.perform (Host.ensureDir p)) ∨
      s.files.makeDir s.workingDir p = .error .notFound ∧
        ((∃ e t, s.perform (Host.makeNested outer) = (.error e, t) ∧
            s.perform (Host.makeNested (p :: outer)) = (.error e, t)) ∨
          ∃ t, s.perform (Host.makeNested outer) = (.ok (), t) ∧
            s.perform (Host.makeNested (p :: outer)) = t.perform (Host.ensureDir p)) := by
  by_cases missing : s.files.makeDir s.workingDir p = .error .notFound
  · refine .inr ⟨missing, ?_⟩
    rw [Host.makeNested, perform_bind, perform_makeDir, missing]
    dsimp only
    rw [perform_bind]
    rcases around : s.perform (Host.makeNested outer) with ⟨e | ⟨⟩, t⟩
    · exact .inl ⟨e, t, rfl, rfl⟩
    · exact .inr ⟨t, rfl, rfl⟩
  · refine .inl ⟨missing, ?_⟩
    rw [Host.makeNested, Host.ensureDir, perform_bind, perform_bind, perform_makeDir]
    cases made : s.files.makeDir s.workingDir p with
    | ok files => rfl
    | error e =>
      dsimp only
      split
      · next same =>
        cases same
        exact absurd made missing
      · rfl

theorem furnished_makeNested (s : Session) (paths : List Path) :
    s.Furnished (s.perform (Host.makeNested paths)).2 := by
  induction paths generalizing s with
  | nil => exact .refl s
  | cons p outer ih =>
    have around := ih s
    rcases makeNested_cases s p outer with
      ⟨-, at_once⟩ | ⟨-, ⟨e, t, failed, same⟩ | ⟨t, made, after⟩⟩
    · rw [at_once]
      exact furnished_ensureDir s p
    · rw [failed] at around
      rw [same]
      exact around
    · rw [made] at around
      rw [after]
      exact around.trans (furnished_ensureDir t p)

theorem stat_of_makeNested (made : (s.perform (Host.makeNested (p :: outer))).1 = .ok ()) :
    (s.perform (Host.makeNested (p :: outer))).2.files.stat
      (s.perform (Host.makeNested (p :: outer))).2.workingDir p = .ok .directory := by
  rcases makeNested_cases s p outer with ⟨-, at_once⟩ | ⟨-, ⟨e, t, -, same⟩ | ⟨t, -, after⟩⟩
  · rw [at_once] at made ⊢
    exact stat_of_ensureDir made
  · rw [same] at made
    cases made
  · rw [after] at made ⊢
    exact stat_of_ensureDir made

/-- Whether a directory is there, as far as it has to be: the root and the empty path lie in
nothing. -/
def Ready (s : Session) (p : Path) : Prop :=
  p.parent? = none ∨ s.files.stat s.workingDir p = .ok .directory

theorem furnished_makeDirs (s : Session) (p : Path) :
    s.Furnished (s.perform (Host.makeDirs p)).2 :=
  furnished_makeNested s p.nested

theorem ready_of_makeDirs (made : (s.perform (Host.makeDirs p)).1 = .ok ()) :
    (s.perform (Host.makeDirs p)).2.Ready p := by
  cases above : p.parent? with
  | none => exact .inl above
  | some parent =>
    refine .inr ?_
    unfold Host.makeDirs at made ⊢
    rw [Path.nested_of_parent above] at made ⊢
    exact stat_of_makeNested made

theorem Ready.makeDirs (ready : s.Ready p) : s.perform (Host.makeDirs p) = (.ok (), s) := by
  unfold Host.makeDirs
  cases above : p.parent? with
  | none =>
    rw [Path.nested_of_topmost above]
    rfl
  | some parent =>
    have there : s.files.stat s.workingDir p = .ok .directory :=
      ready.resolve_left (by rw [above]; exact nofun)
    rw [Path.nested_of_parent above]
    rcases makeNested_cases s p parent.nested with ⟨-, at_once⟩ | ⟨missing, -⟩
    · rw [at_once, ensureDir_of_stat there]
    · rw [FileTree.makeDir_of_directory there] at missing
      cases missing

end Directories

end Session

end FluentWrap
