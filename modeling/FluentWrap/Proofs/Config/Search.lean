import FluentWrap.Config.Search
import FluentWrap.Proofs.Host.Sessions

/-!
Finding settings. The search that reads the settings file and the one that only tells where it lies
find the same: the file in the nearest of ten directories. What is no file is passed over, and a file
that cannot be read is not.
-/

set_option autoImplicit false

namespace FluentWrap

namespace Path

def above? : Nat → Path → Option Path
  | 0, p => some p
  | n + 1, p => p.parent?.bind (above? n)

theorem getElem?_ancestors (n k : Nat) (p : Path) :
    (ancestors n p)[k]? = if k < n then above? k p else none := by
  induction n generalizing k p with
  | zero => rfl
  | succ n ih =>
    rw [ancestors]
    cases k with
    | zero => rfl
    | succ k =>
      rw [List.getElem?_cons_succ, above?]
      cases p.parent? with
      | none => simp
      | some parent => simp [ih]

end Path

namespace Config

open Session

variable {s t : Session} {start dir p : Path} {contents : Contents} {paths : List Path}

section Reading

theorem reading_load (p : Path) : Reading (load p) := by
  refine (reading_readText p).bind fun contents => ?_
  split
  · exact reading_pure _
  · split
    · exact reading_pure _
    · exact (reading_report _).bind fun _ => reading_pure _

theorem reading_load? (p : Path) : Reading (load? p) := by
  refine (reading_stat p).bind fun found => ?_
  split
  · exact (reading_load p).bind fun _ => reading_pure _
  · exact reading_pure _
  · exact reading_pure _
  · exact (reading_report _).bind fun _ => reading_pure _

theorem reading_loadAmong (paths : List Path) : Reading (loadAmong paths) := by
  induction paths with
  | nil => exact reading_pure none
  | cons p rest ih =>
    refine (reading_load? p).bind fun loaded => ?_
    split
    · exact reading_pure _
    · exact ih

theorem reading_loadFrom (start : Path) : Reading (loadFrom start) := by
  refine (reading_loadAmong _).bind fun loaded => ?_
  split
  · exact reading_pure _
  · exact (reading_report _).bind fun _ => reading_pure _

theorem reading_loadHere : Reading loadHere := by
  refine reading_workingDirectory.bind fun dir => ?_
  split
  · exact reading_loadFrom _
  · exact (reading_report _).bind fun _ => reading_pure _

end Reading

section Loading

def isFileIn (s : Session) (p : Path) : Bool :=
  s.files.stat s.workingDir p = .ok .file

def readContents (p : Path) : Contents → Except Error Config
  | .text text => read text
  | .bytes _ =>
    .error (.configuration ("Failed to read " ++ p.text ++ ": " ++ IoError.invalidText.message))

structure HasSettings (s : Session) (dir : Path) (contents : Contents) : Prop where
  admissible : (dir.push fileName).Admissible
  there : ∃ here, s.files.reach s.workingDir dir = .ok here ∧
    s.files.lookup? here = some .directory ∧
    s.files.lookup? (here ++ [fileName]) = some (.file contents)

/-- Whether these are the settings in the nearest of ten directories, the first of which is given and
each of which lies in the next, that has any. -/
structure Nearest (s : Session) (start dir : Path) (contents : Contents) : Prop where
  has : HasSettings s dir contents
  near : ∃ n < 10, start.above? n = some dir ∧
    ∀ k < n, ∀ nearer, start.above? k = some nearer → ∀ other, ¬ HasSettings s nearer other

theorem isStep_fileName : FileTree.IsStep fileName :=
  ⟨by decide, by decide, by decide, by decide⟩

theorem HasSettings.reach (has : HasSettings s dir contents) : ∃ place,
    s.files.reach s.workingDir (dir.push fileName) = .ok place ∧
      s.files.lookup? place = some (.file contents) := by
  obtain ⟨here, reached, inside, found⟩ := has.there
  have short : fileName.utf8ByteSize ≤ FileTree.maxName := by decide
  exact ⟨_, (FileTree.reach_push_ok_iff isStep_fileName).2 ⟨here, reached, inside, short, rfl⟩,
    found⟩

theorem isFileIn_iff : isFileIn s (dir.push fileName) = true ↔
    ∃ contents, HasSettings s dir contents := by
  unfold isFileIn
  rw [decide_eq_true_iff, FileTree.stat_file_iff]
  constructor
  · rintro ⟨admissible, place, contents, reached, found⟩
    obtain ⟨here, led, inside, -, rfl⟩ := (FileTree.reach_push_ok_iff isStep_fileName).1 reached
    exact ⟨contents, admissible, here, led, inside, found⟩
  · rintro ⟨contents, has⟩
    obtain ⟨place, reached, found⟩ := has.reach
    exact ⟨has.admissible, place, contents, reached, found⟩

theorem result_load (s : Session) (p : Path) : (s.perform (load p)).1 =
    match s.files.readText s.workingDir p with
    | .error e => .error (.configuration ("Failed to read " ++ p.text ++ ": " ++ e.message))
    | .ok text => read text := by
  unfold load
  rw [perform_bind, perform_readText]
  cases s.files.readText s.workingDir p with
  | error e => rfl
  | ok text =>
    dsimp only
    cases read text <;> rfl

theorem HasSettings.load (has : HasSettings s dir contents) :
    (s.perform (load (dir.push fileName))).1 = readContents (dir.push fileName) contents := by
  obtain ⟨place, reached, found⟩ := has.reach
  rw [result_load, FileTree.readText_of_reached has.admissible reached found]
  cases contents <;> rfl

theorem result_load? (s : Session) (p : Path) : (s.perform (load? p)).1 =
    if isFileIn s p then some (s.perform (Config.load p)).1 else none := by
  unfold load? isFileIn
  rw [perform_bind, perform_stat]
  rcases s.files.stat s.workingDir p with e | (_ | _)
  · cases e <;> rfl
  · rfl
  · rfl

end Loading

section Searching

theorem perform_findAmong (s : Session) (paths : List Path) :
    s.perform (findAmong paths) = (paths.find? (isFileIn s), s) := by
  induction paths with
  | nil => rfl
  | cons p rest ih =>
    rw [findAmong, perform_bind, Host.isFile, perform_bind, perform_stat, List.find?_cons, isFileIn]
    rcases s.files.stat s.workingDir p with e | (_ | _)
    · exact ih
    · rfl
    · exact ih

/-- Reading goes on past a place without a file, and what it has told until then does not matter. -/
theorem result_loadAmong (s : Session) (paths : List Path) : (s.perform (loadAmong paths)).1 =
    (paths.find? (isFileIn s)).map fun p => (s.perform (load p)).1 := by
  induction paths with
  | nil => rfl
  | cons p rest ih =>
    rw [loadAmong, perform_bind, result_load?, List.find?_cons]
    cases isFileIn s p with
    | true => rfl
    | false =>
      have alike := (reading_load? p).alike s
      exact ((reading_loadAmong rest).steady _ _ alike).1.trans ih

theorem result_loadFrom (s : Session) (start : Path) : (s.perform (loadFrom start)).1 =
    match (s.perform (find start)).1 with
    | some p => (s.perform (load p)).1
    | none => .ok .default := by
  unfold loadFrom find
  rw [perform_bind, perform_findAmong, result_loadAmong]
  cases (candidates start).find? (isFileIn s) <;> rfl

theorem getElem?_candidates (start : Path) (k : Nat) : (candidates start)[k]? =
    if k < 10 then (start.above? k).map (·.push fileName) else none := by
  rw [candidates, List.getElem?_map, Path.getElem?_ancestors, searchDepth]
  split <;> rfl

theorem find?_candidates_iff : (candidates start).find? (isFileIn s) = some p ↔
    ∃ dir contents, Nearest s start dir contents ∧ p = dir.push fileName := by
  have candidate : ∀ k q, (candidates start)[k]? = some q ↔
      k < 10 ∧ ∃ dir, start.above? k = some dir ∧ dir.push fileName = q := by
    intro k q
    rw [getElem?_candidates]
    split
    · next near => rw [Option.map_eq_some_iff, and_iff_right near]
    · next far => exact iff_of_false nofun fun both => far both.1
  rw [List.find?_eq_some_iff_getElem]
  constructor
  · rintro ⟨file, n, inside, here, nearer⟩
    obtain ⟨near, dir, above, rfl⟩ :=
      (candidate n p).1 (here ▸ List.getElem?_eq_getElem inside)
    obtain ⟨contents, has⟩ := isFileIn_iff.1 file
    refine ⟨dir, contents, ⟨has, n, near, above, fun k before other found contents' has' => ?_⟩, rfl⟩
    obtain ⟨inside', same⟩ := List.getElem?_eq_some_iff.1
      ((candidate k _).2 ⟨before.trans near, other, found, rfl⟩)
    -- Settings nearer by would have been found first.
    have none := nearer k before
    rw [same, isFileIn_iff.2 ⟨contents', has'⟩] at none
    cases none
  · rintro ⟨dir, contents, ⟨has, n, near, above, nearer⟩, rfl⟩
    obtain ⟨inside, same⟩ := List.getElem?_eq_some_iff.1
      ((candidate n _).2 ⟨near, dir, above, rfl⟩)
    refine ⟨isFileIn_iff.2 ⟨contents, has⟩, n, inside, same, fun k before => ?_⟩
    obtain ⟨-, other, found, whole⟩ :=
      (candidate k _).1 (List.getElem?_eq_getElem (before.trans inside))
    rw [← whole, Bool.not_eq_true', Bool.eq_false_iff]
    intro file
    obtain ⟨contents', has'⟩ := isFileIn_iff.1 file
    exact nearer k before other found contents' has'

/-- Reading the settings from a directory on gives what reading the file gives that the search from
there finds, or the usual settings if it finds none. What is found lies in the nearest of at most ten
directories, each in the next, that has a regular file of the name; and this file is read, whatever
comes of it. -/
theorem searches_agree (s : Session) (start : Path) :
    let found := (s.perform (find start)).1
    let loaded := (s.perform (loadFrom start)).1
    (loaded = match found with
      | some p => (s.perform (load p)).1
      | none => .ok .default) ∧
    (∀ p, found = some p ↔
      ∃ dir contents, Nearest s start dir contents ∧ p = dir.push fileName) ∧
    (∀ dir contents, Nearest s start dir contents →
      loaded = readContents (dir.push fileName) contents) := by
  intro found loaded
  have finds : found = (candidates start).find? (isFileIn s) :=
    congrArg Prod.fst (perform_findAmong s (candidates start))
  have loads := result_loadFrom s start
  refine ⟨loads, fun p => ?_, fun dir contents nearest => ?_⟩
  · rw [finds]
    exact find?_candidates_iff
  · have here : (s.perform (find start)).1 = some (dir.push fileName) :=
      finds.trans (find?_candidates_iff.2 ⟨dir, contents, nearest, rfl⟩)
    rw [here] at loads
    exact loads.trans nearest.has.load

/-- A directory of the settings file's name lies in `/p/q`, a file without sense in `/p`, and a good
one at the root. -/
def layered : Session where
  files := ⟨[([fileName], .file (.text "")), (["p"], .directory),
    (["p", fileName], .file (.text "=")), (["p", "q"], .directory),
    (["p", "q", fileName], .directory)]⟩

theorem searches_agree_layered :
    Nearest layered ⟨"/p/q"⟩ ⟨"/p"⟩ (.text "=") ∧
      (layered.perform (find ⟨"/p/q"⟩)).1 = some ⟨"/p/.fluentgen.toml"⟩ ∧
      (layered.perform (loadFrom ⟨"/p/q"⟩)).1 = .error (.configuration
        "Failed to parse .fluentgen.toml: the text does not describe settings") := by
  have has : HasSettings layered ⟨"/p"⟩ (.text "=") :=
    ⟨⟨by decide, by decide, by decide⟩, ["p"], by decide +kernel, by decide +kernel,
      by decide +kernel⟩
  have passed : isFileIn layered ((⟨"/p/q"⟩ : Path).push fileName) = false := by decide +kernel
  have nearest : Nearest layered ⟨"/p/q"⟩ ⟨"/p"⟩ (.text "=") := by
    refine ⟨has, 1, by decide, by decide +kernel, fun k before nearer here other has' => ?_⟩
    obtain rfl : k = 0 := Nat.lt_one_iff.1 before
    obtain rfl := Option.some.inj here
    rw [isFileIn_iff.2 ⟨other, has'⟩] at passed
    cases passed
  obtain ⟨-, finds, loads⟩ := searches_agree layered ⟨"/p/q"⟩
  exact ⟨nearest, (finds _).2 ⟨_, _, nearest, rfl⟩, (loads _ _ nearest).trans rfl⟩

end Searching

end Config

end FluentWrap
