import FluentWrap.Proofs.Files.Walks
import FluentWrap.Proofs.Text.Cutting

/-!
What access to a path does to a file tree. A path leads to the place that its names lead to; writing
a text and making a directory put one entry there, where no directory was, and a directory that is
there cannot be made again.
-/

set_option autoImplicit false

namespace FluentWrap

structure Path.Admissible (p : Path) : Prop where
  nonempty : p.text ≠ ""
  noNul : '\x00' ∉ p.text.toList
  short : p.text.utf8ByteSize < FileTree.maxPath

namespace FileTree

variable {tree after : FileTree} {place parent workingDir : Place} {p : Path} {name text : String}
  {trailing : Bool}

def origin (workingDir : Place) (p : Path) : Place :=
  if p.isAbsolute then [] else workingDir

def reach (tree : FileTree) (workingDir : Place) (p : Path) : Except IoError Place :=
  tree.walk (origin workingDir p) p.segments

section Reaching

theorem KeepsDirs.reach (keeps : tree.KeepsDirs after)
    (reached : tree.reach workingDir p = .ok place) : after.reach workingDir p = .ok place :=
  keeps.walk reached

theorem locate_ok_iff :
    tree.locate workingDir p = .ok place ↔ p.Admissible ∧ tree.reach workingDir p = .ok place := by
  unfold locate
  split
  · next nul => exact iff_of_false nofun fun both => both.1.noNul (by simpa using nul)
  · next noNul =>
    split
    · next empty => exact iff_of_false nofun fun both => both.1.nonempty empty
    · next nonempty =>
      split
      · next long => exact iff_of_false nofun fun both => absurd both.1.short (Nat.not_lt.2 long)
      · next short =>
        exact (and_iff_right ⟨nonempty, by simpa using noNul, Nat.lt_of_not_le short⟩).symm

theorem stat_ok_iff {kind : EntryKind} : tree.stat workingDir p = .ok kind ↔
    p.Admissible ∧ ∃ place entry, tree.reach workingDir p = .ok place ∧
      tree.lookup? place = some entry ∧ entry.kind = kind := by
  unfold stat
  cases located : tree.locate workingDir p with
  | error e =>
    refine iff_of_false nofun ?_
    rintro ⟨admissible, place, entry, reached, -⟩
    rw [locate_ok_iff.2 ⟨admissible, reached⟩] at located
    cases located
  | ok place =>
    obtain ⟨admissible, reached⟩ := locate_ok_iff.1 located
    rw [and_iff_right admissible, reached]
    simp only [bind, Except.bind, Except.ok.injEq]
    cases found : tree.lookup? place <;> simp [found]

theorem kind_eq_directory_iff {entry : FileEntry} :
    entry.kind = .directory ↔ entry = .directory := by
  cases entry <;> simp [FileEntry.kind]

theorem kind_eq_file_iff {entry : FileEntry} :
    entry.kind = .file ↔ ∃ contents, entry = .file contents := by
  cases entry <;> simp [FileEntry.kind]

theorem stat_directory_iff : tree.stat workingDir p = .ok .directory ↔
    p.Admissible ∧ ∃ place, tree.reach workingDir p = .ok place ∧
      tree.lookup? place = some .directory := by
  simp only [stat_ok_iff, kind_eq_directory_iff, exists_eq_right_right]

theorem stat_file_iff : tree.stat workingDir p = .ok .file ↔
    p.Admissible ∧ ∃ place contents, tree.reach workingDir p = .ok place ∧
      tree.lookup? place = some (.file contents) := by
  simp only [stat_ok_iff, kind_eq_file_iff]
  grind

theorem KeepsDirs.stat (keeps : tree.KeepsDirs after)
    (there : tree.stat workingDir p = .ok .directory) :
    after.stat workingDir p = .ok .directory := by
  obtain ⟨admissible, place, reached, directory⟩ := stat_directory_iff.1 there
  exact stat_directory_iff.2 ⟨admissible, place, keeps.reach reached, keeps place directory⟩

theorem readText_of_reached {contents : Contents} (admissible : p.Admissible)
    (reached : tree.reach workingDir p = .ok place)
    (there : tree.lookup? place = some (.file contents)) :
    tree.readText workingDir p =
      match contents with
      | .text s => .ok s
      | .bytes _ => .error .invalidText := by
  unfold readText
  rw [locate_ok_iff.2 ⟨admissible, reached⟩]
  cases contents <;> simp only [bind, Except.bind, there]

end Reaching

section LastName

/-- Whether a path ends in an ordinary name, perhaps with separators behind it. The names in front
of it are given last to first. -/
structure EndsIn (p : Path) (last : String) (front : List String) : Prop where
  cut : p.segments.reverse.dropWhile (· = "") = last :: front
  notHere : last ≠ "."
  notUp : last ≠ ".."

def stepInto (tree : FileTree) (last : String) (trailing : Bool) (parent : Place) :
    Except IoError (Place × Option String × Bool) :=
  match tree.lookup? parent with
  | none => .error .notFound
  | some (.file _) => .error .notDirectory
  | some .directory =>
    if maxName < last.utf8ByteSize then .error .nameTooLong else .ok (parent, some last, trailing)

/-- A path without an ordinary last name is followed to its end. -/
theorem locateLast_of_special (tree : FileTree) (workingDir : Place)
    (special : ∀ last front, ¬ EndsIn p last front) :
    ∃ trailing, tree.locateLast workingDir p =
      (tree.locate workingDir p).map fun place => (place, none, trailing) := by
  unfold locateLast
  simp only [List.reverse_reverse]
  split
  · exact ⟨_, rfl⟩
  · next last front cut =>
    split
    · exact ⟨_, rfl⟩
    · next ordinary =>
      exact absurd ⟨cut, (not_or.1 ordinary).1, (not_or.1 ordinary).2⟩ (special last front)

theorem locateLast_of_endsIn {last : String} {front : List String} (tree : FileTree)
    (workingDir : Place) (ends : EndsIn p last front) :
    (¬ p.Admissible ∧ ∃ e, tree.locateLast workingDir p = .error e ∧ e ≠ .notFound) ∨
      p.Admissible ∧ tree.locateLast workingDir p =
        (tree.walk (origin workingDir p) front.reverse).bind
          (tree.stepInto last (decide (front.length + 1 < p.segments.length))) := by
  have nonempty : p.text ≠ "" := by
    intro empty
    have cut := ends.cut
    simp [Path.segments, empty, Text.splitOn] at cut
  unfold locateLast
  simp only [ends.cut, List.reverse_reverse, ends.notHere, ends.notUp, or_self, if_false]
  by_cases nul : p.text.toList.contains '\x00'
  · rw [if_pos nul]
    exact .inl ⟨fun admissible => admissible.noNul (by simpa using nul), _, rfl, by decide⟩
  · rw [if_neg nul]
    by_cases long : maxPath ≤ p.text.utf8ByteSize
    · rw [if_pos long]
      exact .inl ⟨fun admissible => absurd admissible.short (Nat.not_lt.2 long), _, rfl, by decide⟩
    · rw [if_neg long]
      refine .inr ⟨⟨nonempty, by simpa using nul, Nat.lt_of_not_le long⟩, ?_⟩
      rw [List.length_reverse, List.length_cons]
      rfl

theorem EndsIn.segments_eq {last : String} {front : List String} (ends : EndsIn p last front) :
    IsStep last ∧ ∃ blanks : List String, (∀ blank ∈ blanks, blank = "") ∧
      p.segments = front.reverse ++ last :: blanks := by
  have whole := List.takeWhile_append_dropWhile (p := fun name : String => decide (name = ""))
    (l := p.segments.reverse)
  have head := List.head?_dropWhile_not (fun name : String => decide (name = "")) p.segments.reverse
  rw [ends.cut] at whole head
  have cut : p.segments = front.reverse ++ last ::
      (p.segments.reverse.takeWhile fun name => decide (name = "")).reverse := by
    have turned := congrArg List.reverse whole
    rw [List.reverse_append, List.reverse_cons, List.reverse_reverse, List.append_assoc] at turned
    exact turned.symm
  refine ⟨⟨by simpa using head, ends.notHere, ends.notUp, ?_⟩, _, fun blank member => ?_, cut⟩
  · have inside : last ∈ p.segments := by
      rw [cut]
      exact List.mem_append_right _ List.mem_cons_self
    obtain ⟨piece, among, rfl⟩ := List.mem_map.1 inside
    rw [String.toList_ofList]
    exact Text.sep_not_mem_piece among
  · have kept := List.mem_takeWhile_imp (List.mem_reverse.1 member)
    exact of_decide_eq_true kept

theorem stepInto_ok_iff {last : String} {here : Place} {given : Bool} :
    tree.stepInto last given here = .ok (parent, some name, trailing) ↔
      tree.lookup? here = some .directory ∧ last.utf8ByteSize ≤ maxName ∧ parent = here ∧
        name = last ∧ trailing = given := by
  unfold stepInto
  rcases tree.lookup? here with _ | (_ | _)
  · exact iff_of_false nofun nofun
  · exact iff_of_false nofun nofun
  · dsimp only
    split
    · next long => exact iff_of_false nofun fun short => absurd short.2.1 (Nat.not_le.2 long)
    · next short =>
      simp only [Except.ok.injEq, Prod.mk.injEq, Option.some.injEq, true_and, Nat.not_lt.1 short]
      exact ⟨fun ⟨a, b, c⟩ => ⟨a.symm, b.symm, c.symm⟩, fun ⟨a, b, c⟩ => ⟨a.symm, b.symm, c.symm⟩⟩

theorem locateLast_some_iff :
    tree.locateLast workingDir p = .ok (parent, some name, trailing) ↔
      ∃ front, EndsIn p name front ∧ p.Admissible ∧
        tree.walk (origin workingDir p) front.reverse = .ok parent ∧
        tree.lookup? parent = some .directory ∧ name.utf8ByteSize ≤ maxName ∧
        trailing = decide (front.length + 1 < p.segments.length) := by
  constructor
  · intro located
    by_cases special : ∀ last front, ¬ EndsIn p last front
    · -- Such a path gives no last name.
      obtain ⟨_, same⟩ := locateLast_of_special tree workingDir special
      rw [same] at located
      cases found : tree.locate workingDir p <;> simp [found, Except.map] at located
    · obtain ⟨last, front, ends⟩ : ∃ last front, EndsIn p last front := by simpa using special
      rcases locateLast_of_endsIn tree workingDir ends with ⟨-, e, same, -⟩ | ⟨admissible, same⟩
      · rw [same] at located
        cases located
      · rw [same] at located
        cases walked : tree.walk (origin workingDir p) front.reverse with
        | error e =>
          rw [walked] at located
          cases located
        | ok here =>
          rw [walked] at located
          obtain ⟨inside, short, rfl, rfl, rfl⟩ := stepInto_ok_iff.1 located
          exact ⟨front, ends, admissible, walked, inside, short, rfl⟩
  · rintro ⟨front, ends, admissible, walked, inside, short, rfl⟩
    rcases locateLast_of_endsIn tree workingDir ends with ⟨bad, -⟩ | ⟨-, same⟩
    · exact absurd admissible bad
    · rw [same, walked]
      exact stepInto_ok_iff.2 ⟨inside, short, rfl, rfl, rfl⟩

theorem KeepsDirs.locateLast (keeps : tree.KeepsDirs after)
    (located : tree.locateLast workingDir p = .ok (parent, some name, trailing)) :
    after.locateLast workingDir p = .ok (parent, some name, trailing) := by
  obtain ⟨front, ends, admissible, walked, inside, rest⟩ := locateLast_some_iff.1 located
  exact locateLast_some_iff.2
    ⟨front, ends, admissible, keeps.walk walked, keeps parent inside, rest⟩

/-- What lies at the end of a path lies under its last name, as long as the directories stay. -/
theorem reach_of_locateLast
    (located : tree.locateLast workingDir p = .ok (parent, some name, trailing)) :
    p.Admissible ∧ ∃ blanks : List String, (∀ blank ∈ blanks, blank = "") ∧
      (trailing = false → blanks = []) ∧ ∀ later : FileTree, tree.KeepsDirs later →
        later.reach workingDir p = later.walk (parent ++ [name]) blanks := by
  obtain ⟨front, ends, admissible, walked, inside, short, behind⟩ := locateLast_some_iff.1 located
  obtain ⟨step, blanks, blank, cut⟩ := ends.segments_eq
  refine ⟨admissible, blanks, blank, fun last => ?_, fun later keeps => ?_⟩
  · rw [last, cut] at behind
    simpa using behind.symm
  · rw [reach, cut, walk_append, keeps.walk walked]
    exact walk_step step (keeps parent inside) short

theorem reach_of_locateLast_false
    (located : tree.locateLast workingDir p = .ok (parent, some name, false)) :
    tree.reach workingDir p = .ok (parent ++ [name]) := by
  obtain ⟨-, blanks, -, last, reached⟩ := reach_of_locateLast located
  rw [reached tree (.refl tree), last rfl]
  rfl

end LastName

section Changes

theorem writeText_ok_iff : tree.writeText workingDir p text = .ok after ↔
    ∃ parent name, tree.locateLast workingDir p = .ok (parent, some name, false) ∧
      tree.lookup? (parent ++ [name]) ≠ some .directory ∧
      after = tree.put (parent ++ [name]) (.file (.text text)) := by
  unfold writeText
  rcases tree.locateLast workingDir p with e | ⟨parent, _ | name, _ | _⟩
  · exact iff_of_false nofun (by rintro ⟨_, _, located, -⟩; cases located)
  · exact iff_of_false nofun (by rintro ⟨_, _, located, -⟩; cases located)
  · exact iff_of_false nofun (by rintro ⟨_, _, located, -⟩; cases located)
  · simp only [bind, Except.bind, Except.ok.injEq, Prod.mk.injEq, Option.some.injEq, and_true,
      exists_and_left, exists_eq_left', and_assoc]
    rcases tree.lookup? (parent ++ [name]) with _ | (_ | _) <;> simp [eq_comm]
  · exact iff_of_false nofun (by rintro ⟨_, _, located, -⟩; cases located)

theorem makeDir_ok_iff : tree.makeDir workingDir p = .ok after ↔
    ∃ parent name trailing, tree.locateLast workingDir p = .ok (parent, some name, trailing) ∧
      tree.lookup? (parent ++ [name]) = none ∧
      after = tree.put (parent ++ [name]) .directory := by
  unfold makeDir
  rcases tree.locateLast workingDir p with e | ⟨parent, _ | name, trailing⟩
  · exact iff_of_false nofun (by rintro ⟨_, _, _, located, -⟩; cases located)
  · exact iff_of_false nofun (by rintro ⟨_, _, _, located, -⟩; cases located)
  · simp only [bind, Except.bind, Except.ok.injEq, Prod.mk.injEq, Option.some.injEq,
      exists_and_left, exists_eq_left', and_assoc]
    rcases tree.lookup? (parent ++ [name]) with _ | (_ | _) <;> simp [eq_comm]

theorem makeDir_ok (made : tree.makeDir workingDir p = .ok after) :
    (∃ place, after.reach workingDir p = .ok place ∧ place ≠ [] ∧ tree.lookup? place = none ∧
      after = tree.put place .directory) ∧ after.stat workingDir p = .ok .directory := by
  obtain ⟨parent, name, trailing, located, free, rfl⟩ := makeDir_ok_iff.1 made
  have inner : parent ++ [name] ≠ [] := by simp
  have there : (tree.put (parent ++ [name]) .directory).lookup? (parent ++ [name]) =
      some .directory := by
    rw [lookup?_put inner, if_pos rfl]
  have keeps : tree.KeepsDirs (tree.put (parent ++ [name]) .directory) :=
    keepsDirs_put inner (by simp [free])
  obtain ⟨admissible, blanks, blank, -, reached⟩ := reach_of_locateLast located
  have arrived := (reached _ keeps).trans (walk_blanks_of_directory blank there)
  exact ⟨⟨_, arrived, inner, free, rfl⟩, stat_directory_iff.2 ⟨admissible, _, arrived, there⟩⟩

theorem makeDir_of_directory (there : tree.stat workingDir p = .ok .directory) :
    tree.makeDir workingDir p = .error .alreadyExists := by
  obtain ⟨admissible, place, reached, directory⟩ := stat_directory_iff.1 there
  unfold makeDir
  by_cases special : ∀ last front, ¬ EndsIn p last front
  · obtain ⟨trailing, located⟩ := locateLast_of_special tree workingDir special
    rw [located, locate_ok_iff.2 ⟨admissible, reached⟩]
    rfl
  · obtain ⟨last, front, ends⟩ : ∃ last front, EndsIn p last front := by simpa using special
    obtain ⟨step, blanks, blank, cut⟩ := ends.segments_eq
    rw [reach, cut] at reached
    obtain ⟨parent, walked, onward⟩ := walk_append_ok_iff.1 reached
    obtain ⟨inside, short, onward⟩ := (walk_step_ok_iff step).1 onward
    obtain rfl := walk_blanks blank onward
    rw [locateLast_some_iff.2 ⟨front, ends, admissible, walked, inside, short, rfl⟩]
    simp only [bind, Except.bind, directory]

end Changes

end FileTree

end FluentWrap
