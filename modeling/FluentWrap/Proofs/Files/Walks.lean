import FluentWrap.Files.Tree
import Mathlib.Data.List.TakeWhile

/-!
Walking through a file tree. Putting an entry changes what lies at its place and nothing else, and a
walk depends only on the directories that it passes; so it leads to the same place as long as these
stay.
-/

set_option autoImplicit false

namespace FluentWrap.FileTree

variable {tree after : FileTree} {here place other : Place} {entry : FileEntry} {name : String}
  {names rest : List String}

section Entries

@[simp] theorem lookup?_root (tree : FileTree) : tree.lookup? [] = some .directory :=
  if_pos rfl

theorem find?_replaced (entries : List (Place × FileEntry)) :
    (entries.filter (fun e => e.1 ≠ place) ++ [(place, entry)]).find? (fun e => e.1 = other) =
      if other = place then some (place, entry) else entries.find? fun e => e.1 = other := by
  induction entries with
  | nil =>
    by_cases same : other = place
    · simp [same]
    · simp [same, Ne.symm same]
  | cons e rest ih =>
    by_cases replaced : e.1 = place
    · rw [List.filter_cons_of_neg (by simp [replaced]), ih]
      by_cases same : other = place
      · rw [if_pos same, if_pos same]
      · rw [if_neg same, if_neg same, List.find?_cons_of_neg]
        simp [replaced, Ne.symm same]
    · rw [List.filter_cons_of_pos (by simp [replaced]), List.cons_append]
      by_cases found : e.1 = other
      · rw [List.find?_cons_of_pos (by simp [found]), List.find?_cons_of_pos (by simp [found]),
          if_neg fun same => replaced (found.trans same)]
      · rw [List.find?_cons_of_neg (by simp [found]), List.find?_cons_of_neg (by simp [found]), ih]

theorem lookup?_put (inner : place ≠ []) :
    (tree.put place entry).lookup? other =
      if other = place then some entry else tree.lookup? other := by
  by_cases root : other = []
  · subst root
    rw [lookup?_root, lookup?_root, if_neg inner.symm]
  · unfold put lookup?
    rw [if_neg root, if_neg root, find?_replaced]
    split <;> rfl

def KeepsDirs (tree after : FileTree) : Prop :=
  ∀ place, tree.lookup? place = some .directory → after.lookup? place = some .directory

theorem KeepsDirs.refl (tree : FileTree) : tree.KeepsDirs tree :=
  fun _ found => found

theorem KeepsDirs.trans {last : FileTree} (first : tree.KeepsDirs after)
    (second : after.KeepsDirs last) : tree.KeepsDirs last :=
  fun place found => second place (first place found)

theorem keepsDirs_put (inner : place ≠ []) (free : tree.lookup? place ≠ some .directory) :
    tree.KeepsDirs (tree.put place entry) := by
  intro other found
  rw [lookup?_put inner, if_neg, found]
  rintro rfl
  exact free found

/-- Whether the same lies at a place in another tree, or a directory where nothing lay. -/
def KeptAt (tree after : FileTree) (place : Place) : Prop :=
  after.lookup? place = tree.lookup? place ∨
    tree.lookup? place = none ∧ after.lookup? place = some .directory

theorem KeptAt.trans {last : FileTree} (first : tree.KeptAt after place)
    (second : after.KeptAt last place) : tree.KeptAt last place := by
  rcases first with same | ⟨free, made⟩
  · unfold KeptAt
    rw [← same]
    exact second
  · rcases second with same | ⟨free', -⟩
    · exact .inr ⟨free, same.trans made⟩
    · rw [made] at free'
      cases free'

theorem KeptAt.file {contents : Contents} (kept : tree.KeptAt after place) :
    tree.lookup? place = some (.file contents) ↔ after.lookup? place = some (.file contents) := by
  rcases kept with same | ⟨free, made⟩
  · rw [same]
  · rw [free, made]
    exact iff_of_false nofun nofun

def AddsDirs (tree after : FileTree) : Prop :=
  ∀ place, tree.KeptAt after place

theorem AddsDirs.refl (tree : FileTree) : tree.AddsDirs tree :=
  fun _ => .inl rfl

theorem AddsDirs.trans {last : FileTree} (first : tree.AddsDirs after)
    (second : after.AddsDirs last) : tree.AddsDirs last :=
  fun place => (first place).trans (second place)

theorem addsDirs_put (inner : place ≠ []) (free : tree.lookup? place = none) :
    tree.AddsDirs (tree.put place .directory) := by
  intro other
  unfold KeptAt
  rw [lookup?_put inner]
  split
  · next same => exact .inr ⟨same ▸ free, rfl⟩
  · exact .inl rfl

theorem AddsDirs.keeps (adds : tree.AddsDirs after) : tree.KeepsDirs after := by
  intro place there
  rcases adds place with same | ⟨-, made⟩
  · exact same.trans there
  · exact made

end Entries

section Walks

theorem walk_cons_ok_iff : tree.walk here (name :: rest) = .ok place ↔
    tree.lookup? here = some .directory ∧
      (if name = "" ∨ name = "." then tree.walk here rest
        else if name = ".." then tree.walk here.dropLast rest
        else if maxName < name.utf8ByteSize then .error .nameTooLong
        else tree.walk (here ++ [name]) rest) = .ok place := by
  rw [walk]
  rcases tree.lookup? here with _ | (_ | _)
  · exact iff_of_false nofun nofun
  · exact iff_of_false nofun nofun
  · exact (and_iff_right rfl).symm

theorem walk_append (tree : FileTree) (here : Place) (front back : List String) :
    tree.walk here (front ++ back) =
      (tree.walk here front).bind fun place => tree.walk place back := by
  induction front generalizing here with
  | nil => rfl
  | cons name front ih =>
    rw [List.cons_append, walk, walk]
    rcases tree.lookup? here with _ | (_ | _)
    · rfl
    · rfl
    · -- Each way of taking a step goes on with the rest.
      dsimp only
      split
      · exact ih here
      · split
        · exact ih here.dropLast
        · split
          · rfl
          · exact ih (here ++ [name])

theorem walk_append_ok_iff {front back : List String} :
    tree.walk here (front ++ back) = .ok place ↔
      ∃ middle, tree.walk here front = .ok middle ∧ tree.walk middle back = .ok place := by
  rw [walk_append]
  cases tree.walk here front with
  | error e => exact iff_of_false nofun nofun
  | ok middle => simp [Except.bind]

theorem KeepsDirs.walk (keeps : tree.KeepsDirs after) (walked : tree.walk here names = .ok place) :
    after.walk here names = .ok place := by
  induction names generalizing here with
  | nil => exact walked
  | cons name rest ih =>
    obtain ⟨inside, onward⟩ := walk_cons_ok_iff.1 walked
    refine walk_cons_ok_iff.2 ⟨keeps here inside, ?_⟩
    -- What a single step does depends on the tree only through the directory it starts in.
    by_cases stays : name = "" ∨ name = "."
    · rw [if_pos stays] at onward ⊢
      exact ih onward
    · rw [if_neg stays] at onward ⊢
      by_cases up : name = ".."
      · rw [if_pos up] at onward ⊢
        exact ih onward
      · rw [if_neg up] at onward ⊢
        by_cases long : maxName < name.utf8ByteSize
        · rw [if_pos long] at onward
          cases onward
        · rw [if_neg long] at onward ⊢
          exact ih onward

/-- Names that stand for nothing lead nowhere else. -/
theorem walk_blanks (blank : ∀ name ∈ names, name = "")
    (walked : tree.walk here names = .ok place) : place = here := by
  induction names with
  | nil => exact (Except.ok.inj walked).symm
  | cons name rest ih =>
    have onward := (walk_cons_ok_iff.1 walked).2
    rw [if_pos (.inl (blank name List.mem_cons_self))] at onward
    exact ih (fun other member => blank other (List.mem_cons_of_mem _ member)) onward

theorem walk_idle_ok_iff (idle : name = "" ∨ name = ".") : tree.walk here [name] = .ok place ↔
    tree.lookup? here = some .directory ∧ place = here := by
  rw [walk_cons_ok_iff, if_pos idle, walk, Except.ok.injEq, eq_comm (a := here)]

theorem walk_blanks_of_directory (blank : ∀ name ∈ names, name = "")
    (inside : tree.lookup? here = some .directory) : tree.walk here names = .ok here := by
  induction names with
  | nil => rfl
  | cons name rest ih =>
    refine walk_cons_ok_iff.2 ⟨inside, ?_⟩
    rw [if_pos (.inl (blank name List.mem_cons_self))]
    exact ih fun other member => blank other (List.mem_cons_of_mem _ member)

end Walks

structure IsStep (name : String) : Prop where
  nonempty : name ≠ ""
  notHere : name ≠ "."
  notUp : name ≠ ".."
  single : '/' ∉ name.toList

section Steps

theorem IsStep.toList_ne_nil (step : IsStep name) : name.toList ≠ [] :=
  fun empty => step.nonempty (String.toList_eq_nil_iff.1 empty)

theorem walk_step_ok_iff (step : IsStep name) : tree.walk here (name :: rest) = .ok place ↔
    tree.lookup? here = some .directory ∧ name.utf8ByteSize ≤ maxName ∧
      tree.walk (here ++ [name]) rest = .ok place := by
  have stays : ¬ (name = "" ∨ name = ".") := by
    rintro (empty | dot)
    · exact step.nonempty empty
    · exact step.notHere dot
  rw [walk_cons_ok_iff, if_neg stays, if_neg step.notUp]
  refine and_congr_right fun _ => ?_
  split
  · next long => exact iff_of_false nofun fun short => absurd short.1 (Nat.not_le.2 long)
  · next short => exact (and_iff_right (Nat.not_lt.1 short)).symm

theorem walk_last_ok_iff (step : IsStep name) : tree.walk here [name] = .ok place ↔
    tree.lookup? here = some .directory ∧ name.utf8ByteSize ≤ maxName ∧
      place = here ++ [name] := by
  rw [walk_step_ok_iff step, walk, Except.ok.injEq, eq_comm (a := here ++ [name])]

theorem walk_step (step : IsStep name) (inside : tree.lookup? here = some .directory)
    (short : name.utf8ByteSize ≤ maxName) :
    tree.walk here (name :: rest) = tree.walk (here ++ [name]) rest := by
  rw [walk, inside]
  simp only [step.nonempty, step.notHere, step.notUp, or_self, if_false, Nat.not_lt.2 short]

end Steps

end FluentWrap.FileTree
