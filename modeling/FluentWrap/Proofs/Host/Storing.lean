import FluentWrap.Proofs.Host.Sessions
import Mathlib.Data.List.Forall2

/-!
Storing texts as files, each in a directory that is made if it is missing. What has been stored is
there afterwards, everything else is as it was but for directories where nothing lay, and storing
the same once more changes nothing.
-/

set_option autoImplicit false

namespace FluentWrap

open FileTree (IsStep KeepsDirs KeptAt)

namespace Host

variable {m : Type → Type} [Monad m] [Host m]

def makeAbove (p : Path) : m (Except IoError Unit) :=
  match p.parent? with
  | none => pure (.ok ())
  | some parent => makeDirs parent

def store (p : Path) (text : String) : m (Except IoError Unit) := do
  match ← makeAbove p with
  | .error e => pure (.error e)
  | .ok () => writeText p text

def storeAll : List (Path × String) → m (Except IoError Unit)
  | [] => pure (.ok ())
  | (p, text) :: rest => do
    match ← store p text with
    | .error e => pure (.error e)
    | .ok () => storeAll rest

end Host

namespace Session

variable {s t u : Session} {p : Path} {text : String} {place : Place} {places : List Place}
  {items : List (Path × String)}

structure Lodges (s : Session) (p : Path) (place : Place) : Prop where
  ready : ∀ above, p.parent? = some above → s.Ready above
  located : ∃ parent name, s.files.locateLast s.workingDir p = .ok (parent, some name, false) ∧
    place = parent ++ [name]

/-- Whether texts have been stored at places, and nothing else has been done. -/
structure Stored (s t : Session) (items : List (Path × String)) (places : List Place) : Prop where
  rest : t = { s with files := t.files }
  keeps : s.files.KeepsDirs t.files
  /-- Where two texts have been stored at one place, only one of them is there. -/
  filed : List.Forall₂ (fun item place => t.Lodges item.1 place ∧
    (places.Nodup → t.files.lookup? place = some (.file (.text item.2)))) items places
  kept : ∀ place ∉ places, s.files.KeptAt t.files place

section Lodging

theorem Ready.keep (ready : s.Ready p) (same : t.workingDir = s.workingDir)
    (keeps : s.files.KeepsDirs t.files) : t.Ready p := by
  unfold Ready
  rw [same]
  exact ready.imp_right keeps.stat

theorem Lodges.keep (lodges : s.Lodges p place) (same : t.workingDir = s.workingDir)
    (keeps : s.files.KeepsDirs t.files) : t.Lodges p place := by
  refine ⟨fun above found => (lodges.ready above found).keep same keeps, ?_⟩
  obtain ⟨parent, name, located, rfl⟩ := lodges.located
  rw [same]
  exact ⟨parent, name, keeps.locateLast located, rfl⟩

theorem Lodges.reach (lodges : s.Lodges p place) : s.files.reach s.workingDir p = .ok place := by
  obtain ⟨parent, name, located, rfl⟩ := lodges.located
  exact FileTree.reach_of_locateLast_false located

theorem Lodges.admissible (lodges : s.Lodges p place) : p.Admissible := by
  obtain ⟨parent, name, located, -⟩ := lodges.located
  exact (FileTree.reach_of_locateLast located).1

theorem Lodges.inner (lodges : s.Lodges p place) : place ≠ [] := by
  obtain ⟨parent, name, -, rfl⟩ := lodges.located
  simp

end Lodging

section One

theorem furnished_makeAbove {made : Except IoError Unit}
    (above : s.perform (Host.makeAbove p) = (made, t)) : s.Furnished t := by
  unfold Host.makeAbove at above
  split at above
  · obtain ⟨-, rfl⟩ := Prod.mk.inj above
    exact .refl s
  · next parent _ =>
    have furnished := furnished_makeDirs s parent
    rwa [above] at furnished

theorem ready_of_makeAbove (made : s.perform (Host.makeAbove p) = (.ok (), t)) :
    ∀ above, p.parent? = some above → t.Ready above := by
  intro above found
  rw [Host.makeAbove, found] at made
  have ready := ready_of_makeDirs (congrArg Prod.fst made)
  rwa [made] at ready

theorem makeAbove_of_ready (ready : ∀ above, p.parent? = some above → s.Ready above) :
    s.perform (Host.makeAbove p) = (.ok (), s) := by
  unfold Host.makeAbove
  split
  · rfl
  · next parent found => exact (ready parent found).makeDirs

theorem perform_store (s : Session) (p : Path) (text : String) :
    s.perform (Host.store p text) =
      match s.perform (Host.makeAbove p) with
      | (.error e, u) => (.error e, u)
      | (.ok (), u) => u.perform (Host.writeText p text) := by
  rw [Host.store, perform_bind]
  rcases s.perform (Host.makeAbove p) with ⟨_ | _, _⟩ <;> rfl

theorem store_ok_iff : s.perform (Host.store p text) = (.ok (), t) ↔
    ∃ u, s.perform (Host.makeAbove p) = (.ok (), u) ∧
      u.perform (Host.writeText p text) = (.ok (), t) := by
  rw [perform_store]
  rcases s.perform (Host.makeAbove p) with ⟨e | ⟨⟩, u⟩
  · exact iff_of_false nofun (by rintro ⟨_, ⟨⟩, -⟩)
  · exact ⟨fun written => ⟨u, rfl, written⟩, by rintro ⟨_, ⟨⟩, written⟩; exact written⟩

theorem writeText_ok (written : s.perform (Host.writeText p text) = (.ok (), t)) :
    ∃ parent name, s.files.locateLast s.workingDir p = .ok (parent, some name, false) ∧
      s.files.lookup? (parent ++ [name]) ≠ some .directory ∧
      t = { s with files := s.files.put (parent ++ [name]) (.file (.text text)) } := by
  rw [perform_writeText] at written
  cases result : s.files.writeText s.workingDir p text with
  | error e =>
    rw [result] at written
    cases written
  | ok files =>
    rw [result] at written
    obtain ⟨-, rfl⟩ := Prod.mk.inj written
    obtain ⟨parent, name, located, free, rfl⟩ := FileTree.writeText_ok_iff.1 result
    exact ⟨parent, name, located, free, rfl⟩

theorem store_ok (stored : s.perform (Host.store p text) = (.ok (), t)) :
    ∃ u place, s.perform (Host.makeAbove p) = (.ok (), u) ∧ u.Lodges p place ∧
      u.files.lookup? place ≠ some .directory ∧
      t = { u with files := u.files.put place (.file (.text text)) } := by
  obtain ⟨u, above, written⟩ := store_ok_iff.1 stored
  obtain ⟨parent, name, located, free, rfl⟩ := writeText_ok written
  exact ⟨u, _, above, ⟨ready_of_makeAbove above, parent, name, located, rfl⟩, free, rfl⟩

theorem store_of_lodges (lodges : s.Lodges p place)
    (free : s.files.lookup? place ≠ some .directory) :
    s.perform (Host.store p text) =
      (.ok (), { s with files := s.files.put place (.file (.text text)) }) := by
  obtain ⟨parent, name, located, rfl⟩ := lodges.located
  rw [perform_store, makeAbove_of_ready lodges.ready]
  dsimp only
  rw [perform_writeText, FileTree.writeText_ok_iff.2 ⟨parent, name, located, free, rfl⟩]

end One

section Runs

theorem Stored.nil (s : Session) : s.Stored s [] [] where
  rest := rfl
  keeps := .refl _
  filed := .nil
  kept _ _ := .inl rfl

theorem Stored.cons (furnished : s.Furnished u) (lodges : u.Lodges p place)
    (free : u.files.lookup? place ≠ some .directory)
    (onward : Stored { u with files := u.files.put place (.file (.text text)) } t items places) :
    s.Stored t ((p, text) :: items) (place :: places) := by
  have inner := lodges.inner
  have written : u.files.KeepsDirs (u.files.put place (.file (.text text))) :=
    FileTree.keepsDirs_put inner free
  have later := lodges.keep (t := t) (by rw [onward.rest]) (written.trans onward.keeps)
  refine ⟨?_, furnished.dirs.keeps.trans (written.trans onward.keeps),
    .cons ⟨later, fun distinct => ?_⟩ ?_, fun other elsewhere => ?_⟩
  · rw [onward.rest, furnished.rest]
  · refine (onward.kept place (List.nodup_cons.1 distinct).1).file.1 ?_
    rw [FileTree.lookup?_put inner, if_pos rfl]
  · exact onward.filed.imp fun item place ⟨lodges, holds⟩ =>
      ⟨lodges, fun distinct => holds (List.nodup_cons.1 distinct).2⟩
  · rw [List.mem_cons, not_or] at elsewhere
    obtain ⟨apart, elsewhere⟩ := elsewhere
    have same : u.files.KeptAt (u.files.put place (.file (.text text))) other := by
      refine .inl ?_
      rw [FileTree.lookup?_put inner, if_neg apart]
    exact ((furnished.dirs other).trans same).trans (onward.kept other elsewhere)

theorem stored_of_store (stored : s.perform (Host.store p text) = (.ok (), t)) :
    ∃ place, s.Stored t [(p, text)] [place] := by
  obtain ⟨u, place, above, lodges, free, rfl⟩ := store_ok stored
  exact ⟨place, .cons (furnished_makeAbove above) lodges free (.nil _)⟩

theorem perform_storeAll (s : Session) (p : Path) (text : String) (items : List (Path × String)) :
    s.perform (Host.storeAll ((p, text) :: items)) =
      match s.perform (Host.store p text) with
      | (.error e, u) => (.error e, u)
      | (.ok (), u) => u.perform (Host.storeAll items) := by
  rw [Host.storeAll, perform_bind]
  rcases s.perform (Host.store p text) with ⟨_ | _, _⟩ <;> rfl

theorem stored_of_storeAll (stored : s.perform (Host.storeAll items) = (.ok (), t)) :
    ∃ places, s.Stored t items places := by
  induction items generalizing s with
  | nil =>
    obtain ⟨-, rfl⟩ := Prod.mk.inj stored
    exact ⟨[], .nil s⟩
  | cons item items ih =>
    obtain ⟨p, text⟩ := item
    rw [perform_storeAll] at stored
    rcases one : s.perform (Host.store p text) with ⟨e | ⟨⟩, u⟩
    · rw [one] at stored
      cases stored
    · rw [one] at stored
      obtain ⟨u, place, above, lodges, free, rfl⟩ := store_ok one
      obtain ⟨places, onward⟩ := ih stored
      exact ⟨place :: places, .cons (furnished_makeAbove above) lodges free onward⟩

theorem storeAll_again (filed : List.Forall₂ (fun item place => s.Lodges item.1 place ∧
      s.files.lookup? place = some (.file (.text item.2))) items places) :
    ∃ files : FileTree, s.perform (Host.storeAll items) = (.ok (), { s with files }) ∧
      ∀ place, files.lookup? place = s.files.lookup? place := by
  induction items generalizing s places with
  | nil => exact ⟨s.files, rfl, fun _ => rfl⟩
  | cons item items ih =>
    obtain ⟨p, text⟩ := item
    obtain ⟨place, others, ⟨lodges, there⟩, later, rfl⟩ := List.forall₂_cons_left_iff.1 filed
    -- The tree is put together anew, and yet shows the same everywhere.
    have same : ∀ other, (s.files.put place (.file (.text text))).lookup? other =
        s.files.lookup? other := by
      intro other
      rw [FileTree.lookup?_put lodges.inner]
      split
      · next here => rw [here, there]
      · rfl
    have keeps : s.files.KeepsDirs (s.files.put place (.file (.text text))) :=
      fun other found => (same other).trans found
    let next : Session := { s with files := s.files.put place (.file (.text text)) }
    obtain ⟨files, onward, rest⟩ := ih (s := next) (later.imp fun _ place ⟨lodges, there⟩ =>
      ⟨lodges.keep (t := next) rfl keeps, (same place).trans there⟩)
    refine ⟨files, ?_, fun other => (rest other).trans (same other)⟩
    rw [perform_storeAll, store_of_lodges lodges (by rw [there]; exact nofun)]
    exact onward

end Runs

section Repeating

theorem steady_store (p : Path) (text : String) : Steady (Host.store p text) := by
  refine Steady.bind ?_ fun made => ?_
  · unfold Host.makeAbove
    split
    · exact steady_pure _
    · exact steady_makeDirs _
  · split
    · exact steady_pure _
    · exact steady_writeText p text

theorem steady_storeAll (items : List (Path × String)) : Steady (Host.storeAll items) := by
  induction items with
  | nil => exact steady_pure _
  | cons item items ih =>
    obtain ⟨p, text⟩ := item
    refine (steady_store p text).bind fun stored => ?_
    split
    · exact steady_pure _
    · exact ih

end Repeating

section Below

variable {base : Place} {dir : Path} {names : List String} {name : String}

def ChangedBelow (base : Place) (tree after : FileTree) : Prop :=
  ∀ place, after.lookup? place ≠ tree.lookup? place → ∃ names, names ≠ [] ∧ place = base ++ names

theorem ChangedBelow.refl (base : Place) (tree : FileTree) : ChangedBelow base tree tree :=
  fun _ changed => absurd rfl changed

theorem ChangedBelow.trans {tree middle after : FileTree} (first : ChangedBelow base tree middle)
    (second : ChangedBelow base middle after) : ChangedBelow base tree after := by
  intro place changed
  by_cases same : middle.lookup? place = tree.lookup? place
  · exact second place (by rwa [same])
  · exact first place same

def OpenAt (s : Session) (dir : Path) (base : Place) : Prop :=
  s.files.stat s.workingDir dir = .ok .directory ∧ s.files.reach s.workingDir dir = .ok base

theorem OpenAt.keep (opened : s.OpenAt dir base) (same : t.workingDir = s.workingDir)
    (keeps : s.files.KeepsDirs t.files) : t.OpenAt dir base := by
  unfold OpenAt
  rw [same]
  exact ⟨keeps.stat opened.1, keeps.reach opened.2⟩

theorem OpenAt.reach (opened : s.OpenAt dir base) (steps : ∀ name ∈ names, IsStep name)
    (reached : s.files.reach s.workingDir (names.foldl Path.push dir) = .ok place) :
    place = base ++ names := by
  obtain ⟨base', found, rfl⟩ := FileTree.reach_foldl_push steps reached
  rw [opened.2] at found
  rw [Except.ok.inj found]

theorem ensureDir_below (opened : s.OpenAt dir base) (some : names ≠ [])
    (steps : ∀ name ∈ names, IsStep name) :
    ChangedBelow base s.files
      (s.perform (Host.ensureDir (names.foldl Path.push dir))).2.files := by
  have furnished := furnished_ensureDir s (names.foldl Path.push dir)
  rcases ensureDir_changes s (names.foldl Path.push dir) with same | ⟨place, reached, same⟩
  · rw [same]
    exact .refl _ _
  · have still := opened.keep furnished.workingDir furnished.dirs.keeps
    intro other changed
    have here : other = place := by_contra fun apart => changed (same other apart)
    refine ⟨names, some, here.trans (still.reach steps ?_)⟩
    rwa [furnished.workingDir]

theorem makeDirs_below (opened : s.OpenAt dir base) (steps : ∀ name ∈ names, IsStep name) :
    ChangedBelow base s.files
      (s.perform (Host.makeDirs (names.foldl Path.push dir).normal)).2.files := by
  -- The innermost directory is asked for first, and those around it only if one is missing.
  induction names using List.reverseRecOn with
  | nil =>
    have ready : s.Ready dir.normal := .inr (FileTree.stat_normal opened.1)
    rw [List.foldl_nil, ready.makeDirs]
    exact .refl _ _
  | append_singleton names name ih =>
    have step := steps name (by simp)
    have around := ih fun other member => steps other (List.mem_append_left _ member)
    have furnished := furnished_makeDirs s (names.foldl Path.push dir).normal
    have whole : (names ++ [name]).foldl Path.push dir =
        (names.foldl Path.push dir).push name := List.foldl_concat ..
    rw [whole, Path.normal_push step, Host.makeDirs, Path.nested_push step, ← whole]
    rw [Host.makeDirs] at around furnished
    rcases makeNested_cases s ((names ++ [name]).foldl Path.push dir)
      (names.foldl Path.push dir).normal.nested with
      ⟨-, at_once⟩ | ⟨-, ⟨e, t, failed, same⟩ | ⟨t, made, after⟩⟩
    · rw [at_once]
      exact ensureDir_below opened (by simp) steps
    · rw [failed] at around
      rw [same]
      exact around
    · rw [made] at around furnished
      rw [after]
      have still := opened.keep furnished.workingDir furnished.dirs.keeps
      exact around.trans (ensureDir_below still (by simp) steps)

theorem makeAbove_below (opened : s.OpenAt dir base) (some : names ≠ [])
    (steps : ∀ name ∈ names, IsStep name) :
    ChangedBelow base s.files
      (s.perform (Host.makeAbove (names.foldl Path.push dir))).2.files := by
  obtain ⟨front, last, rfl⟩ := List.eq_nil_or_concat' names |>.resolve_left some
  have whole : (front ++ [last]).foldl Path.push dir =
      (front.foldl Path.push dir).push last := List.foldl_concat ..
  rw [whole, Host.makeAbove, Path.parent?_push (steps last (by simp))]
  exact makeDirs_below opened fun name member => steps name (List.mem_append_left _ member)

theorem store_below (opened : s.OpenAt dir base) (some : names ≠ [])
    (steps : ∀ name ∈ names, IsStep name)
    (stored : s.perform (Host.store (names.foldl Path.push dir) text) = (.ok (), t)) :
    ChangedBelow base s.files t.files := by
  obtain ⟨u, place, above, lodges, free, rfl⟩ := store_ok stored
  have around := makeAbove_below opened some steps
  have furnished := furnished_makeAbove above
  rw [above] at around
  have still := opened.keep furnished.workingDir furnished.dirs.keeps
  refine around.trans fun other changed => ⟨names, some, ?_⟩
  rw [← still.reach steps lodges.reach]
  refine by_contra fun apart => changed ?_
  rw [FileTree.lookup?_put lodges.inner, if_neg apart]

theorem storeAll_below (opened : s.OpenAt dir base)
    (below : ∀ item ∈ items, ∃ names, names ≠ [] ∧ (∀ name ∈ names, IsStep name) ∧
      item.1 = names.foldl Path.push dir)
    (stored : s.perform (Host.storeAll items) = (.ok (), t)) :
    ChangedBelow base s.files t.files := by
  induction items generalizing s with
  | nil =>
    obtain ⟨-, rfl⟩ := Prod.mk.inj stored
    exact .refl _ _
  | cons item items ih =>
    obtain ⟨p, text⟩ := item
    obtain ⟨names, some, steps, rfl⟩ := below _ List.mem_cons_self
    rw [perform_storeAll] at stored
    rcases one : s.perform (Host.store (names.foldl Path.push dir) text) with ⟨e | ⟨⟩, u⟩
    · rw [one] at stored
      cases stored
    · rw [one] at stored
      obtain ⟨place, done⟩ := stored_of_store one
      exact (store_below opened some steps one).trans
        (ih (opened.keep (by rw [done.rest]) done.keeps)
          (fun item member => below item (List.mem_cons_of_mem _ member)) stored)

end Below

end Session

end FluentWrap
