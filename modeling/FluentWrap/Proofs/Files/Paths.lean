import FluentWrap.Proofs.Files.Access

/-!
Going on from a path. A path with a name behind it leads one step further, texts of such paths tell
the names apart, and the directory above it is the path that one went on from.
-/

set_option autoImplicit false

namespace FluentWrap

open FileTree (IsStep)

variable {p dir : Path} {name : String} {names : List String} {s rest : List Char}

namespace Path

/-- What a name behind a path is joined to it with. -/
def joint (p : Path) : String :=
  match p.text.toList.getLast? with
  | none | some '/' => ""
  | some _ => "/"

/-- A path without what means nothing at its end. -/
def normal (p : Path) : Path :=
  ⟨String.ofList (dropIdle p.text.toList.reverse).reverse⟩

section Texts

theorem isAbsolute_of_not_mem (single : '/' ∉ name.toList) :
    (⟨name⟩ : Path).isAbsolute = false := by
  refine decide_eq_false fun head => single ?_
  exact List.mem_of_head? head

theorem text_push (single : '/' ∉ name.toList) :
    (p.push name).text = p.text ++ p.joint ++ name := by
  unfold push joint
  rw [isAbsolute_of_not_mem single, if_neg Bool.false_ne_true]
  split <;> simp_all

theorem push_eq (single : '/' ∉ name.toList) : p.push name = ⟨p.text ++ p.joint ++ name⟩ :=
  congrArg Path.mk (text_push single)

theorem joint_concat (s : List Char) (c : Char) :
    (⟨String.ofList (s ++ [c])⟩ : Path).joint = if c = '/' then "" else "/" := by
  unfold joint
  rw [String.toList_ofList, List.getLast?_concat]
  split <;> simp_all

theorem joint_push (step : IsStep name) : (p.push name).joint = "/" := by
  obtain ⟨front, c, whole⟩ := (List.eq_nil_or_concat' name.toList).resolve_left step.toList_ne_nil
  have text : p.push name = ⟨String.ofList ((p.text ++ p.joint).toList ++ front ++ [c])⟩ := by
    rw [push_eq step.single, List.append_assoc, ← whole, ← String.toList_append,
      String.ofList_toList]
  rw [text, joint_concat, if_neg]
  rintro rfl
  exact step.single (by simp [whole])

theorem text_foldl_push (steps : ∀ name ∈ names, IsStep name) (some : names ≠ []) :
    (names.foldl push dir).text = dir.text ++ dir.joint ++ "/".intercalate names := by
  induction names generalizing dir with
  | nil => exact absurd rfl some
  | cons name rest ih =>
    have step := steps name List.mem_cons_self
    rw [List.foldl_cons]
    cases rest with
    | nil => simp [text_push step.single]
    | cons next rest =>
      rw [ih (fun other member => steps other (List.mem_cons_of_mem _ member)) nofun,
        joint_push step, text_push step.single, String.intercalate_cons_cons]
      simp only [String.append_assoc]

theorem intercalate_inj {others : List String} (single : ∀ name ∈ names, '/' ∉ name.toList)
    (single' : ∀ name ∈ others, '/' ∉ name.toList) (some : names ≠ []) (some' : others ≠ [])
    (same : "/".intercalate names = "/".intercalate others) : names = others := by
  have cut : ∀ {l : List String}, (∀ name ∈ l, '/' ∉ name.toList) → l ≠ [] →
      ("/".intercalate l).toList.splitOn '/' = l.map String.toList := by
    intro l apart filled
    rw [String.toList_intercalate]
    exact List.splitOn_intercalate '/' (by simpa using apart) (by simpa using filled)
  have pieces := cut single some
  rw [same, cut single' some'] at pieces
  exact (List.map_injective_iff.2 (fun _ _ => String.toList_injective) pieces).symm

end Texts

section Above

theorem dropIdle_suffix (s : List Char) : dropIdle s <:+ s := by
  induction s using dropIdle.induct with
  | case1 rest ih =>
    rw [dropIdle]
    exact ih.trans (List.suffix_cons _ _)
  | case2 c rest ih =>
    rw [dropIdle]
    exact ih.trans (List.suffix_cons _ _)
  | case3 s notDot notSlash =>
    rw [dropIdle]
    · exact notDot
    · exact notSlash

theorem dropIdle_ne_nil {s : List Char} (some : s ≠ []) : dropIdle s ≠ [] := by
  induction s using dropIdle.induct with
  | case1 rest ih =>
    rw [dropIdle]
    exact ih nofun
  | case2 c rest ih =>
    rw [dropIdle]
    exact ih nofun
  | case3 s notDot notSlash => rwa [dropIdle.eq_3 s notDot notSlash]

/-- Only the root is left with a separator at its end. -/
theorem dropIdle_slash (s : List Char) : ∀ rest, dropIdle s = '/' :: rest → rest = [] := by
  induction s using dropIdle.induct with
  | case1 rest ih =>
    rw [dropIdle]
    exact ih
  | case2 c rest ih =>
    rw [dropIdle]
    exact ih
  | case3 s notDot notSlash =>
    rw [dropIdle.eq_3 s notDot notSlash]
    rintro rest rfl
    cases rest with
    | nil => rfl
    | cons c rest => exact absurd rfl (notSlash c rest)

theorem length_parent? {parent : Path} (above : p.parent? = some parent) :
    parent.text.length < p.text.length := by
  have whole := (dropIdle_suffix p.text.toList.reverse).length_le
  rw [List.length_reverse, String.length_toList] at whole
  unfold parent? at above
  split at above
  · cases above
  · cases above
  · next nonempty notRoot =>
    obtain rfl := Option.some.inj above
    rw [← String.length_toList, String.toList_ofList, List.length_reverse]
    refine Nat.lt_of_le_of_lt (dropIdle_suffix _).length_le (Nat.lt_of_lt_of_le ?_ whole)
    -- The last step has a character of its own, so at least that one is lost.
    cases kept : dropIdle p.text.toList.reverse with
    | nil => exact absurd kept nonempty
    | cons c rest =>
      have name : c ≠ '/' := by
        rintro rfl
        rw [dropIdle_slash _ rest kept] at kept
        exact notRoot kept
      rw [List.dropWhile_cons_of_pos (by simpa using name), List.length_cons]
      exact Nat.lt_succ_of_le (List.length_dropWhile_le _ rest)

theorem ancestors_eq {p : Path} {n k : Nat} (enough : p.text.length < n)
    (enough' : p.text.length < k) : ancestors n p = ancestors k p := by
  induction n generalizing p k with
  | zero => exact absurd enough (Nat.not_lt_zero _)
  | succ n ih =>
    obtain ⟨k, rfl⟩ := Nat.exists_eq_succ_of_ne_zero (Nat.ne_zero_of_lt enough')
    rw [ancestors, ancestors]
    cases above : p.parent? with
    | none => rfl
    | some parent =>
      have shorter := length_parent? above
      exact congrArg _ (ih (by omega) (by omega))

theorem nested_of_parent {parent : Path} (above : p.parent? = some parent) :
    p.nested = p :: parent.nested := by
  unfold nested
  rw [ancestors, above, List.filter_cons_of_pos (by rw [above]; rfl)]
  have shorter := length_parent? above
  exact congrArg _ (congrArg _ (ancestors_eq shorter (Nat.lt_succ_self _)))

theorem nested_of_topmost (top : p.parent? = none) : p.nested = [] := by
  unfold nested
  rw [ancestors, top, List.filter_cons_of_neg (by rw [top]; exact Bool.false_ne_true)]
  rfl

theorem reverse_step (step : IsStep name) : ∃ c front, name.toList.reverse = c :: front ∧
    c ≠ '/' ∧ front.head? ≠ some '/' ∧ (c = '.' → front ≠ []) := by
  cases turned : name.toList.reverse with
  | nil => exact absurd (List.reverse_eq_nil_iff.1 turned) step.toList_ne_nil
  | cons c front =>
    have whole : name.toList = front.reverse ++ [c] := by
      rw [← List.reverse_reverse name.toList, turned, List.reverse_cons]
    have single := step.single
    rw [whole, List.mem_append, List.mem_reverse, List.mem_singleton, not_or] at single
    refine ⟨c, front, rfl, Ne.symm single.2, fun head => single.1 (List.mem_of_head? head), ?_⟩
    rintro rfl rfl
    exact step.notHere (String.toList_injective whole)

theorem dropIdle_step (step : IsStep name) :
    dropIdle (name.toList.reverse ++ rest) = name.toList.reverse ++ rest := by
  obtain ⟨c, front, turned, apart, behind, dot⟩ := reverse_step step
  rw [turned, List.cons_append]
  refine dropIdle.eq_3 _ (fun tail same => ?_) fun d tail same => apart (List.cons.inj same).1
  obtain ⟨point, onward⟩ := List.cons.inj same
  cases front with
  | nil => exact dot point rfl
  | cons d front => exact behind (congrArg some (List.cons.inj onward).1)

theorem joint_cases (p : Path) : ∃ tail, (p.text ++ p.joint).toList.reverse = tail ∧
    tail.dropWhile (· != '/') = tail ∧ dropIdle tail = dropIdle p.text.toList.reverse := by
  refine ⟨_, rfl, ?_⟩
  unfold joint
  cases turned : p.text.toList.reverse with
  | nil =>
    rw [List.reverse_eq_nil_iff.1 turned, String.toList_append, List.reverse_eq_nil_iff.1 turned]
    exact ⟨rfl, rfl⟩
  | cons c front =>
    have last : p.text.toList.getLast? = some c := by
      rw [← List.head?_reverse, turned]
      rfl
    rw [String.toList_append, List.reverse_append, turned, last]
    by_cases slash : c = '/'
    · subst slash
      exact ⟨rfl, rfl⟩
    · have between : (match some c with
          | none | some '/' => ""
          | some _ => "/") = "/" := by
        split <;> simp_all
      rw [between]
      exact ⟨rfl, dropIdle.eq_2 c front⟩

theorem parent?_push (step : IsStep name) : (p.push name).parent? = some p.normal := by
  obtain ⟨tail, turned, kept, same⟩ := joint_cases p
  obtain ⟨c, front, cut, apart, -⟩ := reverse_step step
  have text : (p.push name).text.toList.reverse = name.toList.reverse ++ tail := by
    rw [text_push step.single, String.toList_append, List.reverse_append, turned]
  have passed : ∀ c ∈ name.toList.reverse, (c != '/') = true := by
    intro c among
    refine bne_iff_ne.2 ?_
    rintro rfl
    exact step.single (List.mem_reverse.1 among)
  unfold parent? normal
  rw [text, dropIdle_step step]
  split
  · next none =>
    rw [cut] at none
    cases none
  · next root =>
    rw [cut] at root
    exact absurd (List.cons.inj root).1 apart
  · rw [List.dropWhile_append_of_pos passed, kept, same]

theorem nested_push (step : IsStep name) : (p.push name).nested = p.push name :: p.normal.nested :=
  nested_of_parent (parent?_push step)

theorem normal_push (step : IsStep name) : (p.push name).normal = p.push name := by
  unfold normal
  rw [text_push step.single, String.toList_append, List.reverse_append, dropIdle_step step,
    ← List.reverse_append, ← String.toList_append, List.reverse_reverse, String.ofList_toList,
    ← text_push step.single]

theorem admissible_normal (admissible : p.Admissible) : p.normal.Admissible := by
  obtain ⟨rest, whole⟩ := List.reverse_prefix.2 (dropIdle_suffix p.text.toList.reverse)
  rw [List.reverse_reverse] at whole
  have text : p.text = p.normal.text ++ String.ofList rest := by
    rw [normal, ← String.ofList_append, whole, String.ofList_toList]
  have nonempty := dropIdle_ne_nil (s := p.text.toList.reverse)
    fun none => admissible.nonempty (String.toList_eq_nil_iff.1 (List.reverse_eq_nil_iff.1 none))
  refine ⟨fun empty => nonempty ?_, fun nul => admissible.noNul ?_, ?_⟩
  · have none := String.toList_eq_nil_iff.2 empty
    rw [normal, String.toList_ofList] at none
    exact List.reverse_eq_nil_iff.1 none
  · rw [text, String.toList_append]
    exact List.mem_append_left _ nul
  · have size := admissible.short
    rw [text, String.utf8ByteSize_append] at size
    exact Nat.lt_of_le_of_lt (Nat.le_add_right _ _) size

end Above

end Path

namespace FileTree

variable {tree after : FileTree} {workingDir base here place : Place}

section Following

theorem segments_slash (s rest : List Char) (single : '/' ∉ rest) :
    (⟨String.ofList (s ++ '/' :: rest)⟩ : Path).segments =
      (⟨String.ofList s⟩ : Path).segments ++ [String.ofList rest] := by
  unfold Path.segments
  rw [String.toList_ofList, String.toList_ofList, Text.splitOn_eq, Text.splitOn_eq,
    List.splitOn_append_cons_self, List.splitOn_eq_singleton single, List.map_append]
  rfl

theorem origin_slash (workingDir : Place) (s rest : List Char) :
    origin workingDir ⟨String.ofList (s ++ '/' :: rest)⟩ =
      origin workingDir ⟨String.ofList (s ++ ['/'])⟩ := by
  unfold origin Path.isAbsolute
  rw [String.toList_ofList, String.toList_ofList]
  cases s <;> rfl

theorem origin_slash_cons (workingDir : Place) (c : Char) (s : List Char) :
    origin workingDir ⟨String.ofList (c :: s ++ ['/'])⟩ =
      origin workingDir ⟨String.ofList (c :: s)⟩ := by
  unfold origin Path.isAbsolute
  rw [String.toList_ofList, String.toList_ofList]
  rfl

theorem reach_slash_ok_iff (single : '/' ∉ rest) :
    tree.reach workingDir ⟨String.ofList (s ++ '/' :: rest)⟩ = .ok place ↔
      ∃ middle, tree.walk (origin workingDir ⟨String.ofList (s ++ ['/'])⟩)
          (⟨String.ofList s⟩ : Path).segments = .ok middle ∧
        tree.walk middle [String.ofList rest] = .ok place := by
  unfold reach
  rw [segments_slash s rest single, origin_slash, walk_append_ok_iff]

/-- What means nothing at the end of a path can be dropped. -/
theorem reach_dropIdle (s : List Char)
    (reached : tree.reach workingDir ⟨String.ofList s.reverse⟩ = .ok place) :
    tree.reach workingDir ⟨String.ofList (Path.dropIdle s).reverse⟩ = .ok place := by
  -- The text is given from its end, so that each case takes one step off the end of the path.
  induction s using Path.dropIdle.induct with
  | case1 rest ih =>
    rw [Path.dropIdle]
    refine ih ?_
    rw [List.reverse_cons, List.reverse_cons, List.append_assoc] at reached
    obtain ⟨middle, walked, onward⟩ := (reach_slash_ok_iff (by decide)).1 reached
    obtain ⟨inside, rfl⟩ := (walk_idle_ok_iff (.inr rfl)).1 onward
    rw [List.reverse_cons]
    refine (reach_slash_ok_iff List.not_mem_nil).2 ⟨_, walked, ?_⟩
    exact walk_blanks_of_directory (by simp) inside
  | case2 c rest ih =>
    rw [Path.dropIdle]
    refine ih ?_
    rw [List.reverse_cons] at reached
    obtain ⟨middle, walked, onward⟩ := (reach_slash_ok_iff List.not_mem_nil).1 reached
    obtain ⟨-, rfl⟩ := (walk_idle_ok_iff (.inl rfl)).1 onward
    obtain ⟨d, front, turned⟩ := List.exists_cons_of_ne_nil
      (show (c :: rest).reverse ≠ [] by simp)
    rw [turned] at walked ⊢
    rwa [origin_slash_cons] at walked
  | case3 s notDot notSlash => rwa [Path.dropIdle.eq_3 s notDot notSlash]

theorem reach_normal (reached : tree.reach workingDir p = .ok place) :
    tree.reach workingDir p.normal = .ok place := by
  refine reach_dropIdle _ ?_
  rwa [List.reverse_reverse, String.ofList_toList]

theorem stat_normal (there : tree.stat workingDir p = .ok .directory) :
    tree.stat workingDir p.normal = .ok .directory := by
  obtain ⟨admissible, place, reached, directory⟩ := stat_directory_iff.1 there
  exact stat_directory_iff.2
    ⟨Path.admissible_normal admissible, place, reach_normal reached, directory⟩

theorem reach_name (single : '/' ∉ name.toList) :
    tree.reach workingDir ⟨name⟩ = tree.walk workingDir [name] := by
  have whole : (⟨name⟩ : Path).segments = [name] := by
    simp [Path.segments, Text.splitOn_eq, List.splitOn_eq_singleton single]
  rw [reach, origin, Path.isAbsolute_of_not_mem single, whole]
  rfl

theorem reach_push_ok_iff (step : IsStep name) :
    tree.reach workingDir (p.push name) = .ok place ↔
      ∃ here, tree.reach workingDir p = .ok here ∧ tree.lookup? here = some .directory ∧
        name.utf8ByteSize ≤ maxName ∧ place = here ++ [name] := by
  have named : String.ofList name.toList = name := String.ofList_toList
  rw [Path.push_eq step.single]
  obtain ⟨text⟩ := p
  obtain ⟨s, rfl⟩ : ∃ s, String.ofList s = text := ⟨text.toList, String.ofList_toList⟩
  rcases List.eq_nil_or_concat s with rfl | ⟨front, c, rfl⟩
  · -- The empty path leads to the working directory.
    have pushed : (⟨String.ofList [] ++ (⟨String.ofList []⟩ : Path).joint ++ name⟩ : Path) =
        ⟨name⟩ := by simp [Path.joint]
    rw [pushed, reach_name step.single, walk_last_ok_iff step, String.ofList_nil,
      reach_name List.not_mem_nil]
    simp only [walk_idle_ok_iff (.inl rfl)]
    grind
  · rw [List.concat_eq_append, Path.joint_concat]
    by_cases slash : c = '/'
    · -- The path ends in a separator already, behind which a blank name is followed.
      subst slash
      have pushed : String.ofList (front ++ ['/']) ++ (if '/' = '/' then "" else "/") ++ name =
          String.ofList (front ++ '/' :: name.toList) := by
        apply String.toList_injective
        simp
      rw [pushed]
      simp only [reach_slash_ok_iff step.single, reach_slash_ok_iff List.not_mem_nil, named,
        walk_last_ok_iff step, String.ofList_nil, walk_idle_ok_iff (.inl rfl)]
      grind
    · have pushed : String.ofList (front ++ [c]) ++ (if c = '/' then "" else "/") ++ name =
          String.ofList ((front ++ [c]) ++ '/' :: name.toList) := by
        apply String.toList_injective
        simp [slash]
      obtain ⟨d, rest, cut⟩ := List.exists_cons_of_ne_nil (show front ++ [c] ≠ [] by simp)
      rw [pushed, reach_slash_ok_iff step.single, named, cut, origin_slash_cons]
      simp only [walk_last_ok_iff step]
      rfl

theorem reach_foldl_push (steps : ∀ name ∈ names, IsStep name)
    (reached : tree.reach workingDir (names.foldl Path.push dir) = .ok place) :
    ∃ base, tree.reach workingDir dir = .ok base ∧ place = base ++ names := by
  induction names generalizing dir with
  | nil => exact ⟨place, reached, (List.append_nil _).symm⟩
  | cons name rest ih =>
    obtain ⟨below, led, rfl⟩ := ih (fun other member => steps other (List.mem_cons_of_mem _ member))
      reached
    obtain ⟨base, found, -, -, rfl⟩ := (reach_push_ok_iff (steps name List.mem_cons_self)).1 led
    exact ⟨base, found, by simp⟩

end Following

end FileTree
end FluentWrap
