/-!
Finite sets of names, kept as increasing lists. A set is written down in the order of its names,
and a name is in it at most once.
-/

set_option autoImplicit false

namespace FluentWrap

structure NameSet where
  toList : List String
  increasing : toList.Pairwise (· < ·) := by simp
  deriving Repr

namespace NameSet

def empty : NameSet := ⟨[], .nil⟩

instance : Inhabited NameSet := ⟨empty⟩

/-- Insert into an increasing list, unless the name is there already. -/
def insertInto (name : String) : List String → List String
  | [] => [name]
  | first :: rest =>
    if name < first then name :: first :: rest
    else if first < name then first :: insertInto name rest
    else first :: rest

theorem mem_insertInto {name other : String} {names : List String} :
    other ∈ insertInto name names ↔ other = name ∨ other ∈ names := by
  induction names with
  | nil => simp [insertInto]
  | cons first rest ih =>
    unfold insertInto
    split
    · simp
    · next notBelow =>
      split
      · simp only [List.mem_cons, ih]
        grind
      · next notAbove =>
        have same : name = first :=
          String.le_antisymm (String.not_lt.1 notAbove) (String.not_lt.1 notBelow)
        simp [same]

theorem insertInto_increasing {name : String} {names : List String}
    (h : names.Pairwise (· < ·)) : (insertInto name names).Pairwise (· < ·) := by
  induction names with
  | nil => simp [insertInto]
  | cons first rest ih =>
    obtain ⟨below, increasing⟩ := List.pairwise_cons.1 h
    unfold insertInto
    split
    · next lt =>
      refine List.pairwise_cons.2 ⟨fun other mem => ?_, h⟩
      rcases List.mem_cons.1 mem with rfl | mem
      · exact lt
      · exact String.lt_trans lt (below other mem)
    · split
      · next lt =>
        refine List.pairwise_cons.2 ⟨fun other mem => ?_, ih increasing⟩
        rcases mem_insertInto.1 mem with rfl | mem
        · exact lt
        · exact below other mem
      · exact h

def insert (set : NameSet) (name : String) : NameSet :=
  ⟨insertInto name set.toList, insertInto_increasing set.increasing⟩

def insertAll (set : NameSet) (names : List String) : NameSet :=
  names.foldl insert set

def ofList (names : List String) : NameSet :=
  empty.insertAll names

def contains (set : NameSet) (name : String) : Bool :=
  set.toList.contains name

@[simp] theorem contains_insert (set : NameSet) (name other : String) :
    (set.insert name).contains other = (other == name || set.contains other) := by
  rw [Bool.eq_iff_iff]
  simp [contains, insert, mem_insertInto]

@[simp] theorem contains_insertAll (set : NameSet) (names : List String) (other : String) :
    (set.insertAll names).contains other = (names.contains other || set.contains other) := by
  induction names generalizing set with
  | nil => simp [insertAll]
  | cons name rest ih =>
    simp only [insertAll, List.foldl_cons] at ih ⊢
    rw [ih, contains_insert, List.contains_cons]
    grind

@[simp] theorem contains_ofList (names : List String) (other : String) :
    (ofList names).contains other = names.contains other := by
  rw [ofList, contains_insertAll]
  simp [contains, empty]

end NameSet

end FluentWrap
