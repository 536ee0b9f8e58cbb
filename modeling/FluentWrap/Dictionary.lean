/-!
Dictionaries: at most one value for each key. An insertion replaces the value that the key had.
-/

set_option autoImplicit false

namespace FluentWrap

variable {κ ν : Type} [DecidableEq κ]

structure Dictionary (κ ν : Type) where
  entries : List (κ × ν)
  distinct : (entries.map Prod.fst).Nodup := by simp
  deriving Repr

namespace Dictionary

def empty : Dictionary κ ν := ⟨[], .nil⟩

instance : Inhabited (Dictionary κ ν) := ⟨empty⟩

/-- Put a value in the place of the entry of a key, or at the end. -/
def place (key : κ) (value : ν) : List (κ × ν) → List (κ × ν)
  | [] => [(key, value)]
  | first :: rest =>
    if first.1 = key then (key, value) :: rest else first :: place key value rest

theorem mem_keys_place {key other : κ} {value : ν} {entries : List (κ × ν)} :
    other ∈ (place key value entries).map Prod.fst ↔
      other = key ∨ other ∈ entries.map Prod.fst := by
  induction entries with
  | nil => simp [place]
  | cons first rest ih =>
    unfold place
    split
    · next same => simp [same]
    · simp only [List.map_cons, List.mem_cons, ih]
      exact or_left_comm

theorem place_distinct {key : κ} {value : ν} {entries : List (κ × ν)}
    (h : (entries.map Prod.fst).Nodup) : ((place key value entries).map Prod.fst).Nodup := by
  induction entries with
  | nil => simp [place]
  | cons first rest ih =>
    obtain ⟨fresh, distinct⟩ := List.nodup_cons.1 h
    unfold place
    split
    · next same => exact List.nodup_cons.2 ⟨same ▸ fresh, distinct⟩
    · next other =>
      refine List.nodup_cons.2 ⟨fun member => ?_, ih distinct⟩
      rcases mem_keys_place.1 member with same | member
      · exact other same
      · exact fresh member

def lookup? (entries : List (κ × ν)) (key : κ) : Option ν :=
  (entries.find? fun e => e.1 = key).map Prod.snd

theorem lookup?_cons (first : κ × ν) (rest : List (κ × ν)) (key : κ) :
    lookup? (first :: rest) key = if first.1 = key then some first.2 else lookup? rest key := by
  by_cases same : first.1 = key <;> simp [lookup?, same]

theorem lookup?_place (key other : κ) (value : ν) (entries : List (κ × ν)) :
    lookup? (place key value entries) other =
      if key = other then some value else lookup? entries other := by
  induction entries with
  | nil => rw [place, lookup?_cons]
  | cons first rest ih =>
    unfold place
    split
    · next same =>
      rw [lookup?_cons, lookup?_cons, same]
      split <;> rfl
    · next different =>
      rw [lookup?_cons, lookup?_cons, ih]
      split
      · next same => rw [if_neg fun h => different (same.trans h.symm)]
      · rfl

def insert (d : Dictionary κ ν) (key : κ) (value : ν) : Dictionary κ ν :=
  ⟨place key value d.entries, place_distinct d.distinct⟩

def get? (d : Dictionary κ ν) (key : κ) : Option ν :=
  lookup? d.entries key

def contains (d : Dictionary κ ν) (key : κ) : Bool :=
  (d.get? key).isSome

@[simp] theorem get?_empty (key : κ) : (empty : Dictionary κ ν).get? key = none := rfl

@[simp] theorem get?_insert (d : Dictionary κ ν) (key other : κ) (value : ν) :
    (d.insert key value).get? other = if key = other then some value else d.get? other :=
  lookup?_place key other value d.entries

theorem contains_iff {d : Dictionary κ ν} {key : κ} :
    d.contains key = true ↔ ∃ value, d.get? key = some value :=
  Option.isSome_iff_exists

end Dictionary

end FluentWrap
