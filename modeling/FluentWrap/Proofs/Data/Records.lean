import FluentWrap.Data.Fields
import Mathlib.Data.List.Nodup

/-!
Records that are read back from the data they are written as. The fields of a table are found by
their names, and lists are read item by item; so a record is read back if each of its fields is.
-/

set_option autoImplicit false

namespace FluentWrap

/-- Whether reading undoes writing for the sound values, and gives no others. -/
structure ReadsBack {α : Type} (write : α → Data) (read : Data → Option α) (Sound : α → Prop) :
    Prop where
  back : ∀ {a}, Sound a → read (write a) = some a
  sound : ∀ {data a}, read data = some a → Sound a

namespace ReadsBack

variable {α : Type} {write : α → Data} {read : Data → Option α} {Sound : α → Prop}

theorem read_write_iff (codec : ReadsBack write read Sound) {a : α} :
    read (write a) = some a ↔ Sound a :=
  ⟨codec.sound, codec.back⟩

/-- What was read once can be written and read again. -/
theorem again (codec : ReadsBack write read Sound) {data : Data} {a : α}
    (found : read data = some a) : read (write a) = some a :=
  codec.back (codec.sound found)

theorem list (codec : ReadsBack write read Sound) :
    ReadsBack (fun items => .list (items.map write)) (Data.list? read)
      (fun items => ∀ a ∈ items, Sound a) where
  back {items} sound := by
    induction items with
    | nil => rfl
    | cons a rest ih =>
      have first := codec.back (sound a List.mem_cons_self)
      have others := ih fun b member => sound b (List.mem_cons_of_mem _ member)
      simp only [Data.list?] at others ⊢
      rw [List.map_cons, List.mapM_cons, first, others]
      rfl
  sound {data items} found := by
    cases data with
    | list given =>
      simp only [Data.list?] at found
      induction given generalizing items with
      | nil =>
        obtain rfl : [] = items := by simpa using found
        nofun
      | cons d rest ih =>
        simp only [List.mapM_cons, bind, Option.bind_eq_some_iff] at found
        obtain ⟨a, first, others, later, same⟩ := found
        obtain rfl := Option.some.inj same
        intro b member
        rcases List.mem_cons.1 member with rfl | member
        · exact codec.sound first
        · exact ih later b member
    | _ => cases found

theorem of_required (codec : ReadsBack write read Sound) {fields : Fields} {name : String} {a : α}
    (found : fields.required name read = some a) : Sound a := by
  obtain ⟨data, -, given⟩ := Option.bind_eq_some_iff.1 found
  exact codec.sound given

theorem of_defaulted (codec : ReadsBack write read Sound) {fields : Fields} {name : String}
    {absent a : α} (unset : Sound absent)
    (found : fields.defaulted name absent read = some a) : Sound a := by
  unfold Fields.defaulted at found
  split at found
  · exact Option.some.inj found ▸ unset
  · exact codec.sound found

end ReadsBack

namespace Fields

variable {named : Bool} {name : String} {entries : List (String × Data)}

@[simp] theorem get?_nil : (⟨named, []⟩ : Fields).get? name = none := rfl

@[simp] theorem get?_cons (key : String) (data : Data) :
    (⟨named, (key, data) :: entries⟩ : Fields).get? name =
      if key = name then some data else (⟨named, entries⟩ : Fields).get? name := by
  unfold get?
  rw [List.find?_cons]
  by_cases same : key = name
  · simp [same]
  · have other : (key == name) = false := by simpa using same
    simp [same, other]

end Fields

namespace Data

variable {dialect : Dialect} {names : List String} {entries : List (String × Data)}

theorem fields?_table (distinct : (entries.map Prod.fst).Nodup) :
    (table entries).fields? dialect names = some ⟨true, entries⟩ := by
  have once : ∀ name, occursOnce entries name = true := by
    intro name
    have counted := List.nodup_iff_count_le_one.1 distinct name
    rw [List.count_eq_countP, List.countP_map, List.countP_eq_length_filter] at counted
    exact decide_eq_true counted
  simp [fields?, once]

@[simp] theorem string?_string (s : String) : (string s).string? = some s := rfl

theorem readsBack_string : ReadsBack string string? (fun _ => True) where
  back _ := rfl
  sound _ := trivial

@[simp] theorem bool?_bool (b : Bool) : (bool b).bool? = some b := rfl

@[simp] theorem nullable?_string (s : String) :
    (string s).nullable? string? = some (some s) := rfl

end Data

end FluentWrap
