/-!
Cutting a text at a number of bytes. That is possible only where a character ends; replacing
characters by others of the same size leaves these places where they are.
-/

set_option autoImplicit false

namespace FluentWrap.Text

variable {s front back : String}

section Sizes

theorem utf8ByteSize_ofList_cons (c : Char) (s : List Char) :
    (String.ofList (c :: s)).utf8ByteSize = c.utf8Size + (String.ofList s).utf8ByteSize := by
  rw [String.ofList_cons, String.utf8ByteSize_append, String.utf8ByteSize_singleton]

theorem length_le_utf8ByteSize (s : List Char) : s.length ≤ (String.ofList s).utf8ByteSize := by
  induction s with
  | nil => exact Nat.zero_le _
  | cons c rest ih =>
    have positive := c.utf8Size_pos
    rw [utf8ByteSize_ofList_cons, List.length_cons]
    omega

variable {f : Char → Char}

theorem utf8ByteSize_map (kept : ∀ c, (f c).utf8Size = c.utf8Size) (s : List Char) :
    (String.ofList (s.map f)).utf8ByteSize = (String.ofList s).utf8ByteSize := by
  induction s with
  | nil => rfl
  | cons c rest ih =>
    rw [List.map_cons, utf8ByteSize_ofList_cons, utf8ByteSize_ofList_cons, ih, kept]

theorem isValid_map (kept : ∀ c, (f c).utf8Size = c.utf8Size) (s : List Char)
    (place : String.Pos.Raw) :
    place.IsValid (String.ofList (s.map f)) ↔ place.IsValid (String.ofList s) := by
  simp only [String.Pos.Raw.isValid_ofList, ← List.map_take, utf8ByteSize_map kept]

end Sizes

/-- What stands behind so many bytes of a text. There is no answer if the text has not so many, or
if they end inside a character. -/
def behind? (s : String) (bytes : Nat) : Option String :=
  if boundary : String.Pos.Raw.IsValid s ⟨bytes⟩ then
    some (s.sliceFrom (s.pos ⟨bytes⟩ boundary)).copy
  else none

theorem behind?_eq_some_iff {bytes : Nat} :
    behind? s bytes = some back ↔ ∃ front, s = front ++ back ∧ front.utf8ByteSize = bytes := by
  unfold behind?
  constructor
  · intro cut
    split at cut
    · next boundary =>
      obtain rfl := Option.some.inj cut
      have splits := (s.pos ⟨bytes⟩ boundary).splits
      exact ⟨_, splits.eq_append, (congrArg String.Pos.Raw.byteIdx splits.offset_eq_rawEndPos).symm⟩
    · cases cut
  · rintro ⟨front, rfl, rfl⟩
    have boundary : String.Pos.Raw.IsValid (front ++ back) ⟨front.utf8ByteSize⟩ :=
      String.Pos.Raw.isValid_iff_exists_append.2 ⟨front, back, rfl, rfl⟩
    rw [dif_pos boundary]
    have splits : ((front ++ back).pos ⟨front.utf8ByteSize⟩ boundary).Splits front back := ⟨rfl, rfl⟩
    rw [splits.copy_sliceFrom_eq]

end FluentWrap.Text
