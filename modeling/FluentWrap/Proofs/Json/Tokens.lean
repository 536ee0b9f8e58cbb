import FluentWrap.Json.Printer
import FluentWrap.Json.Reader
import Mathlib.Data.List.TakeWhile

/-!
Written scalars are read back as tokens, whatever follows them: a string ends at its closing quote,
and an integer where no digit, fraction or exponent can go on.
-/

set_option autoImplicit false

namespace FluentWrap.Json

section Strings

variable {front rest : List Char}

theorem char?_toNat (c : Char) : char? c.toNat = some c := by
  have valid : c.toNat.isValidChar := c.valid
  rw [char?, dif_pos valid]
  rfl

theorem readString_escape {c : Char} {s : List Char} (read : readEscape? s = some (c, rest)) :
    readString front ('\\' :: s) = readString (c :: front) rest := by
  rw [readString]
  split
  · next none => simp [read] at none
  · next same =>
    rw [read] at same
    cases same
    rfl

theorem hex?_hexPair {n : Nat} (control : n < 32) :
    hex? ('0' :: '0' :: hexPair n) = some n ∧ isHighSurrogate n = false := by
  revert n
  decide

theorem readEscape?_control {c : Char} (control : c.toNat < 32) :
    readEscape? (['u', '0', '0'] ++ hexPair c.toNat ++ rest) = some (c, rest) := by
  obtain ⟨read, single⟩ := hex?_hexPair control
  rw [hexPair] at read ⊢
  simp only [List.cons_append, List.nil_append, readEscape?, read, single, char?_toNat]
  rfl

theorem readString_stringChar (c : Char) :
    readString front (stringChar c ++ rest) = readString (c :: front) rest := by
  unfold stringChar
  split
  case h_8 quote backslash _ _ _ _ _ =>
    split
    · next control => exact readString_escape (readEscape?_control control)
    · next printable =>
      rw [List.singleton_append, readString, if_neg printable]
      · exact quote
      · exact backslash
  all_goals exact readString_escape rfl

theorem readString_written (s : List Char) :
    readString front (s.flatMap stringChar ++ '"' :: rest) =
      some (String.ofList (front.reverse ++ s), rest) := by
  induction s generalizing front with
  | nil => simp [readString]
  | cons c s ih =>
    rw [List.flatMap_cons, List.append_assoc, readString_stringChar, ih, List.reverse_cons,
      List.append_assoc, List.singleton_append]

end Strings

section Numbers

variable {rest : List Char} {n : Nat}

/-- What may follow a value: the end of the text or of the line, a comma or a closing bracket. -/
def Ends (rest : List Char) : Prop :=
  ∀ c ∈ rest.head?, c ∈ [',', ']', '\x7d', '\n']

theorem ends_nil : Ends [] := by
  intro c first
  cases first

theorem decimal_toDigits (n : Nat) : decimal (Nat.toDigits 10 n) = n := by
  have value : decimal (Nat.toDigits 10 n) = Nat.ofDigitChars 10 (Nat.toDigits 10 n) 0 := by
    unfold decimal Nat.ofDigitChars
    simp only [Nat.mul_comm]
  rw [value, Nat.ofDigitChars_ten_toDigits]

theorem head?_toDigits (positive : 0 < n) : (Nat.toDigits 10 n).head? ≠ some '0' := by
  induction n using Nat.strongRecOn with
  | ind n ih =>
    by_cases single : n < 10
    · rw [Nat.toDigits_of_lt_base single]
      simp
      omega
    · have shorter := ih (n / 10) (by omega) (by omega)
      obtain ⟨first, digits, cut⟩ :=
        List.exists_cons_of_ne_nil (Nat.toDigits_ne_nil (n := n / 10) (b := 10))
      rw [Nat.toDigits_of_base_le (by decide) (by omega), cut]
      rwa [cut] at shorter

theorem exists_digits (n : Nat) : ∃ first others, Nat.toDigits 10 n = first :: others ∧
    first.isDigit = true ∧ (0 < others.length → first ≠ '0') := by
  obtain ⟨first, others, cut⟩ := List.exists_cons_of_ne_nil (@Nat.toDigits_ne_nil n 10)
  have member : first ∈ Nat.toDigits 10 n := cut ▸ List.mem_cons_self
  refine ⟨first, others, cut, Nat.isDigit_of_mem_toDigits (by decide) (by decide) member, ?_⟩
  intro several
  rcases Nat.eq_zero_or_pos n with rfl | positive
  · cases cut
    cases several
  · have leading := head?_toDigits positive
    rw [cut] at leading
    exact fun same => leading (congrArg some same)

theorem toList_toString_ofNat (n : Nat) : (toString (Int.ofNat n)).toList = Nat.toDigits 10 n :=
  Nat.toList_repr

theorem toList_toString_negSucc (n : Nat) :
    (toString (Int.negSucc n)).toList = '-' :: Nat.toDigits 10 (n + 1) := by
  rw [Int.toString_eq_repr, Int.repr, String.toList_append, Nat.toList_repr]
  rfl

theorem spanDigits_toDigits (ends : Ends rest) :
    spanDigits (Nat.toDigits 10 n ++ rest) = (Nat.toDigits 10 n, rest) := by
  have digits : ∀ c ∈ Nat.toDigits 10 n, c.isDigit = true := fun c member =>
    Nat.isDigit_of_mem_toDigits (by decide) (by decide) member
  unfold spanDigits
  rw [List.takeWhile_append_of_pos digits, List.dropWhile_append_of_pos digits]
  cases rest with
  | nil => simp
  | cons c rest =>
    have other : c.isDigit = false := by
      have closing : [',', ']', '\x7d', '\n'].all (fun d => !d.isDigit) = true := by decide
      simpa using List.all_eq_true.1 closing c (ends c rfl)
    simp [other]

theorem readFraction?_ends (ends : Ends rest) : readFraction? rest = some ([], rest) := by
  cases rest with
  | nil => rfl
  | cons c rest =>
    have closing := ends c rfl
    simp only [List.mem_cons, List.not_mem_nil, or_false] at closing
    rcases closing with rfl | rfl | rfl | rfl <;> rfl

theorem readNumber?_toDigits (ends : Ends rest) :
    readNumber? (Nat.toDigits 10 n ++ rest) = some (.integer n, rest) := by
  obtain ⟨first, others, cut, digit, zero⟩ := exists_digits n
  have unsigned : first ≠ '-' := by
    rintro rfl
    cases digit
  have digits := @spanDigits_toDigits rest n ends
  have value := decimal_toDigits n
  rw [cut] at digits value ⊢
  rw [List.cons_append] at digits ⊢
  unfold readNumber?
  simpa [digits, readFraction?_ends ends, value, unsigned] using zero

theorem readNumber?_negative (ends : Ends rest) (positive : 0 < n) :
    readNumber? ('-' :: (Nat.toDigits 10 n ++ rest)) = some (.integer (-n), rest) := by
  obtain ⟨first, others, cut, -, zero⟩ := exists_digits n
  have digits := @spanDigits_toDigits rest n ends
  have value := decimal_toDigits n
  rw [cut] at digits value ⊢
  rw [List.cons_append] at digits ⊢
  unfold readNumber?
  simpa [digits, readFraction?_ends ends, value, Nat.ne_of_gt positive] using zero

theorem readNumber?_toString (i : Int) (ends : Ends rest) :
    readNumber? ((toString i).toList ++ rest) = some (.integer i, rest) := by
  cases i with
  | ofNat n =>
    rw [toList_toString_ofNat, readNumber?_toDigits ends]
    rfl
  | negSucc n =>
    rw [toList_toString_negSucc, List.cons_append, readNumber?_negative ends (Nat.succ_pos n)]
    rfl

theorem exists_toString (i : Int) : ∃ first others, (toString i).toList = first :: others ∧
    (first.isDigit = true ∨ first = '-') := by
  cases i with
  | ofNat n =>
    obtain ⟨first, others, cut, digit, -⟩ := exists_digits n
    exact ⟨first, others, (toList_toString_ofNat n).trans cut, .inl digit⟩
  | negSucc n => exact ⟨'-', _, toList_toString_negSucc n, .inr rfl⟩

end Numbers

section Tokens

variable {rest : List Char}

theorem readToken?_writeString (s : String) :
    readToken? ((writeString s).toList ++ rest) = some (.scalar (.string s), rest) := by
  have read := @readString_written [] rest s.toList
  rw [List.reverse_nil, List.nil_append, String.ofList_toList] at read
  rw [writeString, String.toList_ofList, List.append_assoc, List.append_assoc,
    List.singleton_append, List.singleton_append, readToken?, read]
  rfl

theorem readToken?_number {first : Char} {s : List Char}
    (begins : first.isDigit = true ∨ first = '-') :
    readToken? (first :: s) =
      (readNumber? (first :: s)).map fun (n, rest) => (.scalar n, rest) := by
  rw [readToken?]
  all_goals
    intro rest same
    obtain rfl := (List.cons.inj same).1
    revert begins
    decide

theorem readToken?_toString (i : Int) (ends : Ends rest) :
    readToken? ((toString i).toList ++ rest) = some (.scalar (.integer i), rest) := by
  obtain ⟨first, others, cut, begins⟩ := exists_toString i
  have read := readNumber?_toString i ends
  rw [cut, List.cons_append] at read ⊢
  rw [readToken?_number begins, read]
  rfl

end Tokens

end FluentWrap.Json
