import FluentWrap.Naming.Derived
import FluentWrap.Naming.Identifier
import FluentWrap.Proofs.Text.Cutting

/-!
What the derived names are: the parameter of an adder's wrapper is the plural of its loop variable,
and the numbered arguments of a factory are identifiers.
-/

set_option autoImplicit false

namespace FluentWrap.Naming

section Plural

theorem uncapitalize_plural (s : String) : uncapitalize (s ++ "s") = uncapitalize s ++ "s" := by
  unfold uncapitalize
  rw [String.toList_append]
  cases s.toList with
  | nil => decide
  | cons c rest =>
    apply String.toList_injective
    simp

/-- The mark of adders does not end in the plural's letter, so that taking it away and putting the
letter on commute. -/
theorem dropPrefix_plural (method : String) :
    dropPrefix adderMark (method ++ "s") = dropPrefix adderMark method ++ "s" := by
  have apart : adderMark.toList.getLast? ≠ some 's' := by decide
  have cut := Text.dropPrefix_concat (s := method.toList) apart
  apply String.toList_injective
  simp only [dropPrefix, String.toList_append, String.toList_ofList]
  exact cut

theorem adderParameter_eq (method : String) :
    adderParameter method = uncapitalize (dropPrefix adderMark method) ++ "s" := by
  rw [adderParameter, adderWrapper, dropPrefix_plural, uncapitalize_plural]

theorem loopVariable_plural (s : String) : loopVariable (s ++ "s") = s := by
  unfold loopVariable dropSuffix
  rw [String.toList_append, Text.dropSuffix_append, String.ofList_toList]

theorem loopVariable_adderParameter (method : String) :
    loopVariable (adderParameter method) = uncapitalize (dropPrefix adderMark method) := by
  rw [adderParameter_eq, loopVariable_plural]

theorem loopVariable_ne_adderParameter (method : String) :
    loopVariable (adderParameter method) ≠ adderParameter method := by
  rw [loopVariable_adderParameter, adderParameter_eq]
  intro same
  have lengths := congrArg String.length same
  rw [String.length_append] at lengths
  have one : "s".length = 1 := rfl
  omega

/-- The parameter of an adder's wrapper is the plural of the loop variable and never the variable
itself. The variable is the method's name without the mark of adders, with its first character lowered,
whatever the name begins or ends with. -/
theorem adder_names (method : String) :
    adderParameter method = loopVariable (adderParameter method) ++ "s" ∧
      loopVariable (adderParameter method) ≠ adderParameter method ∧
      loopVariable (adderParameter method) = uncapitalize (dropPrefix adderMark method) ∧
      ∀ rest, loopVariable (adderParameter (adderMark ++ rest)) = uncapitalize rest := by
  refine ⟨?_, loopVariable_ne_adderParameter method, loopVariable_adderParameter method,
    fun rest => ?_⟩
  · rw [loopVariable_adderParameter, adderParameter_eq]
  · rw [loopVariable_adderParameter, dropPrefix, String.toList_append, Text.dropPrefix_append,
      String.ofList_toList]

/-- The first character may have a lower case of two, and the rest a plural's letter of its own. -/
example : adderParameter "addİs" = "i\u0307ss" ∧ loopVariable "i\u0307ss" = "i\u0307s" := by
  decide +kernel

end Plural

section Identifiers

theorem isIdentifier_getterName : isIdentifier getterName = true := by
  decide

theorem isIdentifierPart_of_isDigit {c : Char} (digit : c.isDigit = true) :
    isIdentifierPart c = true := by
  have ascii : c.toNat < 128 := by
    have bounds : c.toNat ≤ '9'.toNat := (Char.isDigit_iff_toNat.1 digit).2
    have nine : '9'.toNat = 57 := rfl
    omega
  have numeric := Text.isNumeric_of_ascii ascii
  simp [isIdentifierPart, Text.isAlphanumeric, numeric, digit]

theorem factoryArgument_not_reserved (index : Nat) : factoryArgument index ∉ reservedWords := by
  have unlike : ∀ word ∈ reservedWords, "arg".toList.isPrefixOf word.toList = false := by decide
  intro reserved
  have begins := unlike _ reserved
  rw [factoryArgument, String.toList_append] at begins
  have always := List.isPrefixOf_iff_prefix.2
    (List.prefix_append "arg".toList (String.ofList (Nat.toDigits 10 index)).toList)
  rw [begins] at always
  cases always

theorem isIdentifier_factoryArgument (index : Nat) :
    isIdentifier (factoryArgument index) = true := by
  refine isIdentifier_iff.2 ⟨'a', 'r' :: 'g' :: Nat.toDigits 10 index, ?_, by decide, ?_,
    factoryArgument_not_reserved index⟩
  · rw [factoryArgument, String.toList_append]
    exact congrArg ("arg".toList ++ ·) String.toList_ofList
  · intro c member
    rcases List.mem_cons.1 member with rfl | member
    · decide
    · rcases List.mem_cons.1 member with rfl | digit
      · decide
      · exact isIdentifierPart_of_isDigit
          (Nat.isDigit_of_mem_toDigits (by decide) (by decide) digit)

end Identifiers

end FluentWrap.Naming
