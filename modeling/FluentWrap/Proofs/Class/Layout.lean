import FluentWrap.Class.Source
import FluentWrap.Proofs.Class.Overloads
import FluentWrap.Proofs.Class.WrittenNames
import FluentWrap.Proofs.Text.Nesting

/-!
The lines of a source file with the depth at which each of them stands. If no name, type or comment
of a class brings a brace or a line end with it, the lines lead from depth zero through those depths
back to zero: one step for the class, one for the body of a member, one for the body of a loop.
-/

set_option autoImplicit false

namespace FluentWrap

/-- Where the lines of a statement stand; the end of a loop still stands in its body. -/
def Statement.depths : Statement → List Nat
  | delegateLoop _ _ _ _ => [2, 3, 3]
  | assignField _ | returnField | delegateCall _ _ | constructAndWrap _ | returnSelf
  | returnSelfCall _ _ => [2]

namespace ClassDeclaration

def preamble (c : ClassDeclaration) : List String :=
  c.packageLines ++ c.importLines ++ c.stampLines

def classLine (c : ClassDeclaration) : String :=
  "public final class " ++ c.name.simpleName ++ " \x7b"

def memberLine (c : ClassDeclaration) (m : Member) : String :=
  if m.kind.isField then c.fieldLine m else c.headerLine m

def statementLayout (c : ClassDeclaration) (s : Statement) : List (Nat × String) :=
  s.depths.zip (c.statementLines s)

def bodyLayout (c : ClassDeclaration) (m : Member) : List (Nat × String) :=
  if m.kind.isField then []
  else m.body.flatMap c.statementLayout ++ [(2, indent 1 "\x7d")]

def memberLayout (c : ClassDeclaration) (m : Member) : List (Nat × String) :=
  ((m.javadoc.map javadocLines).getD []).map (1, ·) ++ (1, c.memberLine m) :: c.bodyLayout m

def layout (c : ClassDeclaration) : List (Nat × String) :=
  (c.preamble ++ [c.classLine]).map (0, ·)
    ++ (c.members.flatMap fun m => (1, "") :: c.memberLayout m)
    ++ [(1, "\x7d")]

variable {c : ClassDeclaration} {m : Member}

section Lines

theorem map_snd_statementLayout (s : Statement) :
    (c.statementLayout s).map Prod.snd = c.statementLines s := by
  cases s <;> rfl

theorem map_snd_noted {depth : Nat} (lines : List String) :
    (lines.map (depth, ·)).map Prod.snd = lines := by
  rw [List.map_map]
  exact List.map_id' lines

theorem map_snd_memberLayout (m : Member) :
    (c.memberLayout m).map Prod.snd = c.memberLines m := by
  have body : (m.body.flatMap c.statementLayout).map Prod.snd =
      m.body.flatMap c.statementLines := by
    rw [List.map_flatMap]
    simp only [map_snd_statementLayout]
  rw [memberLayout, memberLines, List.map_append, map_snd_noted, List.map_cons, memberLine,
    bodyLayout]
  split
  · rfl
  · rw [List.map_append, body]
    rfl

theorem map_snd_layout (c : ClassDeclaration) : c.layout.map Prod.snd = c.sourceLines := by
  have members : (c.members.flatMap fun m => (1, "") :: c.memberLayout m).map Prod.snd =
      c.members.flatMap fun m => "" :: c.memberLines m := by
    rw [List.map_flatMap]
    simp only [List.map_cons, map_snd_memberLayout]
  rw [layout, List.map_append, List.map_append, map_snd_noted, members]
  rfl

theorem joined_layout (c : ClassDeclaration) : Text.joined c.layout = c.source.toList := by
  rw [source, ← map_snd_layout, String.toList_join, List.map_map, List.flatMap_map, Text.joined]
  simp only [Function.comp_apply, String.toList_append]
  rfl

end Lines

end ClassDeclaration

structure Member.Printable (m : Member) : Prop where
  modified : m.modifiers ≠ []
  name : Text.Tidy m.name
  parameters : ∀ name ∈ m.parameterNames, Text.Tidy name
  body : ∀ s ∈ m.body, ∀ name ∈ s.names, Text.Tidy name
  javadoc : ∀ text ∈ m.javadoc, Text.Tidy text

namespace ClassDeclaration

structure Printable (c : ClassDeclaration) : Prop where
  package : Text.Tidy c.name.package
  simpleName : Text.Tidy c.name.simpleName
  fieldName : Text.Tidy c.fieldName
  types : ∀ name, c.Refers (.class name) → Text.Tidy name
  stamp : ∀ a ∈ c.stamp, Text.Tidy a.value ∧ Text.Tidy a.date
  members : ∀ m ∈ c.members, m.Printable

variable {c : ClassDeclaration} {m : Member}

section Names

open Text

theorem tidy_canonicalClass {name : String} (tidy : Tidy name) :
    Tidy (TypeRef.canonicalClass name) := by
  rw [TypeRef.canonicalClass, tidy_ofList]
  intro d member
  obtain ⟨e, inside, rfl⟩ := List.mem_map.1 member
  split
  · decide
  · exact tidy e inside

theorem tidy_shortName {name : String} (tidy : Tidy name) : Tidy (c.shortName name) := by
  unfold shortName
  split
  · rw [Referenced.lastSegment, tidy_ofList]
    exact fun d member => tidy d ((Text.afterLast_suffix _ _).subset member)
  · exact tidy

theorem tidy_spell {t : TypeRef} (named : ∀ name, t.base = .class name → Tidy name) :
    Tidy (c.spell t) := by
  induction t with
  | primitive p =>
    rw [spell_primitive]
    cases p <;> decide
  | «class» name => exact tidy_shortName (tidy_canonicalClass (named name rfl))
  | array element ih =>
    rw [spell, tidy_append]
    exact ⟨ih named, by decide⟩

theorem tidy_blanks (level : Nat) : Tidy (String.ofList (List.replicate (4 * level) ' ')) := by
  rw [tidy_ofList]
  intro d member
  rw [List.eq_of_mem_replicate member]
  decide

theorem tidy_indent {level : Nat} {text : String} : Tidy (indent level text) ↔ Tidy text := by
  rw [indent, tidy_append]
  exact and_iff_right (tidy_blanks level)

theorem tidy_javadocLines {text : String} (tidy : Tidy text) :
    ∀ line ∈ javadocLines text, Tidy line := by
  have one : '\n' ∉ text.toList := fun feed => tidy _ feed (by decide)
  simp only [javadocLines, List.forall_mem_append, List.forall_mem_singleton, List.forall_mem_map,
    tidy_indent]
  refine ⟨⟨by decide, fun line member => ?_⟩, by decide⟩
  rw [lines_of_absent one] at member
  split at member
  · cases member
  · rw [List.mem_singleton.1 member, String.ofList_toList, tidy_append]
    exact ⟨by decide, tidy⟩

theorem tidy_modifiersCode (modifiers : List Modifier) : Tidy (modifiersCode modifiers) := by
  refine tidy_intercalate (by decide) fun text member => ?_
  obtain ⟨modifier, -, rfl⟩ := List.mem_map.1 member
  cases modifier <;> decide

namespace Printable

theorem spell (printable : c.Printable) {t : TypeRef} (refers : c.Refers t.base) :
    Tidy (c.spell t) :=
  tidy_spell fun name same => printable.types name (same ▸ refers)

theorem spellResult (printable : c.Printable) (result : ResultType) :
    Tidy (c.spellResult result) := by
  cases result with
  | wrapper => exact printable.simpleName
  | delegate => exact printable.spell .delegate

theorem parametersCode (printable : c.Printable) (member : m ∈ c.members) :
    Tidy (c.parametersCode m.parameters) := by
  refine tidy_intercalate (by decide) fun text listed => ?_
  obtain ⟨p, parameter, rfl⟩ := List.mem_map.1 listed
  have type := printable.spell (.parameter member parameter)
  have name := (printable.members m member).parameters p.name (List.mem_map_of_mem parameter)
  have final : Tidy (if p.isFinal then "final " else "") := by split <;> decide
  have dots : Tidy (if p.varargs then "..." else "") := by split <;> decide
  simp +decide only [parameterCode, tidy_append, final, type, dots, name, and_self]

theorem preamble (printable : c.Printable) : ∀ line ∈ c.preamble, Tidy line := by
  unfold ClassDeclaration.preamble
  simp only [List.forall_mem_append]
  refine ⟨⟨?_, ?_⟩, ?_⟩
  · unfold packageLines
    split
    · nofun
    · simp +decide [printable.package]
  · unfold importLines
    split
    · nofun
    · simp only [List.forall_mem_append, List.forall_mem_map, List.forall_mem_singleton]
      refine ⟨fun imported listed => ?_, by decide⟩
      obtain ⟨name, mentioned, rfl, -, -⟩ := mem_imports.1 listed
      have tidy : Tidy name := by
        cases mentioned with
        | referred refers => exact printable.types name refers
        | stamp => decide
      simp +decide only [tidy_append, tidy_canonicalClass tidy, and_self]
  · unfold stampLines
    split
    · nofun
    · next a stamped =>
      obtain ⟨value, date⟩ := printable.stamp a stamped
      have name : Tidy (c.shortName Referenced.stamp.canonicalName) := tidy_shortName (by decide)
      simp +decide [name, value, date]

theorem fieldLine (printable : c.Printable) (member : m ∈ c.members) : Tidy (c.fieldLine m) := by
  have modifiers := tidy_modifiersCode m.modifiers
  have type := printable.spellResult (m.returns.getD .delegate)
  have name := (printable.members m member).name
  rw [ClassDeclaration.fieldLine, tidy_indent]
  simp +decide only [tidy_append, modifiers, type, name, and_self]

end Printable

end Names

section Depths

open Text

theorem leads_indent {before after level : Nat} {line : String} (leads : Leads before line after) :
    Leads before (indent level line) after :=
  .behind (tidy_blanks level) leads

theorem leads_opening (depth : Nat) : Leads depth ") \x7b" (depth + 1) :=
  .opens (by decide) (by decide) (by decide) depth

theorem leads_closing (depth : Nat) : Leads (depth + 1) "\x7d" depth :=
  .closing (by decide) (by decide) (by decide) depth

namespace Printable

theorem headerLine (printable : c.Printable) (member : m ∈ c.members) (depth : Nat) :
    Leads depth (c.headerLine m) (depth + 1) := by
  have modifiers := tidy_modifiersCode m.modifiers
  have name := (printable.members m member).name
  have parameters := printable.parametersCode member
  unfold ClassDeclaration.headerLine
  extract_lets head
  -- In front of the parameters stands the name of the class, or a result and the member's name.
  have named : Tidy head := by
    unfold head
    split
    · exact printable.simpleName
    · split
      · simp +decide only [tidy_append, printable.spellResult, name, and_self]
      · simp +decide only [tidy_append, name, and_self]
  refine leads_indent (.behind ?_ (leads_opening depth))
  simp +decide only [tidy_append, modifiers, named, parameters, and_self]

/-- A statement ends at the depth at which it begins; only a loop goes deeper in between. -/
theorem steps_statement (printable : c.Printable) (member : m ∈ c.members) {s : Statement}
    (stands : s ∈ m.body) : Steps 2 (c.statementLayout s) 2 := by
  have field := printable.fieldName
  have names := (printable.members m member).body s stands
  cases s with
  | assignField parameter =>
    have parameter := names parameter (by simp [Statement.names])
    refine .single (.of_tidy (tidy_indent.2 ?_) 2)
    simp +decide only [tidy_append, field, parameter, and_self]
  | returnField =>
    refine .single (.of_tidy (tidy_indent.2 ?_) 2)
    simp +decide only [tidy_append, field, and_self]
  | delegateCall method argument =>
    have method := names method (by simp [Statement.names])
    have argument := names argument (by simp [Statement.names])
    refine .single (.of_tidy (tidy_indent.2 ?_) 2)
    simp +decide only [tidy_append, field, method, argument, and_self]
  | delegateLoop method elementType variableName parameter =>
    have type := printable.spell (.loopElement member stands)
    have method := names method (by simp [Statement.names])
    have variableName := names variableName (by simp [Statement.names])
    have parameter := names parameter (by simp [Statement.names])
    -- The head opens the body, the call stands in it, and the last line closes it.
    refine .cons (leads_indent (.behind ?_ (leads_opening 2))) (.cons (.of_tidy
      (tidy_indent.2 ?_) 3) (.single (leads_indent (leads_closing 2))))
    · simp +decide only [tidy_append, type, variableName, parameter, and_self]
    · simp +decide only [tidy_append, field, method, variableName, and_self]
  | constructAndWrap arguments =>
    have type := printable.spell .delegate
    have arguments : Tidy (", ".intercalate arguments) :=
      tidy_intercalate (by decide) fun name passed => names name (by simp [Statement.names, passed])
    refine .single (.of_tidy (tidy_indent.2 ?_) 2)
    simp +decide only [tidy_append, printable.simpleName, type, arguments, and_self]
  | returnSelf => exact .single (.of_tidy (tidy_indent.2 (by decide)) 2)
  | returnSelfCall method argument =>
    have method := names method (by simp [Statement.names])
    have argument : Tidy (if argument then "true" else "false") := by split <;> decide
    refine .single (.of_tidy (tidy_indent.2 ?_) 2)
    simp +decide only [tidy_append, method, argument, and_self]

theorem steps_body (printable : c.Printable) (member : m ∈ c.members) :
    Steps 1 ((1, c.memberLine m) :: c.bodyLayout m) 1 := by
  unfold memberLine bodyLayout
  split
  · exact .single (.of_tidy (printable.fieldLine member) 1)
  · refine .cons (printable.headerLine member 1) (.append (.flatMap fun s stands => ?_) ?_)
    · exact printable.steps_statement member stands
    · exact .single (leads_indent (leads_closing 1))

theorem steps_member (printable : c.Printable) (member : m ∈ c.members) :
    Steps 1 (c.memberLayout m) 1 := by
  refine .append (.of_tidy ?_ 1) (printable.steps_body member)
  cases javadoc : m.javadoc with
  | none => nofun
  | some text => exact tidy_javadocLines ((printable.members m member).javadoc text javadoc)

theorem steps_layout (printable : c.Printable) : Steps 0 c.layout 0 := by
  have classLine : Leads 0 c.classLine 1 := by
    refine .behind ?_ (.opens (by decide) (by decide) (by decide) 0)
    simp +decide only [tidy_append, printable.simpleName, and_self]
  rw [layout, List.map_append]
  refine .append (.append (.append (.of_tidy printable.preamble 0) (.single classLine))
    (.flatMap fun m member => ?_)) (.single (leads_closing 0))
  exact .cons (.of_tidy (by decide) 1) (printable.steps_member member)

end Printable

end Depths

end ClassDeclaration

end FluentWrap
