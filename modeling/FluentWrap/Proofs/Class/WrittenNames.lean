import FluentWrap.Class.Source
import FluentWrap.Proofs.Class.Declaring
import FluentWrap.Proofs.Plan.Scoping
import FluentWrap.Samples

/-!
Which of the names that a member is written with have been looked at when a class takes it. Its own
name, its parameters, the methods that it calls and the variables of its loops have; the names by which
its body refers to parameters have not. For planned members nothing is lost by that.
-/

set_option autoImplicit false

namespace FluentWrap

namespace Text

theorem exists_intercalate (mark : String) {texts : List String} {name : String}
    (member : name ∈ texts) :
    ∃ front back, mark.intercalate texts = front ++ name ++ back := by
  obtain ⟨before, after, rfl⟩ := List.append_of_mem member
  have behind : ∃ back, mark.intercalate (name :: after) = name ++ back := by
    by_cases last : after = []
    · exact ⟨"", by simp [last]⟩
    · refine ⟨mark ++ mark.intercalate after, ?_⟩
      rw [String.intercalate_cons_of_ne_nil last, String.append_assoc]
  obtain ⟨back, tail⟩ := behind
  by_cases first : before = []
  · exact ⟨"", back, by simp [first, tail]⟩
  · refine ⟨mark.intercalate before ++ mark, back, ?_⟩
    rw [String.intercalate_append_of_ne_nil first (List.cons_ne_nil _ _), tail]
    simp only [String.append_assoc]

end Text

namespace Statement

@[simp] def called : Statement → List String
  | delegateCall method _ | delegateLoop method _ _ _ | returnSelfCall method _ => [method]
  | assignField _ | returnField | constructAndWrap _ | returnSelf => []

def names (s : Statement) : List String :=
  s.called ++ s.introduced ++ s.references

def mapReferences (rename : String → String) : Statement → Statement
  | assignField parameter => assignField (rename parameter)
  | delegateCall method argument => delegateCall method (rename argument)
  | delegateLoop method elementType variableName parameter =>
    delegateLoop method elementType variableName (rename parameter)
  | constructAndWrap arguments => constructAndWrap (arguments.map rename)
  | returnField => returnField
  | returnSelf => returnSelf
  | returnSelfCall method argument => returnSelfCall method argument

theorem usable_iff {parameters : List String} {s : Statement} :
    s.Usable parameters ↔
      (∀ name ∈ s.called, Naming.isIdentifier name = true) ∧
        ∀ name ∈ s.introduced, Naming.isIdentifier name = true ∧ name ∉ parameters := by
  cases s <;> simp [Usable]

end Statement

namespace Member

def mapReferences (rename : String → String) (m : Member) : Member :=
  { m with body := m.body.map (Statement.mapReferences rename) }

structure SoundlyNamed (m : Member) : Prop where
  name : m.kind.isConstructor = false → Naming.isIdentifier m.name = true
  parameters : ∀ name ∈ m.parameterNames, Naming.isIdentifier name = true
  body : ∀ s ∈ m.body, ∀ name ∈ s.names, Naming.isIdentifier name = true
  bound : ∀ s ∈ m.body, ∀ name ∈ s.references, name ∈ m.parameterNames

variable {m : Member}

theorem Usable.isIdentifier_parameter (usable : m.Usable) {name : String}
    (member : name ∈ m.parameterNames) : Naming.isIdentifier name = true := by
  obtain ⟨p, listed, rfl⟩ := List.mem_map.1 member
  exact usable.parameters p listed

/-- Of the names in a body only the references may be no identifiers. -/
theorem Usable.names_iff (usable : m.Usable) :
    (∀ s ∈ m.body, ∀ name ∈ s.names, Naming.isIdentifier name = true) ↔
      ∀ s ∈ m.body, ∀ name ∈ s.references, Naming.isIdentifier name = true := by
  constructor
  · intro named s member name refers
    exact named s member name (List.mem_append_right _ refers)
  · intro referred s member name written
    obtain ⟨called, introduced⟩ := Statement.usable_iff.1 (usable.body s member)
    rw [Statement.names, List.mem_append, List.mem_append] at written
    rcases written with (calls | introduces) | refers
    · exact called name calls
    · exact (introduced name introduces).1
    · exact referred s member name refers

theorem Usable.soundlyNamed_iff (usable : m.Usable) :
    m.SoundlyNamed ↔ ∀ s ∈ m.body, ∀ name ∈ s.references, name ∈ m.parameterNames := by
  constructor
  · intro named
    exact named.bound
  · intro bound
    have referred : ∀ s ∈ m.body, ∀ name ∈ s.references, Naming.isIdentifier name = true :=
      fun s member name refers => usable.isIdentifier_parameter (bound s member name refers)
    exact ⟨usable.name, fun name => usable.isIdentifier_parameter, usable.names_iff.2 referred,
      bound⟩

end Member

namespace ClassDeclaration

variable (c : ClassDeclaration)

section Checking

theorem badName?_mapReferences (parameters : List String) (rename : String → String)
    (s : Statement) :
    badName? parameters (s.mapReferences rename) = badName? parameters s := by
  cases s <;> rfl

theorem badIdentifier?_mapReferences (rename : String → String) (m : Member) :
    badIdentifier? (m.mapReferences rename) = badIdentifier? m := by
  have body : (m.mapReferences rename).body.findSome?
        (badName? (m.parameters.map FormalParameter.name)) =
      m.body.findSome? (badName? (m.parameters.map FormalParameter.name)) := by
    rw [Member.mapReferences, List.findSome?_map]
    congr 1
    funext s
    exact badName?_mapReferences _ rename s
  unfold badIdentifier?
  dsimp only [Member.mapReferences] at body ⊢
  rw [body]
  rfl

/-- Whether a class takes a member, and with which error it refuses it, does not depend on what the
body refers to. -/
theorem declare_mapReferences (rename : String → String) (m : Member) :
    (c.declare (m.mapReferences rename)).1 = (c.declare m).1 := by
  have key : (m.mapReferences rename).key = m.key := rfl
  have shown : (m.mapReferences rename).signatureDisplay = m.signatureDisplay := rfl
  -- Whether it is there already is asked by its name and the types of its parameters.
  unfold declare
  rw [badIdentifier?_mapReferences, key, shown]
  split
  · rfl
  · split <;> rfl

theorem usable_of_declare {m : Member} (taken : (c.declare m).1 = .ok ()) : m.Usable := by
  rcases c.declare_outcome m with ⟨usable, -, -⟩ | ⟨-, e, refused⟩
  · exact usable
  · rw [refused] at taken
    cases taken

end Checking

section Writing

variable {name : String}

theorem exists_line {s : Statement} (member : name ∈ s.names) :
    ∃ line ∈ c.statementLines s, ∃ front back, line = front ++ name ++ back := by
  cases s with
  | assignField parameter =>
    obtain rfl : name = parameter := by simpa [Statement.names] using member
    refine ⟨_, List.mem_cons_self, indent 2 ("this." ++ c.fieldName ++ " = "), ";", ?_⟩
    simp only [indent, String.append_assoc]
  | returnField | returnSelf => simp [Statement.names] at member
  | delegateCall method argument =>
    refine ⟨_, List.mem_cons_self, ?_⟩
    obtain rfl | rfl : name = method ∨ name = argument := by
      simpa [Statement.names] using member
    · refine ⟨indent 2 ("this." ++ c.fieldName ++ "."), "(" ++ argument ++ ");", ?_⟩
      simp only [indent, String.append_assoc]
    · refine ⟨indent 2 ("this." ++ c.fieldName ++ "." ++ method ++ "("), ");", ?_⟩
      simp only [indent, String.append_assoc]
  | delegateLoop method elementType variableName parameter =>
    obtain rfl | rfl | rfl : name = method ∨ name = variableName ∨ name = parameter := by
      simpa [Statement.names] using member
    · -- The call stands in the second line, the other names in the head of the loop.
      refine ⟨_, List.mem_cons_of_mem _ List.mem_cons_self,
        indent 3 ("this." ++ c.fieldName ++ "."), "(" ++ variableName ++ ");", ?_⟩
      simp only [indent, String.append_assoc]
    · refine ⟨_, List.mem_cons_self, indent 2 ("for (" ++ c.spell elementType ++ " "),
        " : " ++ parameter ++ ") \x7b", ?_⟩
      simp only [indent, String.append_assoc]
    · refine ⟨_, List.mem_cons_self,
        indent 2 ("for (" ++ c.spell elementType ++ " " ++ variableName ++ " : "), ") \x7b", ?_⟩
      simp only [indent, String.append_assoc]
  | constructAndWrap arguments =>
    have passed : name ∈ arguments := by simpa [Statement.names] using member
    -- The arguments stand in the line as one joined text.
    obtain ⟨front, back, joined⟩ := Text.exists_intercalate ", " passed
    refine ⟨_, List.mem_cons_self, indent 2 ("return new " ++ c.name.simpleName ++ "(new "
      ++ c.spell c.delegateType ++ "(") ++ front, back ++ "));", ?_⟩
    rw [joined]
    simp only [indent, String.append_assoc]
  | returnSelfCall method argument =>
    obtain rfl : name = method := by simpa [Statement.names] using member
    refine ⟨_, List.mem_cons_self, indent 2 "return this.",
      "(" ++ (if argument then "true" else "false") ++ ");", ?_⟩
    simp only [indent, String.append_assoc]

end Writing

/-- Of a member that a class takes, its own name, its parameters, the methods it calls and its
variables have been looked at; what its body refers to has not, and may be anything. So all the names
in its code are identifiers exactly if the references are, and it is soundly named exactly if they are
its parameters, as those of planned members are. -/
theorem declare_names (m : Member) (taken : (c.declare m).1 = .ok ()) :
    m.Usable ∧
      (∀ rename, (c.declare (m.mapReferences rename)).1 = .ok ()) ∧
      ((∀ s ∈ m.body, ∀ name ∈ s.names, Naming.isIdentifier name = true) ↔
        ∀ s ∈ m.body, ∀ name ∈ s.references, Naming.isIdentifier name = true) ∧
      (m.SoundlyNamed ↔ ∀ s ∈ m.body, ∀ name ∈ s.references, name ∈ m.parameterNames) ∧
      (∀ (planner : Planner) (source : SourceType),
        m ∈ (planner.plan source).members → m.SoundlyNamed) ∧
      ∀ s ∈ m.body, ∀ name ∈ s.names,
        ∃ line ∈ c.statementLines s, ∃ front back, line = front ++ name ++ back := by
  have usable := c.usable_of_declare taken
  refine ⟨usable, fun rename => ?_, usable.names_iff, usable.soundlyNamed_iff, ?_, ?_⟩
  · rw [c.declare_mapReferences, taken]
  · intro planner source member
    have closed := Planner.closed_of_produces (Planner.mem_members_plan.1 member)
    exact usable.soundlyNamed_iff.2 closed.bound
  · intro s _ name written
    exact c.exists_line written

end ClassDeclaration

namespace Samples

def emptyClass : ClassDeclaration :=
  ⟨⟨"a", "FluentX"⟩, .class "a.X", "x", none, [], []⟩

/-- The wrapper of a setter that passes something else on than its parameter. -/
def passing (argument : String) : Member :=
  { Template.setterWrapper "setSize" int with
    body := [.delegateCall "setSize" argument, .returnSelf] }

end Samples

namespace ClassDeclaration

open Samples

theorem declare_names_size :
    let m := passing "size"
    (emptyClass.declare m).1 = .ok () ∧ m.Usable ∧
      (∀ rename, (emptyClass.declare (m.mapReferences rename)).1 = .ok ()) ∧
      ((∀ s ∈ m.body, ∀ name ∈ s.names, Naming.isIdentifier name = true) ↔
        ∀ s ∈ m.body, ∀ name ∈ s.references, Naming.isIdentifier name = true) ∧
      (m.SoundlyNamed ↔ ∀ s ∈ m.body, ∀ name ∈ s.references, name ∈ m.parameterNames) ∧
      (∀ (planner : Planner) (source : SourceType),
        m ∈ (planner.plan source).members → m.SoundlyNamed) ∧
      ∀ s ∈ m.body, ∀ name ∈ s.names,
        ∃ line ∈ emptyClass.statementLines s, ∃ front back, line = front ++ name ++ back := by
  intro m
  have taken : (emptyClass.declare m).1 = .ok () := by decide +kernel
  exact ⟨taken, emptyClass.declare_names m taken⟩

theorem two_words_passed :
    ∃ declared, emptyClass.declare (passing "the size") = (.ok (), declared) ∧
      "        this.x.setSize(the size);" ∈ declared.sourceLines ∧
      Naming.isIdentifier "the size" = false ∧
      "the size" ∉ (passing "the size").parameterNames ∧ ¬ (passing "the size").SoundlyNamed := by
  have taken : ∃ declared, emptyClass.declare (passing "the size") = (.ok (), declared) ∧
      "        this.x.setSize(the size);" ∈ declared.sourceLines := by
    refine ⟨(emptyClass.declare (passing "the size")).2, ?_⟩
    decide +kernel
  have unbound : "the size" ∉ (passing "the size").parameterNames := by decide
  obtain ⟨declared, accepted, written⟩ := taken
  refine ⟨declared, accepted, written, by decide +kernel, unbound, fun sound => unbound ?_⟩
  exact sound.bound _ List.mem_cons_self _ List.mem_cons_self

end ClassDeclaration

end FluentWrap
