import FluentWrap.Config.Planning
import FluentWrap.Config.Validation
import FluentWrap.Proofs.Text.Cutting
import FluentWrap.Proofs.TypeRef.Grammar

/-!
The rules for settings. The problems that are told of are those of the violated rules, each once and
in the order of the rules. Settings without problems have a pattern, and plan into the packages of the
sources or into one package.
-/

set_option autoImplicit false

namespace FluentWrap

namespace Naming

theorem trim_package {package : String} (packaged : isPackage package = true) :
    Text.trim package.toList = package.toList :=
  Text.trim_of_no_blank fun _ member => TypeRef.isBlank_of_isNamePart
    (TypeRef.mem_of_isQualified (isQualified_of_isPackage packaged) member)

end Naming

namespace NamePattern

variable {text : String} {problem : Problem}

theorem markCount_eq (text : String) :
    markCount text = (text.toList.zip text.toList.tail).count ('%', 's') :=
  Text.countPairs_eq (by decide) text.toList

theorem ofText_eq_error_iff : ofText text = .error problem ↔
    Text.isBlankText text = true ∧ problem = .blank ∨
      Text.isBlankText text = false ∧ markCount text ≠ 2 ∧
        problem = .marks text (markCount text) := by
  unfold ofText
  by_cases blank : Text.isBlankText text = true
  · simp [blank, eq_comm]
  · by_cases marks : markCount text = 2
    · simp [blank, marks]
    · simp [blank, marks, eq_comm]

theorem text_of_ofText {pattern : NamePattern} (given : ofText text = .ok pattern) :
    pattern.text = text := by
  unfold ofText at given
  split at given
  · cases given
  · split at given
    · obtain rfl := Except.ok.inj given
      rfl
    · cases given

end NamePattern

namespace Config

inductive Violates (config : Config) : Problem → Prop where
  | blankTarget : Text.isBlankText config.targetDirectory.text = true →
      Violates config .blankTarget
  | blankPattern : Text.isBlankText config.namePattern = true →
      Violates config (.pattern .blank)
  | marks {found : Nat} : Text.isBlankText config.namePattern = false →
      (config.namePattern.toList.zip config.namePattern.toList.tail).count ('%', 's') = found →
      found ≠ 2 → Violates config (.pattern (.marks config.namePattern found))
  | rootPackage : Text.isBlankText config.rootPackage = false →
      Naming.isPackage config.rootPackage = false →
      Violates config (.rootPackage config.rootPackage)
  | blankIgnored {name : String} : config.ignoredMethods.contains name = true →
      Text.isBlankText name = true → Violates config .blankIgnored

def Problem.rank : Problem → Nat
  | blankTarget => 0
  | pattern _ => 1
  | rootPackage _ => 2
  | blankIgnored => 3

variable {config : Config} {problem : Problem} {pattern : NamePattern}

section Problems

theorem mem_targetProblems : problem ∈ config.targetProblems ↔
    problem = .blankTarget ∧ Text.isBlankText config.targetDirectory.text = true := by
  unfold targetProblems
  split <;> simp_all

theorem mem_patternProblems : problem ∈ config.patternProblems ↔
    ∃ p, NamePattern.ofText config.namePattern = .error p ∧ problem = .pattern p := by
  unfold patternProblems NamePattern.problem?
  cases NamePattern.ofText config.namePattern <;> simp [eq_comm]

theorem mem_rootPackageProblems : problem ∈ config.rootPackageProblems ↔
    problem = .rootPackage config.rootPackage ∧ Text.isBlankText config.rootPackage = false ∧
      Naming.isPackage config.rootPackage = false := by
  unfold rootPackageProblems
  cases Text.isBlankText config.rootPackage <;> cases Naming.isPackage config.rootPackage <;> simp

theorem mem_ignoredProblems : problem ∈ config.ignoredProblems ↔
    problem = .blankIgnored ∧ ∃ name, config.ignoredMethods.contains name = true ∧
      Text.isBlankText name = true := by
  unfold ignoredProblems
  split <;> simp_all [NameSet.contains]

theorem mem_problems : problem ∈ config.problems ↔ config.Violates problem := by
  unfold problems
  simp only [List.mem_append, mem_targetProblems, mem_patternProblems, mem_rootPackageProblems,
    mem_ignoredProblems, NamePattern.ofText_eq_error_iff, NamePattern.markCount_eq]
  constructor
  · rintro (((⟨rfl, blank⟩ | ⟨p, ⟨blank, rfl⟩ | ⟨filled, marks, rfl⟩, rfl⟩) | ⟨rfl, filled, other⟩) |
      ⟨rfl, name, ignored, blank⟩)
    · exact .blankTarget blank
    · exact .blankPattern blank
    · exact .marks filled rfl marks
    · exact .rootPackage filled other
    · exact .blankIgnored ignored blank
  · intro violates
    cases violates with
    | blankTarget blank => exact .inl (.inl (.inl ⟨rfl, blank⟩))
    | blankPattern blank => exact .inl (.inl (.inr ⟨_, .inl ⟨blank, rfl⟩, rfl⟩))
    | marks filled counted other =>
      subst counted
      exact .inl (.inl (.inr ⟨_, .inr ⟨filled, other, rfl⟩, rfl⟩))
    | rootPackage filled other => exact .inl (.inr ⟨rfl, filled, other⟩)
    | blankIgnored ignored blank => exact .inr ⟨rfl, _, ignored, blank⟩

theorem problems_increasing (config : Config) :
    config.problems.Pairwise fun a b => a.rank < b.rank := by
  have target : (config.targetProblems.map Problem.rank).Sublist [0] := by
    unfold targetProblems
    split <;> simp [Problem.rank]
  have pattern : (config.patternProblems.map Problem.rank).Sublist [1] := by
    unfold patternProblems
    cases NamePattern.problem? config.namePattern <;> simp [Problem.rank]
  have rootPackage : (config.rootPackageProblems.map Problem.rank).Sublist [2] := by
    unfold rootPackageProblems
    split <;> simp [Problem.rank]
  have ignored : (config.ignoredProblems.map Problem.rank).Sublist [3] := by
    unfold ignoredProblems
    split <;> simp [Problem.rank]
  have ranks : (config.problems.map Problem.rank).Sublist [0, 1, 2, 3] := by
    simp only [problems, List.map_append]
    exact ((target.append pattern).append rootPackage).append ignored
  have ordered : [0, 1, 2, 3].Pairwise (· < ·) := by decide
  exact List.pairwise_map.1 (ordered.sublist ranks)

/-- No rule is kept. -/
example : problems ⟨"com..bad", ⟨" "⟩, "Fluent%s", .ofList [""], true⟩ =
    [.blankTarget, .pattern (.marks "Fluent%s" 1), .rootPackage "com..bad", .blankIgnored] := by
  decide +kernel

end Problems

section Valid

theorem validate_eq (config : Config) : config.validate =
    if config.problems = [] then .ok () else .error (problemsError config.problems) := by
  unfold validate
  split
  · next none => rw [if_pos none]
  · next some => rw [if_neg some]

theorem validate_ok_iff : config.validate = .ok () ↔ ∀ problem, ¬ config.Violates problem := by
  have none : config.problems = [] ↔ ∀ problem, ¬ config.Violates problem := by
    simp only [List.eq_nil_iff_forall_not_mem, mem_problems]
  rw [validate_eq, ← none]
  split <;> simp_all

theorem exists_pattern (valid : config.validate = .ok ()) :
    ∃ pattern, config.pattern = .ok pattern := by
  unfold Config.pattern
  cases given : NamePattern.ofText config.namePattern with
  | ok pattern => exact ⟨pattern, rfl⟩
  | error problem =>
    have told := mem_patternProblems.2 ⟨problem, given, rfl⟩
    refine absurd (mem_problems.1 ?_) (validate_ok_iff.1 valid (.pattern problem))
    exact List.mem_append_left _ (List.mem_append_left _ (List.mem_append_right _ told))

theorem text_of_pattern (named : config.pattern = .ok pattern) :
    pattern.text = config.namePattern := by
  unfold Config.pattern at named
  cases given : NamePattern.ofText config.namePattern with
  | error problem =>
    rw [given] at named
    cases named
  | ok other =>
    rw [given] at named
    obtain rfl := Except.ok.inj named
    exact NamePattern.text_of_ofText given

/-- Blanks around a root package cannot hide that it is none. -/
theorem rootPackage_planner (valid : config.validate = .ok ()) (pattern : NamePattern) :
    (config.planner pattern).rootPackage = "" ∨
      Naming.isPackage (config.planner pattern).rootPackage = true := by
  by_cases blank : Text.isBlankText config.rootPackage = true
  · left
    have nothing := Text.trim_append_blanks (s := []) (List.all_eq_true.1 blank)
    rw [planner, ← List.nil_append config.rootPackage.toList, nothing]
    rfl
  · right
    have packaged : Naming.isPackage config.rootPackage = true := by
      by_contra other
      exact validate_ok_iff.1 valid _ (.rootPackage (by simpa using blank) (by simpa using other))
    rw [planner, Naming.trim_package packaged, String.ofList_toList]
    exact packaged

end Valid

end Config

end FluentWrap
