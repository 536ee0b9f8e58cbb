import FluentWrap.Proofs.Generator.Independence

/-!
Which types of a run are added. A type is refused only for a reason that concerns this type alone;
the classes of the others stand in the order of the calls, each as its type would have it alone.
-/

set_option autoImplicit false

namespace FluentWrap

section Refusals

variable {e : Error}

theorem ClassDeclaration.isTypeScoped_of_open? {name : QualifiedName} {delegateType : TypeRef}
    {fieldName : String} (refused : open? name delegateType fieldName = .error e) :
    e.isTypeScoped = true := by
  unfold open? at refused
  split at refused
  · obtain rfl := Except.error.inj refused
    rfl
  · split at refused
    · obtain rfl := Except.error.inj refused
      rfl
    · split at refused
      · obtain rfl := Except.error.inj refused
        rfl
      · cases refused

theorem ClassDeclaration.isTypeScoped_of_declare {c : ClassDeclaration} {m : Member}
    (refused : (c.declare m).1 = .error e) : e.isTypeScoped = true := by
  unfold declare at refused
  split at refused
  · obtain rfl := Except.error.inj refused
    rfl
  · split at refused
    · obtain rfl := Except.error.inj refused
      rfl
    · cases refused

theorem ClassDeclaration.isTypeScoped_of_declareAll {c : ClassDeclaration} {members : List Member}
    (refused : (c.declareAll members).1 = .error e) : e.isTypeScoped = true := by
  induction members generalizing c with
  | nil => cases refused
  | cons m rest ih =>
    rw [declareAll] at refused
    split at refused
    · next declared =>
      obtain rfl := Except.error.inj refused
      exact isTypeScoped_of_declare (congrArg Prod.fst declared)
    · exact ih refused

theorem CodeModel.isTypeScoped_of_stage {model : CodeModel} {plan : Plan}
    (refused : model.stage plan = .error e) : e.isTypeScoped = true := by
  unfold stage at refused
  split at refused
  · obtain rfl := Except.error.inj refused
    rfl
  · split at refused
    · next opened =>
      obtain rfl := Except.error.inj refused
      exact ClassDeclaration.isTypeScoped_of_open? opened
    · split at refused
      · next declared =>
        obtain rfl := Except.error.inj refused
        exact ClassDeclaration.isTypeScoped_of_declareAll (congrArg Prod.fst declared)
      · cases refused

end Refusals

namespace Generator

def succeeded : List SourceType → List (Except Error QualifiedName) → List SourceType
  | source :: sources, .ok _ :: results => source :: succeeded sources results
  | _ :: sources, .error _ :: results => succeeded sources results
  | _, _ => []

variable {g : Generator} {planner : Planner} {stamp : Option Stamp} {added : List SourceType}

theorem isTypeScoped_of_add {source : SourceType} {e : Error}
    (refused : (g.add source).1 = .error e) : e.isTypeScoped = true := by
  cases staged : g.model.stage (g.plan source) with
  | error e' =>
    rw [add_refused staged] at refused
    obtain rfl := Except.error.inj refused
    exact CodeModel.isTypeScoped_of_stage staged
  | ok c =>
    rw [add_staged staged] at refused
    cases refused

theorem classes_add {source : SourceType} {c : ClassDeclaration}
    (staged : g.model.stage (g.plan source) = .ok c) :
    (g.add source).2.model.classes = g.model.classes ++ [c] := by
  rw [add_staged staged, CodeModel.define_ok staged]

/-- The classes of a run are those of the types that were added, in the order of the calls. -/
theorem Built.addAll (built : g.Built planner stamp added)
    (own : List.Forall₂ (fun source c => planner.classOf stamp source = .ok c) added
      g.model.classes) (sources : List SourceType) :
    ∃ all, (g.addAll sources).2.Built planner stamp all ∧
      all = added ++ succeeded sources (g.addAll sources).1 ∧
      List.Forall₂ (fun source c => planner.classOf stamp source = .ok c) all
        (g.addAll sources).2.model.classes := by
  induction sources generalizing g added with
  | nil => exact ⟨added, built, (List.append_nil added).symm, own⟩
  | cons source rest ih =>
    rw [addAll_cons]
    by_cases taken : planner.generatedName source ∈ g.model.names
    · rw [built.add_taken taken]
      exact ih built own
    · cases alone : planner.classOf stamp source with
      | error e =>
        rw [built.add_error taken alone]
        exact ih built own
      | ok c =>
        obtain ⟨result, -, next⟩ := built.add_ok taken alone
        -- What the model stages is the class that the type would have alone.
        have staged := (built.stage source).trans ((if_neg taken).trans alone)
        have grown : List.Forall₂ (fun source c => planner.classOf stamp source = .ok c)
            (added ++ [source]) (g.add source).2.model.classes := by
          rw [classes_add staged]
          exact List.rel_append own (.cons alone .nil)
        obtain ⟨all, final, whole, paired⟩ := ih next grown
        refine ⟨all, final, ?_, paired⟩
        rw [whole, result, succeeded, List.append_assoc]
        rfl

end Generator

end FluentWrap
