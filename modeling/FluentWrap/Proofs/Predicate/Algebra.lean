import FluentWrap.Predicate

/-!
Predicates form a Boolean algebra: what a combination of predicates says of a member is the same
combination of what its parts say. The combinators rewrite the predicates they are given.
Conjunctions and disjunctions are dissolved or extended in place, and a negation is undone rather
than negated again. Two predicates with one meaning therefore often differ in shape, and
everything here is said of meanings.
-/

set_option autoImplicit false

namespace FluentWrap.Predicate

variable {Test Member : Type} [Testing Test Member] (member : Member)

section Combinators

/-! A predicate means the conjunction of its conjuncts and the disjunction of its disjuncts,
whichever form it has. -/

@[simp] theorem all_conjuncts (p : Predicate Test) :
    p.conjuncts.all (check member) = p.check member := by
  cases p <;> simp [conjuncts]

@[simp] theorem any_disjuncts (p : Predicate Test) :
    p.disjuncts.any (check member) = p.check member := by
  cases p <;> simp [disjuncts]

theorem check_allOf (ps : List (Predicate Test)) :
    (allOf ps).check member = ps.all (check member) := by
  simp [allOf, List.all_flatMap]

theorem check_anyOf (ps : List (Predicate Test)) :
    (anyOf ps).check member = ps.any (check member) := by
  simp [anyOf, List.any_flatMap]

theorem check_and (p q : Predicate Test) :
    (p.and q).check member = (p.check member && q.check member) := by
  simp [and, check_allOf]

theorem check_or (p q : Predicate Test) :
    (p.or q).check member = (p.check member || q.check member) := by
  simp [or, check_anyOf]

theorem check_andThen (p q : Predicate Test) :
    (p.andThen q).check member = (p.check member && q.check member) := by
  simp [andThen]

theorem check_orElse (p q : Predicate Test) :
    (p.orElse q).check member = (p.check member || q.check member) := by
  simp [orElse]

theorem check_negate (p : Predicate Test) : p.negate.check member = !p.check member := by
  cases p <;> simp [negate]

end Combinators

/-- Predicates put together by any of the combinators, to any depth, from predicates of any
shape. -/
inductive Combination (Test : Type) where
  | given (p : Predicate Test)
  | not (c : Combination Test)
  | all (cs : List (Combination Test))
  | any (cs : List (Combination Test))
  | allOf (cs : List (Combination Test))
  | anyOf (cs : List (Combination Test))
  | and (c d : Combination Test)
  | or (c d : Combination Test)
  | andThen (c d : Combination Test)
  | orElse (c d : Combination Test)
  | negate (c : Combination Test)

namespace Combination

mutual

def build : Combination Test → Predicate Test
  | given p => p
  | not c => .not c.build
  | all cs => .all (buildEach cs)
  | any cs => .any (buildEach cs)
  | allOf cs => Predicate.allOf (buildEach cs)
  | anyOf cs => Predicate.anyOf (buildEach cs)
  | and c d => c.build.and d.build
  | or c d => c.build.or d.build
  | andThen c d => c.build.andThen d.build
  | orElse c d => c.build.orElse d.build
  | negate c => c.build.negate

def buildEach : List (Combination Test) → List (Predicate Test)
  | [] => []
  | c :: cs => c.build :: buildEach cs

end

mutual

def value (member : Member) : Combination Test → Bool
  | given p => p.check member
  | not c => !c.value member
  | all cs => conjunction member cs
  | any cs => disjunction member cs
  | allOf cs => conjunction member cs
  | anyOf cs => disjunction member cs
  | and c d => c.value member && d.value member
  | or c d => c.value member || d.value member
  | andThen c d => c.value member && d.value member
  | orElse c d => c.value member || d.value member
  | negate c => !c.value member

def conjunction (member : Member) : List (Combination Test) → Bool
  | [] => true
  | c :: cs => c.value member && conjunction member cs

def disjunction (member : Member) : List (Combination Test) → Bool
  | [] => false
  | c :: cs => c.value member || disjunction member cs

end

mutual

theorem check_build (c : Combination Test) : c.build.check member = c.value member := by
  cases c with
  | given p => rfl
  | not c => simp [build, value, check_build c]
  | all cs => simp [build, value, all_buildEach cs]
  | any cs => simp [build, value, any_buildEach cs]
  | allOf cs => simp [build, value, check_allOf, all_buildEach cs]
  | anyOf cs => simp [build, value, check_anyOf, any_buildEach cs]
  | and c d => simp [build, value, check_and, check_build c, check_build d]
  | or c d => simp [build, value, check_or, check_build c, check_build d]
  | andThen c d => simp [build, value, check_andThen, check_build c, check_build d]
  | orElse c d => simp [build, value, check_orElse, check_build c, check_build d]
  | negate c => simp [build, value, check_negate, check_build c]

theorem all_buildEach (cs : List (Combination Test)) :
    (buildEach cs).all (check member) = conjunction member cs := by
  cases cs with
  | nil => rfl
  | cons c cs => simp [buildEach, conjunction, check_build c, all_buildEach cs]

theorem any_buildEach (cs : List (Combination Test)) :
    (buildEach cs).any (check member) = disjunction member cs := by
  cases cs with
  | nil => rfl
  | cons c cs => simp [buildEach, disjunction, check_build c, any_buildEach cs]

end

end Combination

section Selection

variable (members : List Member)

/-- Of the members in a list, in its order, a predicate selects as many as check: any other
choice of checking members leaves out some of those that are selected. -/
theorem eq_filter_iff (p : Predicate Test) (kept : List Member) :
    kept = p.filter members ↔
      kept.Sublist members ∧ (∀ m ∈ kept, p.check m) ∧
        ∀ chosen : List Member, chosen.Sublist members → (∀ m ∈ chosen, p.check m) →
          chosen.Sublist kept := by
  have selected : (p.filter members).Sublist members := List.filter_sublist
  have checked : ∀ m ∈ p.filter members, p.check m := fun m found => (List.mem_filter.mp found).2
  have greatest (chosen : List Member) (part : chosen.Sublist members)
      (checking : ∀ m ∈ chosen, p.check m) : chosen.Sublist (p.filter members) := by
    rw [← List.filter_eq_self.mpr checking]
    exact part.filter _
  constructor
  · rintro rfl
    exact ⟨selected, checked, greatest⟩
  · rintro ⟨part, checking, most⟩
    -- Each of the two is a sublist of the other.
    exact (greatest kept part checking).eq_of_length_le (most _ selected checked).length_le

theorem filter_of_check_eq {p q r : Predicate Test}
    (both : ∀ m, r.check m = (p.check m && q.check m)) :
    r.filter members = q.filter (p.filter members) := by
  simp only [filter, List.filter_filter, both, Bool.and_comm]

end Selection

/-- The combinators are the Boolean connectives on what predicates say of members, and selection
by a predicate follows them. -/
structure Boolean (Test : Type) {Member : Type} [Testing Test Member] : Prop where
  test (t : Test) (m : Member) : (test t).check m = Testing.holds t m
  not (p : Predicate Test) (m : Member) : p.not.check m = !p.check m
  all (ps : List (Predicate Test)) (m : Member) : (all ps).check m = ps.all (check m)
  any (ps : List (Predicate Test)) (m : Member) : (any ps).check m = ps.any (check m)
  allOf (ps : List (Predicate Test)) (m : Member) : (allOf ps).check m = ps.all (check m)
  anyOf (ps : List (Predicate Test)) (m : Member) : (anyOf ps).check m = ps.any (check m)
  and (p q : Predicate Test) (m : Member) : (p.and q).check m = (p.check m && q.check m)
  or (p q : Predicate Test) (m : Member) : (p.or q).check m = (p.check m || q.check m)
  andThen (p q : Predicate Test) (m : Member) : (p.andThen q).check m = (p.check m && q.check m)
  orElse (p q : Predicate Test) (m : Member) : (p.orElse q).check m = (p.check m || q.check m)
  negate (p : Predicate Test) (m : Member) : p.negate.check m = !p.check m
  negateTwice (p : Predicate Test) (m : Member) : p.negate.negate.check m = p.check m
  nested (c : Combination Test) (m : Member) : c.build.check m = c.value m
  selects (p : Predicate Test) (members kept : List Member) :
    kept = p.filter members ↔
      kept.Sublist members ∧ (∀ m ∈ kept, p.check m) ∧
        ∀ chosen : List Member, chosen.Sublist members → (∀ m ∈ chosen, p.check m) →
          chosen.Sublist kept
  selectsBoth (p q : Predicate Test) (members : List Member) :
    (p.and q).filter members = q.filter (p.filter members) ∧
      (p.andThen q).filter members = q.filter (p.filter members)

theorem boolean : Boolean Test where
  test t m := check_test m t
  not p m := check_not m p
  all ps m := check_all m ps
  any ps m := check_any m ps
  allOf ps m := check_allOf m ps
  anyOf ps m := check_anyOf m ps
  and p q m := check_and m p q
  or p q m := check_or m p q
  andThen p q m := check_andThen m p q
  orElse p q m := check_orElse m p q
  negate p m := check_negate m p
  negateTwice p m := by rw [check_negate, check_negate, Bool.not_not]
  nested c m := c.check_build m
  selects p members kept := eq_filter_iff members p kept
  selectsBoth p q members :=
    ⟨filter_of_check_eq members (check_and · p q), filter_of_check_eq members (check_andThen · p q)⟩

/-- A negation is undone, and an empty disjunction is dissolved into nothing. -/
example : (Combination.negate (.not (.or (.any []) (.all [])))).build
    = (.any [.all []] : MethodPredicate) := rfl

end FluentWrap.Predicate
