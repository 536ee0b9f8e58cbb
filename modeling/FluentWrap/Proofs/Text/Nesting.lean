import FluentWrap.Proofs.Text.Cutting

/-!
Braces along the lines of a text. A text that is put together line by line falls into the same lines
again, and if each line takes up the depth that the line before it leaves, then no brace is closed
that was not opened.
-/

set_option autoImplicit false

namespace FluentWrap.Text

def braceDepth (s : List Char) : Int :=
  s.count '\x7b' - s.count '\x7d'

def depths (depth : Int) : List (List Char) → List (Int × List Char)
  | [] => []
  | line :: rest => (depth, line) :: depths (depth + braceDepth line) rest

def Tidy (text : String) : Prop :=
  ∀ c ∈ text.toList, c ∉ ['\x7b', '\x7d', '\n', '\r']

instance (text : String) : Decidable (Tidy text) :=
  decidable_of_iff (text.toList.all fun c => c ∉ ['\x7b', '\x7d', '\n', '\r']) (by simp [Tidy])

section Depths

theorem braceDepth_append (s t : List Char) :
    braceDepth (s ++ t) = braceDepth s + braceDepth t := by
  simp only [braceDepth, List.count_append]
  omega

theorem neg_count_le_braceDepth (s : List Char) : -(s.count '\x7d' : Int) ≤ braceDepth s := by
  unfold braceDepth
  omega

end Depths

section Tidiness

variable {a b : String}

@[simp] theorem tidy_append : Tidy (a ++ b) ↔ Tidy a ∧ Tidy b := by
  simp only [Tidy, String.toList_append, List.forall_mem_append]

theorem tidy_ofList {s : List Char} :
    Tidy (String.ofList s) ↔ ∀ c ∈ s, c ∉ ['\x7b', '\x7d', '\n', '\r'] := by
  rw [Tidy, String.toList_ofList]

theorem tidy_intercalate {mark : String} (between : Tidy mark) {texts : List String}
    (each : ∀ text ∈ texts, Tidy text) : Tidy (mark.intercalate texts) := by
  induction texts with
  | nil => simp [Tidy]
  | cons text rest ih =>
    obtain ⟨first, others⟩ := List.forall_mem_cons.1 each
    by_cases last : rest = []
    · simpa [last] using first
    · rw [String.intercalate_cons_of_ne_nil last, tidy_append, tidy_append]
      exact ⟨⟨first, between⟩, ih others⟩

theorem Tidy.count_eq_zero {c : Char} (tidy : Tidy a) (brace : c ∈ ['\x7b', '\x7d', '\n', '\r']) :
    a.toList.count c = 0 :=
  List.count_eq_zero.2 fun member => tidy c member brace

theorem Tidy.braceDepth_eq (tidy : Tidy a) : braceDepth a.toList = 0 := by
  unfold braceDepth
  rw [tidy.count_eq_zero (by decide), tidy.count_eq_zero (by decide)]
  rfl

end Tidiness

/-- A line leads from one depth to another: it has no line end within it, and it closes only what is
open. -/
structure Leads (before : Nat) (line : String) (after : Nat) : Prop where
  single : '\n' ∉ line.toList ∧ '\r' ∉ line.toList
  closes : line.toList.count '\x7d' ≤ before
  depth : before + braceDepth line.toList = after

namespace Leads

variable {before after : Nat} {front line : String}

theorem of_tidy (tidy : Tidy line) (depth : Nat) : Leads depth line depth where
  single := ⟨fun feed => tidy _ feed (by decide), fun back => tidy _ back (by decide)⟩
  closes := by
    rw [tidy.count_eq_zero (by decide)]
    exact Nat.zero_le depth
  depth := by rw [tidy.braceDepth_eq, Int.add_zero]

theorem behind (tidy : Tidy front) (leads : Leads before line after) :
    Leads before (front ++ line) after where
  single := by
    obtain ⟨feed, back⟩ := (of_tidy tidy before).single
    rw [String.toList_append, List.mem_append, List.mem_append, not_or, not_or]
    exact ⟨⟨feed, leads.single.1⟩, back, leads.single.2⟩
  closes := by
    rw [String.toList_append, List.count_append, tidy.count_eq_zero (by decide), Nat.zero_add]
    exact leads.closes
  depth := by
    rw [String.toList_append, braceDepth_append, tidy.braceDepth_eq, Int.zero_add]
    exact leads.depth

theorem opens (single : '\n' ∉ line.toList ∧ '\r' ∉ line.toList)
    (opening : line.toList.count '\x7b' = 1) (closing : line.toList.count '\x7d' = 0)
    (depth : Nat) : Leads depth line (depth + 1) where
  single := single
  closes := by omega
  depth := by
    unfold braceDepth
    omega

theorem closing (single : '\n' ∉ line.toList ∧ '\r' ∉ line.toList)
    (opening : line.toList.count '\x7b' = 0) (closing : line.toList.count '\x7d' = 1)
    (depth : Nat) : Leads (depth + 1) line depth where
  single := single
  closes := by omega
  depth := by
    unfold braceDepth
    omega

end Leads

inductive Steps : Nat → List (Nat × String) → Nat → Prop where
  | nil (depth : Nat) : Steps depth [] depth
  | cons {before next after : Nat} {line : String} {rest : List (Nat × String)} :
      Leads before line next → Steps next rest after → Steps before ((before, line) :: rest) after

def joined (noted : List (Nat × String)) : List Char :=
  noted.flatMap fun line => line.2.toList ++ ['\n']

namespace Steps

variable {before next after depth : Nat} {noted others : List (Nat × String)}

section Building

theorem single {line : String} (leads : Leads before line after) :
    Steps before [(before, line)] after :=
  .cons leads (.nil after)

theorem append (first : Steps before noted next) (second : Steps next others after) :
    Steps before (noted ++ others) after := by
  induction first with
  | nil => exact second
  | cons leads _ ih => exact .cons leads (ih second)

theorem flatMap {α : Type} {entries : List α} {lines : α → List (Nat × String)}
    (each : ∀ entry ∈ entries, Steps depth (lines entry) depth) :
    Steps depth (entries.flatMap lines) depth := by
  induction entries with
  | nil => exact .nil depth
  | cons entry rest ih =>
    obtain ⟨first, others⟩ := List.forall_mem_cons.1 each
    exact first.append (ih others)

theorem of_tidy {lines : List String} (tidy : ∀ line ∈ lines, Tidy line) (depth : Nat) :
    Steps depth (lines.map (depth, ·)) depth := by
  induction lines with
  | nil => exact .nil depth
  | cons line rest ih =>
    obtain ⟨first, others⟩ := List.forall_mem_cons.1 tidy
    exact .cons (.of_tidy first depth) (ih others)

end Building

section Scanning

theorem depths_eq (steps : Steps before noted after) :
    depths before (noted.map fun line => line.2.toList) =
      noted.map fun line => ((line.1 : Int), line.2.toList) := by
  induction steps with
  | nil => rfl
  | cons leads _ ih =>
    rw [List.map_cons, List.map_cons, depths, leads.depth, ih]

theorem braceDepth_joined (steps : Steps before noted after) :
    before + braceDepth (joined noted) = after := by
  induction steps with
  | nil => rfl
  | cons leads _ ih =>
    have feed : braceDepth ['\n'] = 0 := rfl
    rw [joined, List.flatMap_cons, braceDepth_append, braceDepth_append, feed, Int.add_zero,
      ← Int.add_assoc, leads.depth]
    exact ih

theorem depth_nonneg (steps : Steps before noted after) {front : List Char}
    (part : front <+: joined noted) : 0 ≤ before + braceDepth front := by
  induction steps generalizing front with
  | nil depth =>
    rw [joined, List.flatMap_nil, List.prefix_nil] at part
    subst part
    exact Int.natCast_nonneg depth
  | @cons before next after line rest leads steps ih =>
    obtain ⟨back, whole⟩ := part
    rw [joined, List.flatMap_cons] at whole
    have feed : braceDepth ['\n'] = 0 := rfl
    rcases List.append_eq_append_iff.1 whole with ⟨cut, split, -⟩ | ⟨later, rfl, split⟩
    · -- Within a line no more braces are closed than the line closes in all.
      have falls := neg_count_le_braceDepth front
      have fewer : front.count '\x7d' ≤ (line.toList ++ ['\n']).count '\x7d' := by
        rw [split]
        exact (List.prefix_append front cut).count_le _
      have none : ['\n'].count '\x7d' = 0 := rfl
      rw [List.count_append, none, Nat.add_zero] at fewer
      have closes := leads.closes
      omega
    · -- The part goes on behind the line, from the depth to which the line leads.
      have behind := ih ⟨back, split.symm⟩
      rw [braceDepth_append, braceDepth_append, feed, Int.add_zero, ← Int.add_assoc,
        leads.depth]
      exact behind

theorem single_of_mem (steps : Steps before noted after) {line : Nat × String}
    (member : line ∈ noted) : '\n' ∉ line.2.toList ∧ '\r' ∉ line.2.toList := by
  induction steps with
  | nil => cases member
  | cons leads _ ih =>
    rcases List.mem_cons.1 member with rfl | member
    · exact leads.single
    · exact ih member

theorem lines_joined (steps : Steps before noted after) :
    lines (joined noted) = noted.map fun line => line.2.toList := by
  rw [joined, ← List.flatMap_map (fun line : Nat × String => line.2.toList)
    (fun line => line ++ ['\n'])]
  refine lines_flatMap fun line member => ?_
  obtain ⟨numbered, stands, rfl⟩ := List.mem_map.1 member
  exact steps.single_of_mem stands

end Scanning

end Steps

end FluentWrap.Text
