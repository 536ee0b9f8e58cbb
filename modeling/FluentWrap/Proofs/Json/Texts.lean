import FluentWrap.Proofs.Json.Tokens

/-!
Written texts are read back: reading one ends with the data that was written, as long as it is not
nested too deep. The text drives the machine of the reader, and what follows a value is read in the
state in which the value has been handed to the innermost open list or table.
-/

set_option autoImplicit false

namespace FluentWrap.Json

inductive Reads (v : Data) : State → List Char → Prop where
  | done : Reads v (.done v) []
  | blank {state : State} {c : Char} {s : List Char} : isJsonBlank c = true → Reads v state s →
      Reads v state (c :: s)
  | token {state next : State} {c : Char} {s rest : List Char} {t : Token} :
      isJsonBlank c = false → readToken? (c :: s) = some (t, rest) → rest.length ≤ s.length →
      step state t = some next → Reads v next rest → Reads v state (c :: s)

section Reading

variable {v : Data} {state next : State} {s front rest : List Char} {t : Token}

theorem tokens?_blank {fuel : Nat} {c : Char} (blank : isJsonBlank c = true) :
    tokens? fuel (c :: s) = tokens? fuel s := by
  rw [tokens?.eq_def, tokens?.eq_def]
  dsimp only
  rw [List.dropWhile_cons_of_pos blank]

theorem tokens?_token {fuel : Nat} {c : Char} (visible : isJsonBlank c = false)
    (read : readToken? (c :: s) = some (t, rest)) :
    tokens? (fuel + 1) (c :: s) = (tokens? fuel rest).map (t :: ·) := by
  rw [tokens?.eq_def]
  dsimp only
  rw [List.dropWhile_cons_of_neg (by simp [visible])]
  dsimp only
  rw [read]

theorem Reads.exists_tokens (reads : Reads v state s) :
    ∃ tokens, (∀ fuel, s.length ≤ fuel → tokens? fuel s = some tokens) ∧
      tokens.foldlM step state = some (.done v) := by
  induction reads with
  | done =>
    refine ⟨[], fun fuel _ => ?_, rfl⟩
    rw [tokens?.eq_def]
    rfl
  | blank blank _ ih =>
    obtain ⟨tokens, cut, run⟩ := ih
    refine ⟨tokens, fun fuel enough => ?_, run⟩
    rw [tokens?_blank blank]
    exact cut fuel (Nat.le_of_succ_le enough)
  | @token state next c s rest t visible read shorter moved _ ih =>
    obtain ⟨tokens, cut, run⟩ := ih
    refine ⟨t :: tokens, fun fuel enough => ?_, ?_⟩
    · cases fuel with
      | zero => cases enough
      | succ fuel =>
        -- A token is never empty, and so what is left of the fuel covers the rest.
        have remaining : rest.length ≤ fuel := shorter.trans (Nat.le_of_succ_le_succ enough)
        rw [tokens?_token visible read, cut fuel remaining, Option.map_some]
    · rw [List.foldlM_cons, moved]
      exact run

theorem Reads.read?_eq {text : String} (reads : Reads v (.value []) text.toList) :
    read? text = some v := by
  obtain ⟨tokens, cut, run⟩ := reads.exists_tokens
  have all := cut text.length (Nat.le_of_eq String.length_toList)
  unfold read?
  simp [all, run]

theorem Reads.blanks (blank : ∀ c ∈ front, isJsonBlank c = true) (reads : Reads v state s) :
    Reads v state (front ++ s) := by
  induction front with
  | nil => exact reads
  | cons c front ih =>
    refine .blank (blank c List.mem_cons_self) (ih fun d member => ?_)
    exact blank d (List.mem_cons_of_mem _ member)

/-- A state may be replaced by one that takes the same steps. -/
theorem Reads.of_step {other : State} (reads : Reads v state s)
    (unfinished : ∀ w, state ≠ .done w)
    (same : ∀ t next, step state t = some next → step other t = some next) : Reads v other s := by
  induction reads with
  | done => exact absurd rfl (unfinished v)
  | blank blank _ ih => exact .blank blank (ih unfinished same)
  | token visible read shorter moved reads =>
    exact .token visible read shorter (same _ _ moved) reads

end Reading

section Writing

variable {v d : Data} {state next : State} {frames : List Frame} {rest : List Char} {n depth : Nat}

theorem Reads.mark {c : Char} {t : Token} (visible : isJsonBlank c = false)
    (read : ∀ s, readToken? (c :: s) = some (t, s)) (moved : step state t = some next)
    (reads : Reads v next rest) : Reads v state (c :: rest) :=
  .token visible (read rest) (Nat.le_refl _) moved reads

theorem Reads.string {s : String} (moved : step state (.scalar (.string s)) = some next)
    (reads : Reads v next rest) : Reads v state ((writeString s).toList ++ rest) := by
  have whole : (writeString s).toList ++ rest =
      '"' :: (s.toList.flatMap stringChar ++ '"' :: rest) := by
    simp [writeString]
  have read := @readToken?_writeString rest s
  rw [whole] at read ⊢
  exact .token rfl read (by simp; omega) moved reads

theorem not_isJsonBlank_of_number {c : Char} (begins : c.isDigit = true ∨ c = '-') :
    isJsonBlank c = false := by
  refine Bool.eq_false_iff.2 fun blank => ?_
  simp only [isJsonBlank, Bool.or_eq_true, decide_eq_true_eq] at blank
  rcases blank with ((rfl | rfl) | rfl) | rfl <;> revert begins <;> decide

theorem Reads.integer {i : Int} (ends : Ends rest)
    (moved : step state (.scalar (.integer i)) = some next) (reads : Reads v next rest) :
    Reads v state ((toString i).toList ++ rest) := by
  obtain ⟨first, others, cut, begins⟩ := exists_toString i
  have read := readToken?_toString i ends
  rw [cut, List.cons_append] at read ⊢
  exact .token (not_isJsonBlank_of_number begins) read (by simp) moved reads

theorem Reads.lineStart (depth : Nat) (reads : Reads v state rest) :
    Reads v state ((Json.lineStart depth).toList ++ rest) := by
  refine reads.blanks fun c member => ?_
  rw [Json.lineStart, String.toList_ofList, List.mem_cons] at member
  rcases member with rfl | member
  · rfl
  · rw [List.eq_of_mem_replicate member]
    rfl

theorem ends_lineStart : Ends ((lineStart depth).toList ++ rest) := by
  intro c first
  rw [lineStart, String.toList_ofList] at first
  cases first
  decide

theorem prettyItems_eq (items : List Data) :
    prettyItems depth items = items.map (pretty depth) := by
  induction items with
  | nil => rfl
  | cons item items ih => rw [prettyItems, ih, List.map_cons]

theorem prettyEntries_eq (entries : List (String × Data)) :
    prettyEntries depth entries =
      entries.map fun e => writeString e.1 ++ ": " ++ pretty depth e.2 := by
  induction entries with
  | nil => rfl
  | cons e entries ih => rw [prettyEntries, ih, List.map_cons]

/-- The lines behind the first one, each with a comma and the start of its line in front. -/
def further (depth : Nat) (lines : List String) : List Char :=
  lines.flatMap fun line => ',' :: ((lineStart depth).toList ++ line.toList)

theorem toList_bracketed (opening closing line : String) (lines : List String) :
    (bracketed opening closing depth (line :: lines)).toList =
      opening.toList ++ ((lineStart (depth + 1)).toList ++ (line.toList ++
        (further (depth + 1) lines ++ ((lineStart depth).toList ++ closing.toList)))) := by
  have joined : ∀ (line : String) (lines : List String),
      (("," ++ lineStart (depth + 1)).intercalate (line :: lines)).toList =
        line.toList ++ further (depth + 1) lines := by
    intro line lines
    induction lines generalizing line with
    | nil => simp [further]
    | cons next lines ih =>
      rw [String.intercalate_cons_cons, String.toList_append, ih]
      simp [further]
  have written : (line :: lines).isEmpty = false := rfl
  rw [bracketed, written]
  simp [joined]

theorem ends_further (depth : Nat) {lines : List String} (ends : Ends rest) :
    Ends (further depth lines ++ rest) := by
  cases lines with
  | nil => exact ends
  | cons line lines =>
    intro c first
    cases first
    decide

end Writing

section Brackets

variable {α : Type} {v : Data} {state : State} {rest : List Char} {depth : Nat}
  {items : List α} {line : α → String} {opening closing : String}

theorem Reads.further (depth : Nat) {ready after : List α → State}
    (comma : ∀ read, step (after read) .comma = some (ready read))
    (each : ∀ item ∈ items, ∀ read rest, Ends rest → Reads v (after (item :: read)) rest →
      Reads v (ready read) ((line item).toList ++ rest))
    (ends : Ends rest) {read : List α} (reads : Reads v (after (items.reverse ++ read)) rest) :
    Reads v (after read) (Json.further depth (items.map line) ++ rest) := by
  induction items generalizing read with
  | nil => exact reads
  | cons item items ih =>
    have others : Reads v (after (item :: read)) (Json.further depth (items.map line) ++ rest) := by
      refine ih (fun other member => each other (List.mem_cons_of_mem _ member)) ?_
      rwa [List.reverse_cons, List.append_assoc, List.singleton_append] at reads
    have itself := each item List.mem_cons_self read _ (ends_further depth ends) others
    have whole := Reads.mark (c := ',') rfl (fun _ => rfl) (comma read) (itself.lineStart depth)
    simpa [Json.further] using whole

/-- Brackets around items, be they of a list or of a table. -/
theorem Reads.bracketed (first : State) (ready after : List α → State)
    (opened : ∀ s, Reads v first s → Reads v state (opening.toList ++ s))
    (begins : ∀ s, Reads v (ready []) s → Reads v first s)
    (comma : ∀ read, step (after read) .comma = some (ready read))
    (each : ∀ item ∈ items, ∀ read rest, Ends rest → Reads v (after (item :: read)) rest →
      Reads v (ready read) ((line item).toList ++ rest))
    (none : items = [] → Reads v first (closing.toList ++ rest))
    (closed : Reads v (after items.reverse) (closing.toList ++ rest)) :
    Reads v state ((bracketed opening closing depth (items.map line)).toList ++ rest) := by
  cases items with
  | nil =>
    have empty := opened _ (none rfl)
    rw [List.map_nil, Json.bracketed, List.isEmpty_nil, if_pos rfl]
    simpa using empty
  | cons item items =>
    have ended := closed.lineStart depth
    rw [List.reverse_cons] at ended
    have others := Reads.further (depth + 1) comma
      (fun other member => each other (List.mem_cons_of_mem _ member)) ends_lineStart ended
    have itself := each item List.mem_cons_self [] _ (ends_further _ ends_lineStart) others
    have started := (begins _ itself).lineStart (depth + 1)
    rw [List.map_cons, toList_bracketed]
    simpa using opened _ started

end Brackets

section Moves

variable {v d : Data} {next : State} {frames : List Frame} {rest : List Char}

theorem Reads.word (text : String) (c : Char) (s : List Char) (letters : text.toList = c :: s)
    (visible : isJsonBlank c = false)
    (read : readToken? (c :: s ++ rest) = some (.scalar d, rest))
    (filled : fill frames d = some next) (reads : Reads v next rest) :
    Reads v (.value frames) (text.toList ++ rest) := by
  rw [letters]
  exact .token visible read (by simp) filled reads

theorem Reads.openList (room : frames.length < maxDepth)
    (reads : Reads v (.firstItem (.list [] :: frames)) rest) :
    Reads v (.value frames) ("[".toList ++ rest) := by
  refine .mark (c := '[') rfl (fun _ => rfl) ?_ reads
  simp [step, startValue, openFrame, room]

theorem Reads.firstItem {frame : Frame} (reads : Reads v (.value (frame :: frames)) rest) :
    Reads v (.firstItem (frame :: frames)) rest := by
  refine reads.of_step nofun fun t next moved => ?_
  cases t with
  | closeList => cases moved
  | _ => exact moved

theorem Reads.openTable (room : frames.length < maxDepth)
    (reads : Reads v (.firstName (.table [] :: frames)) rest) :
    Reads v (.value frames) ("\x7b".toList ++ rest) := by
  refine .mark (c := '\x7b') rfl (fun _ => rfl) ?_ reads
  simp [step, startValue, openFrame, room]

theorem Reads.firstName {frame : Frame} (reads : Reads v (.name (frame :: frames)) rest) :
    Reads v (.firstName (frame :: frames)) rest := by
  refine reads.of_step nofun fun t next moved => ?_
  cases t with
  | scalar value =>
    cases value with
    | string name => exact moved
    | _ => cases moved
  | _ => cases moved

theorem Reads.name {read : List (String × Data)} {name : String}
    (reads : Reads v (.value (.entry read name :: frames)) rest) :
    Reads v (.name (.table read :: frames)) ((writeString name).toList ++ ':' :: ' ' :: rest) := by
  have separated : Reads v (.colon (.table read :: frames) name) (':' :: ' ' :: rest) :=
    .mark rfl (fun _ => rfl) rfl (.blank rfl reads)
  exact .string rfl separated

end Moves

/-- Data of texts, integers and truth values, nested in no more lists and tables than that. -/
inductive Plain : Nat → Data → Prop where
  | null {n : Nat} : Plain n .null
  | bool {n : Nat} (b : Bool) : Plain n (.bool b)
  | integer {n : Nat} (i : Int) : Plain n (.integer i)
  | string {n : Nat} (s : String) : Plain n (.string s)
  | list {n : Nat} {items : List Data} : (∀ item ∈ items, Plain n item) →
      Plain (n + 1) (.list items)
  | table {n : Nat} {entries : List (String × Data)} : (∀ e ∈ entries, Plain n e.2) →
      Plain (n + 1) (.table entries)

theorem Plain.map {α : Type} {n : Nat} {write : α → Data} (each : ∀ a, Plain n (write a))
    (items : List α) : Plain (n + 1) (.list (items.map write)) :=
  .list (List.forall_mem_map.2 fun a _ => each a)

section Texts

variable {v d : Data} {next : State} {frames : List Frame} {rest : List Char} {n depth : Nat}

theorem Plain.reads (plain : Plain n d) (room : frames.length + n ≤ maxDepth)
    (filled : fill frames d = some next) (ends : Ends rest) (reads : Reads v next rest) :
    Reads v (.value frames) ((pretty depth d).toList ++ rest) := by
  -- The reader's stack and what follows the value change from item to item.
  induction plain generalizing frames next rest depth with
  | null => exact .word "null" 'n' ['u', 'l', 'l'] (by decide) rfl rfl filled reads
  | bool b =>
    cases b with
    | true => exact .word "true" 't' ['r', 'u', 'e'] (by decide) rfl rfl filled reads
    | false => exact .word "false" 'f' ['a', 'l', 's', 'e'] (by decide) rfl rfl filled reads
  | integer i => exact .integer ends filled reads
  | string s => exact .string filled reads
  | @list n items _ ih =>
    rw [pretty, prettyItems_eq]
    refine Reads.bracketed (.firstItem (.list [] :: frames))
      (fun read => .value (.list read :: frames)) (fun read => .after (.list read :: frames))
      (fun s => .openList (by omega)) (fun s => .firstItem) (fun read => rfl) ?_ ?_ ?_
    · intro item member read rest ends reads
      exact ih item member (by simp; omega) rfl ends reads
    · rintro rfl
      exact .mark (c := ']') rfl (fun _ => rfl) filled reads
    · refine .mark (c := ']') rfl (fun _ => rfl) ?_ reads
      simpa [step] using filled
  | @table n entries _ ih =>
    rw [pretty, prettyEntries_eq]
    refine Reads.bracketed (.firstName (.table [] :: frames))
      (fun read => .name (.table read :: frames)) (fun read => .after (.table read :: frames))
      (fun s => .openTable (by omega)) (fun s => .firstName) (fun read => rfl) ?_ ?_ ?_
    · rintro ⟨name, value⟩ member read rest ends reads
      -- The value is read in a frame that waits for it under its name.
      have entry : Reads v (.value (.entry read name :: frames))
          ((pretty (depth + 1) value).toList ++ rest) :=
        ih _ member (by simp; omega) rfl ends reads
      simpa using entry.name
    · rintro rfl
      exact .mark (c := '\x7d') rfl (fun _ => rfl) filled reads
    · refine .mark (c := '\x7d') rfl (fun _ => rfl) ?_ reads
      simpa [step] using filled

/-- A text that was written with a line for every item and entry is read as the data it was written
for. -/
theorem read?_pretty (plain : Plain n d) (room : n ≤ maxDepth) : read? (pretty 0 d) = some d := by
  have reads : Reads d (.value []) ((pretty 0 d).toList ++ []) :=
    plain.reads (by simpa using room) rfl ends_nil .done
  rw [List.append_nil] at reads
  exact reads.read?_eq

end Texts

end FluentWrap.Json
