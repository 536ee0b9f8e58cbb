import FluentWrap.Proofs.Metadata.ClassNames

/-!
How the entries of a manifest become source types. Everything in an entry that has to be read is an
item: its name, and the spellings of types in its members. Items are looked at in a fixed order, the
first that cannot be read is what the whole manifest is refused for, and if there is none each entry
becomes the source type that it describes.
-/

set_option autoImplicit false

namespace FluentWrap

namespace Parameter

theorem getElem?_enumerateFrom (position : Nat) (types : List TypeRef) (i : Nat) :
    (enumerateFrom position types)[i]? = types[i]?.map fun t => ⟨t, .ofNat (position + i)⟩ := by
  induction types generalizing position i with
  | nil => rfl
  | cons t rest ih =>
    cases i with
    | zero => rfl
    | succ i =>
      rw [enumerateFrom, List.getElem?_cons_succ, List.getElem?_cons_succ, ih,
        Nat.add_right_comm, Nat.add_assoc]

end Parameter

namespace Manifest

open TypeRef

inductive Item where
  /-- The name of the class. -/
  | name (spelling : String)
  /-- The spelling of a type in a member. -/
  | type (typeName member spelling : String)

def Item.problem? : Item → Option EntryProblem
  | name spelling => if isClassName spelling then none else some (.notAClass spelling)
  | type typeName member spelling =>
    match parse spelling with
    | .ok _ => none
    | .error e => some (.badType typeName member spelling e)

def MethodEntry.results (entry : MethodEntry) : List String :=
  entry.returns.toList.filter fun s => Text.trim s.toList ≠ "void".toList

def ConstructorEntry.items (typeName : String) (entry : ConstructorEntry) : List Item :=
  entry.parameters.map (.type typeName "constructor")

def MethodEntry.items (typeName : String) (entry : MethodEntry) : List Item :=
  entry.parameters.map (.type typeName entry.name)
    ++ entry.results.map (.type typeName entry.name)

def TypeEntry.items (entry : TypeEntry) : List Item :=
  [.name entry.name] ++ (entry.constructors.flatMap (ConstructorEntry.items entry.name)
    ++ entry.methods.flatMap (MethodEntry.items entry.name))

structure Reads (spellings : List String) (parameters : List Parameter) : Prop where
  types : List.Forall₂ (fun s p => parse s = .ok p.type) spellings parameters
  positions : ∀ (i : Nat) (p : Parameter), parameters[i]? = some p → p.position = .ofNat i

structure ConstructorEntry.Describes (entry : ConstructorEntry) (c : Constructor) : Prop where
  parameters : Reads entry.parameters c.parameters
  visibility : c.visibility = entry.visibility
  synthetic : c.synthetic = entry.synthetic

structure MethodEntry.Describes (entry : MethodEntry) (m : Method) : Prop where
  name : m.name = entry.name
  parameters : Reads entry.parameters m.parameters
  returnsVoid : m.returnsVoid = true ↔
    ∀ s, entry.returns = some s → Text.trim s.toList = "void".toList
  visibility : m.visibility = entry.visibility
  deprecated : m.deprecated = entry.deprecated
  synthetic : m.synthetic = entry.synthetic
  bridge : m.bridge = entry.bridge

structure TypeEntry.Describes (entry : TypeEntry) (source : SourceType) : Prop where
  named : ∃ «class», parse entry.name = .ok (.class «class») ∧
    parse source.qualifiedName = .ok (.class «class»)
  simpleName : source.simpleName = simpleClass source.qualifiedName
  constructors : List.Forall₂ ConstructorEntry.Describes entry.constructors source.constructors
  methods : List.Forall₂ MethodEntry.Describes entry.methods source.methods

structure TypeEntry.Readable (entry : TypeEntry) : Prop where
  name : ∃ «class», parse entry.name = .ok (.class «class»)
  constructors : ∀ c ∈ entry.constructors, ∀ s ∈ c.parameters, ∃ t, parse s = .ok t
  parameters : ∀ m ∈ entry.methods, ∀ s ∈ m.parameters, ∃ t, parse s = .ok t
  results : ∀ m ∈ entry.methods, ∀ s, m.returns = some s →
    Text.trim s.toList ≠ "void".toList → ∃ t, parse s = .ok t

section Checking

variable {α β γ : Type} {Good : α → Prop} {Better : β → Prop} {items more : List Item}

/-- The outcome of reading some items in order: a good value if all can be read, and otherwise the
problem of the first that cannot. -/
inductive Checked (items : List Item) (Good : α → Prop) : Except EntryProblem α → Prop where
  | ok {a : α} : items.findSome? Item.problem? = none → Good a → Checked items Good (.ok a)
  | error {problem : EntryProblem} : items.findSome? Item.problem? = some problem →
      Checked items Good (.error problem)

theorem Checked.pure {a : α} (good : Good a) : Checked [] Good (.ok a) :=
  .ok rfl good

/-- The items of one step come before those of the next. -/
theorem Checked.bind {outcome : Except EntryProblem α} {next : α → Except EntryProblem β}
    (first : Checked items Good outcome) (second : ∀ a, Good a → Checked more Better (next a)) :
    Checked (items ++ more) Better (outcome >>= next) := by
  cases first with
  | error found =>
    refine .error ?_
    rw [List.findSome?_append, found, Option.some_or]
  | @ok a none_ good =>
    change Checked (items ++ more) Better (next a)
    have joined : (items ++ more).findSome? Item.problem? = more.findSome? Item.problem? := by
      rw [List.findSome?_append, none_, Option.none_or]
    have after := second a good
    generalize next a = result at after
    cases after with
    | ok clean better => exact .ok (joined.trans clean) better
    | error found => exact .error (joined.trans found)

theorem Checked.mapM {f : γ → Except EntryProblem α} {itemsOf : γ → List Item}
    {Describes : γ → α → Prop} (each : ∀ entry, Checked (itemsOf entry) (Describes entry) (f entry))
    (entries : List γ) :
    Checked (entries.flatMap itemsOf) (List.Forall₂ Describes entries) (entries.mapM f) := by
  induction entries with
  | nil => exact .pure .nil
  | cons entry rest ih =>
    rw [List.mapM_cons, List.flatMap_cons]
    refine (each entry).bind fun a described => ?_
    rw [← List.append_nil (rest.flatMap itemsOf)]
    exact ih.bind fun others all => .pure (.cons described all)

end Checking

section Members

variable {typeName member : String} {spellings : List String} {types : List TypeRef}

theorem checked_typesOf (typeName member : String) (spellings : List String) :
    Checked (spellings.map (.type typeName member))
      (List.Forall₂ (fun s t => parse s = .ok t) spellings)
      (typesOf typeName member spellings) := by
  unfold typesOf
  induction spellings with
  | nil => exact .pure .nil
  | cons s rest ih =>
    rw [parseAll]
    cases read : parse s with
    | error e => exact .error (by simp [Item.problem?, read])
    | ok t =>
      -- A spelling that can be read is no problem, so that the first one comes later.
      have clean : ∀ items : List Item, (Item.type typeName member s :: items).findSome?
          Item.problem? = items.findSome? Item.problem? := by
        intro items
        rw [List.findSome?_cons, Item.problem?, read]
      rw [List.map_cons]
      generalize parseAll rest = others at ih
      cases others with
      | error e =>
        cases ih with
        | error found => exact .error ((clean _).trans found)
      | ok types =>
        cases ih with
        | ok none_ all => exact .ok ((clean _).trans none_) (.cons read all)

theorem reads_enumerate (read : List.Forall₂ (fun s t => parse s = .ok t) spellings types) :
    Reads spellings (Parameter.enumerate types) where
  types := by
    rw [← Parameter.map_type_enumerate types, List.forall₂_map_right_iff] at read
    exact read
  positions i p found := by
    rw [Parameter.enumerate, Parameter.getElem?_enumerateFrom] at found
    obtain ⟨t, -, rfl⟩ := Option.map_eq_some_iff.1 found
    exact congrArg UInt64.ofNat (Nat.zero_add i)

theorem checked_toConstructor (typeName : String) (entry : ConstructorEntry) :
    Checked (entry.items typeName) entry.Describes (entry.toConstructor typeName) := by
  rw [← List.append_nil (entry.items typeName)]
  refine (checked_typesOf typeName "constructor" entry.parameters).bind fun types read => ?_
  exact .pure ⟨reads_enumerate read, rfl, rfl⟩

theorem isVoid_iff {returns : Option String} :
    isVoid returns = true ↔ ∀ s, returns = some s → Text.trim s.toList = "void".toList := by
  cases returns <;> simp [isVoid]

theorem results_of_isVoid {entry : MethodEntry} (void : isVoid entry.returns = true) :
    entry.results = [] := by
  refine List.filter_eq_nil_iff.2 fun s member => ?_
  simpa using isVoid_iff.1 void s (by simpa using member)

theorem results_of_value {entry : MethodEntry} (value : isVoid entry.returns = false) :
    entry.results = entry.returns.toList := by
  unfold MethodEntry.results
  cases given : entry.returns with
  | none => rfl
  | some s =>
    rw [given] at value
    simpa [isVoid] using value

theorem checked_toMethod (typeName : String) (entry : MethodEntry) :
    Checked (entry.items typeName) entry.Describes (entry.toMethod typeName) := by
  have described : ∀ types, List.Forall₂ (fun s t => parse s = .ok t) entry.parameters types →
      entry.Describes { Method.ofTypes entry.name types with
        visibility := entry.visibility, returnsVoid := isVoid entry.returns
        deprecated := entry.deprecated, synthetic := entry.synthetic, bridge := entry.bridge } :=
    fun types read => ⟨rfl, reads_enumerate read, isVoid_iff, rfl, rfl, rfl, rfl⟩
  refine (checked_typesOf typeName entry.name entry.parameters).bind fun types read => ?_
  have made := described types read
  -- The result is read only where there is one, and then its type is not kept.
  cases void : isVoid entry.returns with
  | true =>
    rw [void] at made
    rw [results_of_isVoid void]
    exact .pure made
  | false =>
    rw [void] at made
    rw [results_of_value void, ← List.append_nil (entry.returns.toList.map _)]
    exact (checked_typesOf typeName entry.name entry.returns.toList).bind fun _ _ => .pure made

end Members

section Entries

variable {entry : TypeEntry} {entries : List TypeEntry}

theorem checked_toSourceType (entry : TypeEntry) :
    Checked entry.items entry.Describes entry.toSourceType := by
  unfold TypeEntry.toSourceType
  split
  · next named =>
    obtain ⟨«class», parsed⟩ := isClassName_iff.1 named
    -- The name is judged before any member, so its item comes first.
    have name : Checked [.name entry.name] (fun _ : Unit => True) (.ok ()) :=
      .ok (by simp [Item.problem?, named]) trivial
    have members : Checked (entry.constructors.flatMap (ConstructorEntry.items entry.name)
        ++ entry.methods.flatMap (MethodEntry.items entry.name)) entry.Describes (do
          let constructors ← entry.constructors.mapM (ConstructorEntry.toConstructor entry.name)
          let methods ← entry.methods.mapM (MethodEntry.toMethod entry.name)
          .ok { SourceType.ofName entry.name with constructors, methods }) := by
      have constructors := Checked.mapM (checked_toConstructor entry.name) entry.constructors
      have methods := Checked.mapM (checked_toMethod entry.name) entry.methods
      refine constructors.bind fun made built => ?_
      rw [← List.append_nil (entry.methods.flatMap _)]
      refine methods.bind fun given described => .pure ?_
      exact ⟨⟨«class», parsed, parsed⟩, rfl, built, described⟩
    exact name.bind fun _ _ => members
  · next other => exact .error (by simp [TypeEntry.items, Item.problem?, other])

theorem Item.problem?_name_eq_none {spelling : String} :
    (name spelling).problem? = none ↔ ∃ «class», parse spelling = .ok (.class «class») := by
  rw [← isClassName_iff]
  simp [problem?]

theorem Item.problem?_type_eq_none {typeName member spelling : String} :
    (type typeName member spelling).problem? = none ↔ ∃ t, parse spelling = .ok t := by
  cases read : parse spelling <;> simp [problem?, read]

theorem mem_items {item : Item} : item ∈ entry.items ↔ item = .name entry.name ∨
    (∃ c ∈ entry.constructors, ∃ s ∈ c.parameters, .type entry.name "constructor" s = item) ∨
    ∃ m ∈ entry.methods, (∃ s ∈ m.parameters, .type entry.name m.name s = item) ∨
      ∃ s, (m.returns = some s ∧ Text.trim s.toList ≠ "void".toList) ∧
        .type entry.name m.name s = item := by
  simp only [TypeEntry.items, ConstructorEntry.items, MethodEntry.items, MethodEntry.results,
    List.mem_append, List.mem_singleton, List.mem_flatMap, List.mem_map, List.mem_filter,
    Option.mem_toList, decide_eq_true_eq]

theorem readable_iff_items :
    entry.Readable ↔ ∀ item ∈ entry.items, item.problem? = none := by
  constructor
  · intro readable item member
    rcases mem_items.1 member with rfl | ⟨c, listed, s, given, rfl⟩ |
      ⟨m, listed, ⟨s, given, rfl⟩ | ⟨s, ⟨present, value⟩, rfl⟩⟩
    · exact Item.problem?_name_eq_none.2 readable.name
    · exact Item.problem?_type_eq_none.2 (readable.constructors c listed s given)
    · exact Item.problem?_type_eq_none.2 (readable.parameters m listed s given)
    · exact Item.problem?_type_eq_none.2 (readable.results m listed s present value)
  · intro clean
    refine ⟨?_, fun c listed s given => ?_, fun m listed s given => ?_,
      fun m listed s present value => ?_⟩
    · exact Item.problem?_name_eq_none.1 (clean _ (mem_items.2 (.inl rfl)))
    · exact Item.problem?_type_eq_none.1
        (clean _ (mem_items.2 (.inr (.inl ⟨c, listed, s, given, rfl⟩))))
    · exact Item.problem?_type_eq_none.1
        (clean _ (mem_items.2 (.inr (.inr ⟨m, listed, .inl ⟨s, given, rfl⟩⟩))))
    · exact Item.problem?_type_eq_none.1
        (clean _ (mem_items.2 (.inr (.inr ⟨m, listed, .inr ⟨s, ⟨present, value⟩, rfl⟩⟩))))

theorem findSome?_items_eq_none :
    (entries.flatMap TypeEntry.items).findSome? Item.problem? = none ↔
      ∀ entry ∈ entries, entry.Readable := by
  simp only [List.findSome?_eq_none_iff, List.mem_flatMap, readable_iff_items]
  exact ⟨fun clean entry listed item member => clean item ⟨entry, listed, member⟩,
    fun clean item ⟨entry, listed, member⟩ => clean entry listed item member⟩

theorem read_of_entries {format : Format} {text : String}
    (decoded : readEntries? format text = some entries) (path : Option String) :
    read format path text = (entries.mapM TypeEntry.toSourceType).mapError fun problem =>
      .metadata path problem.message := by
  rw [read, decoded]

/-- A manifest whose entries could be decoded is read exactly if all names and spellings in them can
be. Each entry then becomes the source type that it describes. Otherwise no type is given, and the
error tells the problem of the first item, in their order, that cannot be read. -/
theorem read_decoded (format : Format) (path : Option String) (text : String)
    (entries : List TypeEntry) (decoded : readEntries? format text = some entries) :
    ((∃ sources, read format path text = .ok sources) ↔ ∀ entry ∈ entries, entry.Readable) ∧
    (∀ sources, read format path text = .ok sources →
      List.Forall₂ TypeEntry.Describes entries sources) ∧
    ∀ e, read format path text = .error e ↔
      ∃ before item after problem,
        entries.flatMap TypeEntry.items = before ++ item :: after ∧
        (∀ earlier ∈ before, earlier.problem? = none) ∧ item.problem? = some problem ∧
        e = .metadata path problem.message := by
  rw [read_of_entries decoded, ← findSome?_items_eq_none]
  have first : ∀ problem, (entries.flatMap TypeEntry.items).findSome? Item.problem? =
      some problem ↔ ∃ before item after, entries.flatMap TypeEntry.items =
        before ++ item :: after ∧ item.problem? = some problem ∧
        ∀ earlier ∈ before, earlier.problem? = none := fun problem =>
    List.findSome?_eq_some_iff
  have checked := Checked.mapM checked_toSourceType entries
  generalize entries.mapM TypeEntry.toSourceType = outcome at checked
  cases checked with
  | @ok sources none_ described =>
    refine ⟨⟨fun _ => none_, fun _ => ⟨sources, rfl⟩⟩, fun given same => ?_, fun e => ?_⟩
    · obtain rfl := Except.ok.inj same
      exact described
    · refine iff_of_false nofun ?_
      rintro ⟨before, item, after, problem, split, clean, bad, -⟩
      have found := (first problem).2 ⟨before, item, after, split, bad, clean⟩
      rw [none_] at found
      cases found
  | @error problem found =>
    -- The first bad item is determined by the list, so no other can be the one reported.
    refine ⟨iff_of_false nofun (by simp [found]), nofun, fun e => ?_⟩
    constructor
    · intro same
      obtain rfl := Except.error.inj same
      obtain ⟨before, item, after, split, bad, clean⟩ := (first problem).1 found
      exact ⟨before, item, after, problem, split, clean, bad, rfl⟩
    · rintro ⟨before, item, after, other, split, clean, bad, rfl⟩
      have same := (first other).2 ⟨before, item, after, split, bad, clean⟩
      rw [found] at same
      rw [Option.some.inj same]
      rfl

def label : TypeEntry where
  name := "a.Label"
  constructors := [⟨["int", "a.Tag<?>[]"], .package, false⟩]
  methods := [⟨"setSize", ["int"], .everyone, some " void ", true, false, false⟩,
    ⟨"size", [], .everyone, some "int", false, false, true⟩]

def labelText : String :=
  "\x7b\"types\":[\x7b\"name\":\"a.Label\",\"constructors\":[\x7b\"parameters\":[\"int\"," ++
  "\"a.Tag<?>[]\"],\"visibility\":\"package\"\x7d],\"methods\":[\x7b\"name\":\"setSize\"," ++
  "\"parameters\":[\"int\"],\"returns\":\" void \",\"deprecated\":true\x7d," ++
  "\x7b\"name\":\"size\",\"returns\":\"int\",\"bridge\":true\x7d]\x7d]\x7d"

theorem read_decoded_label :
    readEntries? .json labelText = some [label] ∧ label.Readable ∧
      ∃ source, read .json none labelText = .ok [source] ∧ label.Describes source ∧
        source.methods.map Method.returnsVoid = [true, false] := by
  have decoded : readEntries? .json labelText = some [label] := by decide +kernel
  have results : label.toSourceType.map (fun source => source.methods.map Method.returnsVoid) =
      .ok [true, false] := by decide +kernel
  cases made : label.toSourceType with
  | error problem =>
    rw [made] at results
    cases results
  | ok source =>
    rw [made] at results
    have whole : read .json none labelText = .ok [source] := by
      rw [read_of_entries decoded, List.mapM_cons, made]
      rfl
    obtain ⟨accepted, described, -⟩ := read_decoded .json none labelText [label] decoded
    obtain ⟨first, -⟩ := List.forall₂_cons.1 (described _ whole)
    exact ⟨decoded, accepted.1 ⟨_, whole⟩ label List.mem_cons_self, source, whole, first,
      Except.ok.inj results⟩

end Entries

end Manifest

end FluentWrap
