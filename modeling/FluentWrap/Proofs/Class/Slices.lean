import FluentWrap.Proofs.Class.Imports
import FluentWrap.Proofs.Text.Bytes

/-!
Cutting the package off a canonical name by its bytes. The package of a class, however it is called,
begins the canonical name just as it begins the binary name, and ends where a character ends; so names
can be collected for a class by cutting at bytes, and no cut ever fails.
-/

set_option autoImplicit false

namespace FluentWrap

namespace TypeRef

variable {name : String}

theorem utf8Size_canonical (c : Char) : (if c = '$' then '.' else c).utf8Size = c.utf8Size := by
  split
  · next dollar =>
    subst dollar
    rfl
  · rfl

theorem isValid_canonicalClass (name : String) (place : String.Pos.Raw) :
    place.IsValid (canonicalClass name) ↔ place.IsValid name := by
  have same := Text.isValid_map utf8Size_canonical name.toList place
  rwa [String.ofList_toList] at same

theorem exists_packageOfClass (name : String) : ∃ rest, name = packageOfClass name ++ rest ∧
    (packageOfClass name = "" ∨ ∃ simple, rest = "." ++ simple) := by
  unfold packageOfClass
  split
  · next before after cut =>
    obtain ⟨inner, whole⟩ := List.takeWhile_prefix (l := name.toList) fun c => c != '$'
    rw [(Text.splitAtLast?_eq_some cut).1, List.append_assoc] at whole
    refine ⟨"." ++ String.ofList (after ++ inner), ?_, .inr ⟨_, rfl⟩⟩
    apply String.toList_injective
    simp [← whole]
  · exact ⟨name, String.empty_append.symm, .inl rfl⟩

theorem canonicalClass_eq_append {rest : String} (whole : name = packageOfClass name ++ rest) :
    canonicalClass name = packageOfClass name ++ canonicalClass rest := by
  have package := canonicalClass_of_plain (dollar_not_mem_packageOfClass name)
  calc canonicalClass name
    _ = canonicalClass (packageOfClass name ++ rest) := congrArg canonicalClass whole
    _ = packageOfClass name ++ canonicalClass rest := by rw [canonicalClass_append, package]

end TypeRef

namespace Referenced

/-- Whether classes enclose this one, told by cutting its canonical name where so many bytes end as
its package has. -/
def isNested? (r : Referenced) : Option Bool :=
  if r.package.utf8ByteSize + 1 < r.canonicalName.utf8ByteSize then
    (Text.behind? r.canonicalName r.package.utf8ByteSize).map fun rest =>
      (rest.toList.dropWhile (· = '.')).contains '.'
  else some false

def isKnown (r : Referenced) (nested : Bool) (package : String) : Bool :=
  r.package = "" || (!nested && (r.package = "java.lang" || r.package = package))

theorem isKnown_isNested (r : Referenced) (package : String) :
    r.isKnown r.isNested package = r.isImplicit package := rfl

theorem not_contains_of_short {rest : String} (short : rest.utf8ByteSize ≤ 1) :
    (rest.toList.dropWhile (· = '.')).contains '.' = false := by
  have length := Text.length_le_utf8ByteSize rest.toList
  rw [String.ofList_toList] at length
  match found : rest.toList with
  | [] => rfl
  | [c] =>
    by_cases dot : c = '.'
    · rw [List.dropWhile_cons_of_pos (by simpa using dot)]
      rfl
    · rw [List.dropWhile_cons_of_neg (by simpa using dot)]
      simpa [eq_comm] using dot
  | _ :: _ :: _ =>
    rw [found, List.length_cons, List.length_cons] at length
    omega

theorem isNested?_append {package rest : String} :
    isNested? ⟨package ++ rest, package⟩ = some (isNested ⟨package ++ rest, package⟩) := by
  have cut : Text.behind? (package ++ rest) package.utf8ByteSize = some rest :=
    Text.behind?_eq_some_iff.2 ⟨package, rfl, rfl⟩
  unfold isNested? isNested
  dsimp only
  rw [String.toList_append, List.drop_left, cut, String.utf8ByteSize_append]
  split
  · rfl
  · next short => rw [not_contains_of_short (by omega)]

theorem isNested?_ofClass (name : String) :
    (ofClass name).isNested? = some (ofClass name).isNested := by
  obtain ⟨rest, whole, -⟩ := TypeRef.exists_packageOfClass name
  rw [ofClass, TypeRef.canonicalClass_eq_append whole]
  exact isNested?_append

end Referenced

namespace ClassDeclaration

/-- Go through referenced classes and collect the names that are shortened and those that are
imported, unless a cut fails. -/
def collectNames? (c : ClassDeclaration) (shortened imports : NameSet) :
    List Referenced → Option (NameSet × NameSet)
  | [] => some (shortened, imports)
  | r :: rest =>
    if c.claims r.simpleName ≤ 1 then
      r.isNested?.bind fun nested =>
        c.collectNames? (shortened.insert r.canonicalName)
          (if r.isKnown nested c.name.package then imports else imports.insert r.canonicalName) rest
    else c.collectNames? shortened imports rest

variable {c : ClassDeclaration}

theorem collectNames?_eq {entries : List Referenced} (shortened imports : NameSet)
    (cut : ∀ r ∈ entries, r.isNested? = some r.isNested) :
    c.collectNames? shortened imports entries =
      let alone := entries.filter fun r => c.claims r.simpleName ≤ 1
      some (shortened.insertAll (alone.map Referenced.canonicalName),
        imports.insertAll ((alone.filter fun r => !r.isImplicit c.name.package).map
          Referenced.canonicalName)) := by
  induction entries generalizing shortened imports with
  | nil => rfl
  | cons r rest ih =>
    have later := fun shortened imports => ih shortened imports
      fun other member => cut other (List.mem_cons_of_mem _ member)
    dsimp only at later ⊢
    rw [collectNames?, cut r List.mem_cons_self, Option.bind_some, Referenced.isKnown_isNested]
    by_cases single : c.claims r.simpleName ≤ 1
    · rw [if_pos single, List.filter_cons_of_pos (by simpa using single), later]
      cases known : r.isImplicit c.name.package with
      | true =>
        rw [if_pos rfl, List.filter_cons_of_neg (by simp [known])]
        rfl
      | false =>
        rw [if_neg Bool.false_ne_true, List.filter_cons_of_pos (by simp [known])]
        rfl
    · rw [if_neg single, List.filter_cons_of_neg (by simpa using single)]
      exact later shortened imports

/-- The package of a class, whatever its name, begins the binary and the canonical name alike, and a
dot follows unless it is empty. Bytes end characters at the same places of both names, and so the
canonical name can be cut where the package ends. Hence the names that are shortened or imported in
the source code of a class can be collected by such cuts, and no cut fails. -/
theorem names_collected (name : String) (c : ClassDeclaration) :
    (∃ package rest, (TypeRef.class name).package? = some package ∧ name = package ++ rest ∧
      (TypeRef.class name).canonicalName = package ++ TypeRef.canonicalClass rest ∧
      (package = "" ∨ ∃ simple, rest = "." ++ simple ∧
        TypeRef.canonicalClass rest = "." ++ TypeRef.canonicalClass simple) ∧
      (∀ place : String.Pos.Raw,
        place.IsValid (TypeRef.class name).canonicalName ↔ place.IsValid name) ∧
      Text.behind? (TypeRef.class name).canonicalName package.utf8ByteSize =
        some (TypeRef.canonicalClass rest)) ∧
    c.collectNames? .empty .empty c.referencedClasses = some (c.shortened, c.imports) := by
  constructor
  · obtain ⟨rest, whole, follows⟩ := TypeRef.exists_packageOfClass name
    have canonical := TypeRef.canonicalClass_eq_append whole
    refine ⟨TypeRef.packageOfClass name, rest, rfl, whole, canonical, follows.imp_right ?_,
      TypeRef.isValid_canonicalClass name, Text.behind?_eq_some_iff.2 ⟨_, canonical, rfl⟩⟩
    rintro ⟨simple, rfl⟩
    exact ⟨simple, rfl, TypeRef.canonicalClass_append "." simple⟩
  · refine collectNames?_eq .empty .empty fun r member => ?_
    obtain ⟨other, -, rfl⟩ := mem_referencedClasses.1 member
    exact Referenced.isNested?_ofClass other

end ClassDeclaration

end FluentWrap
