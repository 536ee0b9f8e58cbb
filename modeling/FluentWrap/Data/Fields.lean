import FluentWrap.Data.Basic

/-!
Reading records out of structured data. A record is a table with its fields by name or a list
with its fields in their order. Nothing is said about why data does not fit.
-/

set_option autoImplicit false

namespace FluentWrap

/-- What differs between the notations in which records are written. -/
structure Dialect where
  /-- What may stand beside a constant that is written as a table of one entry. -/
  isUnit : Data → Bool
  /-- Whether a record in list form may have more items than the record has fields. -/
  surplus : Bool

namespace Dialect

def json : Dialect where
  isUnit
    | .null => true
    | _ => false
  surplus := false

def toml : Dialect where
  isUnit
    | .list [] | .table [] => true
    | _ => false
  surplus := true

end Dialect

structure Fields where
  /-- Whether they were given by name. -/
  named : Bool
  entries : List (String × Data)

namespace Data

def occursOnce (entries : List (String × Data)) (name : String) : Bool :=
  (entries.filter fun e => e.1 == name).length ≤ 1

def fields? (dialect : Dialect) (names : List String) : Data → Option Fields
  | table entries => if names.all (occursOnce entries) then some ⟨true, entries⟩ else none
  | list items =>
    if dialect.surplus || items.length ≤ names.length then some ⟨false, names.zip items⟩
    else none
  | _ => none

/-- The fields of a record that admits no entries of other names. -/
def closedFields? (dialect : Dialect) (names : List String) (data : Data) : Option Fields := do
  let fields ← data.fields? dialect names
  if fields.entries.all fun e => names.contains e.1 then some fields else none

def bool? : Data → Option Bool
  | bool b => some b
  | _ => none

def string? : Data → Option String
  | string s => some s
  | _ => none

def word? : Data → Option UInt64
  | integer n => if 0 ≤ n ∧ n < UInt64.size then some (.ofNat n.toNat) else none
  | _ => none

def list? {α : Type} (read : Data → Option α) : Data → Option (List α)
  | list items => items.mapM read
  | _ => none

/-- A constant by its name, or as a table whose only entry has that name. -/
def constant? {α : Type} (dialect : Dialect) (ofName? : String → Option α) : Data → Option α
  | string name => ofName? name
  | table [(name, data)] => if dialect.isUnit data then ofName? name else none
  | _ => none

def nullable? {α : Type} (read : Data → Option α) : Data → Option (Option α)
  | null => some none
  | data => (read data).map some

end Data

namespace Fields

def get? (fields : Fields) (name : String) : Option Data :=
  (fields.entries.find? fun e => e.1 == name).map Prod.snd

def required {α : Type} (fields : Fields) (name : String) (read : Data → Option α) : Option α :=
  (fields.get? name).bind read

def defaulted {α : Type} (fields : Fields) (name : String) (value : α) (read : Data → Option α) :
    Option α :=
  match fields.get? name with
  | none => some value
  | some data => read data

/-- A field that may be null, and may be absent where fields are given by name. -/
def nullable {α : Type} (fields : Fields) (name : String) (read : Data → Option α) :
    Option (Option α) :=
  match fields.get? name with
  | none => if fields.named then some none else none
  | some data => data.nullable? read

end Fields

end FluentWrap
