import FluentWrap.Data.Basic

/-!
The table structure of a TOML document while it is being read. A table remembers how it came
about, because that decides in which ways it may still be extended.
-/

set_option autoImplicit false

namespace FluentWrap.Toml

inductive TableKind where
  /-- Opened by a header of its own. -/
  | header
  /-- Only passed through by the header of a table inside it. -/
  | passed
  /-- Brought about by a dotted key. -/
  | dotted
  deriving DecidableEq, Repr

inductive Node where
  /-- A finished value; inline tables and lists are finished when they are read. -/
  | value (data : Data)
  /-- The tables of a repeated header, the current one apart. -/
  | tables (earlier : List (List (String × Node))) (current : List (String × Node))
  | table (kind : TableKind) (entries : List (String × Node))

abbrev Entries := List (String × Node)

def update (name : String) (change : Option Node → Option Node) : Entries → Option Entries
  | [] => (change none).map fun node => [(name, node)]
  | (other, node) :: rest =>
    if other = name then (change (some node)).map fun node => (other, node) :: rest
    else (update name change rest).map ((other, node) :: ·)

/-- Act on the table that a path leads to. Missing tables are made on the way. A dotted path
must not lead through tables that have a header. -/
def within (isDotted : Bool) (act : TableKind → Entries → Option Entries) :
    List String → TableKind → Entries → Option Entries
  | [], kind, entries => act kind entries
  | name :: path, _, entries =>
    let fresh := if isDotted then TableKind.dotted else TableKind.passed
    update name (fun
      | none => (within isDotted act path fresh []).map (.table fresh)
      | some (.value _) => none
      | some (.tables earlier current) =>
        (within isDotted act path .header current).map (.tables earlier)
      | some (.table kind inner) =>
        if isDotted ∧ kind = .header then none
        else (within isDotted act path kind inner).map (.table kind)) entries

/-- Give a value to a dotted key, the last part of which is set apart. Only tables that are
themselves due to dotted keys can be extended by one. -/
def assign (path : List String) (name : String) (data : Data) (entries : Entries) :
    Option Entries :=
  within true
    (fun kind inner =>
      -- Without a path the table is the current one, however it came about.
      if path ≠ [] ∧ kind ≠ .dotted then none
      else update name (fun | none => some (.value data) | some _ => none) inner)
    path .header entries

/-- Open the table of a header. It may have been passed through before, but not defined. -/
def openTable (path : List String) (name : String) (entries : Entries) : Option Entries :=
  within false
    (fun _ => update name fun
      | none => some (.table .header [])
      | some (.table .passed inner) => some (.table .header inner)
      | some _ => none)
    path .header entries

def openRepeated (path : List String) (name : String) (entries : Entries) : Option Entries :=
  within false
    (fun _ => update name fun
      | none => some (.tables [] [])
      | some (.tables earlier current) => some (.tables (earlier ++ [current]) [])
      | some _ => none)
    path .header entries

/-- Give a value to a dotted key below the current header. -/
def assignBelow (header path : List String) (name : String) (data : Data) (entries : Entries) :
    Option Entries :=
  within false (fun _ => assign path name data) header .header entries

mutual

def Node.toData : Node → Data
  | .value data => data
  | .tables earlier current => .list (tablesToData earlier ++ [.table (entriesToData current)])
  | .table _ entries => .table (entriesToData entries)

def entriesToData : List (String × Node) → List (String × Data)
  | [] => []
  | (name, node) :: rest => (name, node.toData) :: entriesToData rest

def tablesToData : List (List (String × Node)) → List Data
  | [] => []
  | entries :: rest => .table (entriesToData entries) :: tablesToData rest

end

end FluentWrap.Toml
