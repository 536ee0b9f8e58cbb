import FluentWrap.Files.IoError
import FluentWrap.Files.Path

/-!
File trees: what lies at which place below the root. A place is the list of the names that lead
to it. Paths are followed name by name from a working directory or from the root.

A tree holds directories and regular files. There are no symbolic links, so no two places hold the
same, no special files, and no permissions: whoever follows a path may read and write what lies
there. Whether a directory takes new files at all is left to the surroundings.
-/

set_option autoImplicit false

namespace FluentWrap

/-- What a file holds: a text, or bytes that are none. -/
inductive Contents where
  | text (s : String)
  | bytes (data : List UInt8)
  deriving DecidableEq, Repr

inductive FileEntry where
  | file (contents : Contents)
  | directory
  deriving DecidableEq, Repr

inductive EntryKind where
  | file
  | directory
  deriving DecidableEq, Repr

def FileEntry.kind : FileEntry → EntryKind
  | file _ => .file
  | directory => .directory

abbrev Place := List String

structure FileTree where
  /-- Everything below the root. -/
  entries : List (Place × FileEntry)
  deriving Repr

namespace FileTree

def empty : FileTree := ⟨[]⟩

instance : Inhabited FileTree := ⟨empty⟩

/-- What lies at a place; the root is always a directory. -/
def lookup? (tree : FileTree) (place : Place) : Option FileEntry :=
  if place = [] then some .directory
  else (tree.entries.find? fun e => e.1 = place).map Prod.snd

def put (tree : FileTree) (place : Place) (entry : FileEntry) : FileTree :=
  ⟨tree.entries.filter (fun e => e.1 ≠ place) ++ [(place, entry)]⟩

/-- A name may take this many bytes, a path one less than so many. -/
def maxName : Nat := 255

def maxPath : Nat := 4096

/-- Follow names from a place. Every place on the way must be a directory; whether something
lies at the end is not asked. -/
def walk (tree : FileTree) (here : Place) : List String → Except IoError Place
  | [] => .ok here
  | name :: rest =>
    match tree.lookup? here with
    | none => .error .notFound
    | some (.file _) => .error .notDirectory
    | some .directory =>
      if name = "" ∨ name = "." then tree.walk here rest
      else if name = ".." then tree.walk here.dropLast rest
      else if maxName < name.utf8ByteSize then .error .nameTooLong
      else tree.walk (here ++ [name]) rest

def locate (tree : FileTree) (workingDir : Place) (p : Path) : Except IoError Place :=
  if p.text.toList.contains '\x00' then .error .nulInPath
  else if p.text = "" then .error .notFound
  else if maxPath ≤ p.text.utf8ByteSize then .error .nameTooLong
  else tree.walk (if p.isAbsolute then [] else workingDir) p.segments

def stat (tree : FileTree) (workingDir : Place) (p : Path) : Except IoError EntryKind := do
  match tree.lookup? (← tree.locate workingDir p) with
  | none => .error .notFound
  | some entry => .ok entry.kind

def readText (tree : FileTree) (workingDir : Place) (p : Path) : Except IoError String := do
  match tree.lookup? (← tree.locate workingDir p) with
  | none => .error .notFound
  | some .directory => .error .isDirectory
  | some (.file (.text s)) => .ok s
  | some (.file (.bytes _)) => .error .invalidText

/-- The directory that holds the last name of a path, and that name, where there is one: a path
may also end in the root, in `.` or in `..`. The flag tells whether separators follow. -/
def locateLast (tree : FileTree) (workingDir : Place) (p : Path) :
    Except IoError (Place × Option String × Bool) := do
  let names := (p.segments.reverse.dropWhile (· = "")).reverse
  let trailing := names.length < p.segments.length
  match names.reverse with
  -- The path is empty or leads to the root.
  | [] =>
    let place ← tree.locate workingDir p
    .ok (place, none, trailing)
  | last :: front =>
    if last = "." ∨ last = ".." then
      let place ← tree.locate workingDir p
      .ok (place, none, trailing)
    else if p.text.toList.contains '\x00' then .error .nulInPath
    else if maxPath ≤ p.text.utf8ByteSize then .error .nameTooLong
    else
      -- The last name itself need not be there.
      let parent ← tree.walk (if p.isAbsolute then [] else workingDir) front.reverse
      match tree.lookup? parent with
      | none => .error .notFound
      | some (.file _) => .error .notDirectory
      | some .directory =>
        if maxName < last.utf8ByteSize then .error .nameTooLong
        else .ok (parent, some last, trailing)

def writeText (tree : FileTree) (workingDir : Place) (p : Path) (text : String) :
    Except IoError FileTree := do
  match ← tree.locateLast workingDir p with
  | (_, none, _) => .error .isDirectory
  | (_, some _, true) => .error .isDirectory
  | (parent, some name, false) =>
    match tree.lookup? (parent ++ [name]) with
    | some .directory => .error .isDirectory
    | _ => .ok (tree.put (parent ++ [name]) (.file (.text text)))

def makeDir (tree : FileTree) (workingDir : Place) (p : Path) : Except IoError FileTree := do
  match ← tree.locateLast workingDir p with
  | (_, none, _) => .error .alreadyExists
  | (parent, some name, _) =>
    match tree.lookup? (parent ++ [name]) with
    | some _ => .error .alreadyExists
    | none => .ok (tree.put (parent ++ [name]) .directory)

end FileTree

end FluentWrap
