import FluentWrap.Json.Reader
import FluentWrap.Toml.Document
import FluentWrap.Toml.Scalar

/-!
Reading TOML: keys, strings in their four forms, lists, inline tables, and the lines of a
document. Inline tables may run over several lines and end with a comma. Nesting and dotted keys
are bounded.
-/

set_option autoImplicit false

namespace FluentWrap.Toml

def isTomlBlank (c : Char) : Bool :=
  c = ' ' || c = '\t'

/-- Whether a character may stand in a comment or, quotes apart, in a string. -/
def isPlain (c : Char) : Bool :=
  c = '\t' || (32 ≤ c.toNat && c.toNat ≠ 127)

/-- Skip blanks, line ends and comments; the flag says whether the text begins in a comment. -/
def skipLayout : Bool → List Char → Option (List Char)
  | _, [] => some []
  | _, '\n' :: rest => skipLayout false rest
  | _, '\r' :: '\n' :: rest => skipLayout false rest
  | true, c :: rest => if isPlain c then skipLayout true rest else none
  | false, '#' :: rest => skipLayout true rest
  | false, c :: rest => if isTomlBlank c then skipLayout false rest else some (c :: rest)

def endLine? (s : List Char) : Option (List Char) :=
  match s.dropWhile isTomlBlank with
  | [] => some []
  | '\n' :: rest => some rest
  | '\r' :: '\n' :: rest => some rest
  | '#' :: rest =>
    match rest.dropWhile isPlain with
    | [] => some []
    | '\n' :: rest => some rest
    | '\r' :: '\n' :: rest => some rest
    | _ => none
  | _ => none

/-- Skip blanks and line ends after a backslash that ends a line. -/
def skipFold : List Char → List Char
  | ' ' :: rest => skipFold rest
  | '\t' :: rest => skipFold rest
  | '\n' :: rest => skipFold rest
  | '\r' :: '\n' :: rest => skipFold rest
  | s => s

/-- Whether a text holds only blanks up to the end of its line. -/
def endsLine (s : List Char) : Bool :=
  match s.dropWhile isTomlBlank with
  | '\n' :: _ => true
  | '\r' :: '\n' :: _ => true
  | _ => false

/-- The escape behind a backslash: the character, and what follows. -/
def readEscape? : List Char → Option (Char × List Char)
  | 'b' :: rest => some ('\x08', rest)
  | 't' :: rest => some ('\t', rest)
  | 'n' :: rest => some ('\n', rest)
  | 'f' :: rest => some ('\x0c', rest)
  | 'r' :: rest => some ('\r', rest)
  | 'e' :: rest => some ('\x1b', rest)
  | '"' :: rest => some ('"', rest)
  | '\\' :: rest => some ('\\', rest)
  | 'x' :: a :: b :: rest =>
    ((Json.hex? [a, b]).bind Json.char?).map fun c => (c, rest)
  | 'u' :: a :: b :: c :: d :: rest =>
    ((Json.hex? [a, b, c, d]).bind Json.char?).map fun c => (c, rest)
  | 'U' :: a :: b :: c :: d :: e :: f :: g :: h :: rest =>
    ((Json.hex? [a, b, c, d, e, f, g, h]).bind Json.char?).map fun c => (c, rest)
  | _ => none

def readBasic : Nat → List Char → List Char → Option (List Char × List Char)
  | 0, _, _ => none
  | fuel + 1, front, s =>
    match s with
    | [] => none
    | '"' :: rest => some (front.reverse, rest)
    | '\\' :: rest =>
      match readEscape? rest with
      | none => none
      | some (c, rest) => readBasic fuel (c :: front) rest
    | c :: rest => if isPlain c then readBasic fuel (c :: front) rest else none

def readLiteral (front : List Char) : List Char → Option (List Char × List Char)
  | [] => none
  | '\'' :: rest => some (front.reverse, rest)
  | c :: rest => if isPlain c then readLiteral (c :: front) rest else none

/-- Where a string of several lines may end: three quotes close it, and up to two quotes before
them belong to it. Gives those quotes and what follows. -/
def closing? (quote : Char) (s : List Char) : Option (List Char × List Char) :=
  let run := (s.takeWhile (· = quote)).length
  if run < 3 then none
  else some (List.replicate (min run 5 - 3) quote, s.drop (min run 5))

/-- Read a string of several lines behind its opening quotes. Escapes count only between double
quotes. Line ends are kept as they are. -/
def readMultiline (quote : Char) : Nat → List Char → List Char → Option (List Char × List Char)
  | 0, _, _ => none
  | fuel + 1, front, s =>
    match closing? quote s with
    | some (quotes, rest) => some (front.reverse ++ quotes, rest)
    | none =>
      match s with
      | [] => none
      | '\n' :: rest => readMultiline quote fuel ('\n' :: front) rest
      | '\r' :: '\n' :: rest => readMultiline quote fuel ('\n' :: '\r' :: front) rest
      | c :: rest =>
        if c = '\\' ∧ quote = '"' then
          -- A backslash at the end of a line joins it to the next text.
          if endsLine rest then readMultiline quote fuel front (skipFold rest)
          else
            match readEscape? rest with
            | none => none
            | some (c, rest) => readMultiline quote fuel (c :: front) rest
        else if isPlain c then readMultiline quote fuel (c :: front) rest
        else none

/-- A line end right behind the opening quotes does not belong to the string. -/
def dropFirstLineEnd : List Char → List Char
  | '\n' :: rest => rest
  | '\r' :: '\n' :: rest => rest
  | s => s

def readString? (s : List Char) : Option (List Char × List Char) :=
  match s with
  | '"' :: '"' :: '"' :: rest => readMultiline '"' s.length [] (dropFirstLineEnd rest)
  | '\'' :: '\'' :: '\'' :: rest => readMultiline '\'' s.length [] (dropFirstLineEnd rest)
  | '"' :: rest => readBasic s.length [] rest
  | '\'' :: rest => readLiteral [] rest
  | _ => none

def isKeyChar (c : Char) : Bool :=
  c.isAlphanum || c = '_' || c = '-'

/-- One part of a key: bare, or quoted on one line. -/
def readKeyPart? (s : List Char) : Option (String × List Char) :=
  match s with
  | '"' :: rest => (readBasic s.length [] rest).map fun (k, rest) => (String.ofList k, rest)
  | '\'' :: rest => (readLiteral [] rest).map fun (k, rest) => (String.ofList k, rest)
  | _ =>
    let part := s.takeWhile isKeyChar
    if part = [] then none else some (String.ofList part, s.dropWhile isKeyChar)

/-- Lists and inline tables may be nested this deep, and a dotted key may have so many parts. -/
def maxDepth : Nat := 80

/-- The parts of a dotted key: those before the last, the last, and what follows behind
blanks. -/
def readKeyParts? : Nat → List Char → Option (List String × String × List Char)
  | 0, _ => none
  | fuel + 1, s =>
    match readKeyPart? (s.dropWhile isTomlBlank) with
    | none => none
    | some (part, rest) =>
      match rest.dropWhile isTomlBlank with
      | '.' :: rest =>
        (readKeyParts? fuel rest).map fun (path, last, rest) => (part :: path, last, rest)
      | rest => some ([], part, rest)

/-- A dotted key, cut like its parts. -/
def readKey? (s : List Char) : Option (List String × String × List Char) :=
  match readKeyParts? s.length s with
  | some (path, last, rest) => if path.length < maxDepth then some (path, last, rest) else none
  | none => none

def endsScalar (c : Char) : Bool :=
  isTomlBlank c || [',', '[', ']', '\x7b', '\x7d', '=', '#', '\r', '\n'].contains c

/-- A scalar without quotes. A blank may part the date from the time. -/
def readBare? (s : List Char) : Option (Data × List Char) :=
  let word := s.takeWhile fun c => !endsScalar c
  let rest := s.dropWhile fun c => !endsScalar c
  if word = "true".toList then some (.bool true, rest)
  else if word = "false".toList then some (.bool false, rest)
  else
    let (word, rest) :=
      match afterDate? word, rest with
      | some [], ' ' :: d :: more =>
        if d.isDigit then
          (word ++ ' ' :: (d :: more).takeWhile (fun c => !endsScalar c),
            (d :: more).dropWhile fun c => !endsScalar c)
        else (word, rest)
      | _, _ => (word, rest)
    if isBareScalar word then some (.other (String.ofList word), rest) else none

mutual

/-- Read a value. The fuel bounds the number of values and separators still to come, the room
how deep lists and tables may be nested. -/
def readValue? : Nat → Nat → List Char → Option (Data × List Char)
  | 0, _, _ => none
  | fuel + 1, room, s =>
    match s with
    | '[' :: rest => if room = 0 then none else readItems? fuel (room - 1) [] rest
    | '\x7b' :: rest => if room = 0 then none else readPairs? fuel (room - 1) [] rest
    | '"' :: _ | '\'' :: _ =>
      (readString? s).map fun (t, rest) => (.string (String.ofList t), rest)
    | _ => readBare? s

/-- Read the items of a list up to its closing bracket; those read are reversed in front. -/
def readItems? : Nat → Nat → List Data → List Char → Option (Data × List Char)
  | 0, _, _, _ => none
  | fuel + 1, room, front, s =>
    match skipLayout false s with
    | none => none
    | some (']' :: rest) => some (.list front.reverse, rest)
    | some s =>
      match readValue? fuel room s with
      | none => none
      | some (item, rest) =>
        match skipLayout false rest with
        | some (',' :: rest) => readItems? fuel room (item :: front) rest
        | some (']' :: rest) => some (.list (item :: front).reverse, rest)
        | _ => none

/-- Read the entries of an inline table up to its closing brace. A line may end anywhere but
within a key. -/
def readPairs? : Nat → Nat → Entries → List Char → Option (Data × List Char)
  | 0, _, _, _ => none
  | fuel + 1, room, entries, s =>
    match skipLayout false s with
    | none => none
    | some ('\x7d' :: rest) => some (.table (entriesToData entries), rest)
    | some s =>
      match readKey? s with
      | none => none
      | some (path, name, rest) =>
        match skipLayout false rest with
        | some ('=' :: rest) =>
          match (skipLayout false rest).bind (readValue? fuel room) with
          | none => none
          | some (value, rest) =>
            match assign path name value entries with
            | none => none
            | some entries =>
              match skipLayout false rest with
              | some (',' :: rest) => readPairs? fuel room entries rest
              | some ('\x7d' :: rest) => some (.table (entriesToData entries), rest)
              | _ => none
        | _ => none

end

/-- The state between two lines: the document so far and the header that key lines belong to. -/
structure Reading where
  root : Entries
  header : List String

def readLine? (reading : Reading) (s : List Char) : Option (Reading × List Char) :=
  match s with
  | '[' :: '[' :: rest =>
    match readKey? rest with
    | some (path, name, ']' :: ']' :: rest) => do
      let root ← openRepeated path name reading.root
      some (⟨root, path ++ [name]⟩, ← endLine? rest)
    | _ => none
  | '[' :: rest =>
    match readKey? rest with
    | some (path, name, ']' :: rest) => do
      let root ← openTable path name reading.root
      some (⟨root, path ++ [name]⟩, ← endLine? rest)
    | _ => none
  | _ =>
    match readKey? s with
    | some (path, name, '=' :: rest) => do
      let (value, rest) ← readValue? (2 * s.length + 2) maxDepth (rest.dropWhile isTomlBlank)
      let root ← assignBelow reading.header path name value reading.root
      some (⟨root, reading.header⟩, ← endLine? rest)
    | _ => none

/-- Read the lines of a document; each takes at least one character. -/
def readLines? : Nat → Reading → List Char → Option Entries
  | fuel, reading, s =>
    match skipLayout false s with
    | none => none
    | some [] => some reading.root
    | some s =>
      match fuel with
      | 0 => none
      | fuel + 1 =>
        match readLine? reading s with
        | none => none
        | some (reading, rest) => readLines? fuel reading rest

/-- The table that a text denotes, if it is TOML. A byte order mark in front does not count. -/
def read? (text : String) : Option Data :=
  let body :=
    match text.toList with
    | '\ufeff' :: rest => rest
    | s => s
  (readLines? text.length ⟨[], []⟩ body).map fun entries => .table (entriesToData entries)

end FluentWrap.Toml
