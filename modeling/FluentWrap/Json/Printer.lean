import FluentWrap.Data.Basic

/-!
Writing JSON, on one line or with a line for every item and entry. Entries keep their order.
-/

set_option autoImplicit false

namespace FluentWrap.Json

def hexPair (n : Nat) : List Char :=
  [Nat.digitChar (n / 16), Nat.digitChar (n % 16)]

/-- A character inside a string. Only quotes, backslashes and controls are escaped. -/
def stringChar (c : Char) : List Char :=
  match c with
  | '"' => ['\\', '"']
  | '\\' => ['\\', '\\']
  | '\x08' => ['\\', 'b']
  | '\x0c' => ['\\', 'f']
  | '\n' => ['\\', 'n']
  | '\r' => ['\\', 'r']
  | '\t' => ['\\', 't']
  | c => if c.toNat < 32 then ['\\', 'u', '0', '0'] ++ hexPair c.toNat else [c]

def writeString (s : String) : String :=
  String.ofList (['"'] ++ s.toList.flatMap stringChar ++ ['"'])

def writeScalar : Data → String
  | .null => "null"
  | .bool true => "true"
  | .bool false => "false"
  | .integer n => toString n
  | .other spelling => spelling
  | .string s => writeString s
  | .list _ => "[]"
  | .table _ => "\x7b\x7d"

mutual

def compact : Data → String
  | .list items => "[" ++ ",".intercalate (compactItems items) ++ "]"
  | .table entries => "\x7b" ++ ",".intercalate (compactEntries entries) ++ "\x7d"
  | scalar => writeScalar scalar

def compactItems : List Data → List String
  | [] => []
  | item :: rest => compact item :: compactItems rest

def compactEntries : List (String × Data) → List String
  | [] => []
  | (name, value) :: rest => (writeString name ++ ":" ++ compact value) :: compactEntries rest

end

def lineStart (depth : Nat) : String :=
  String.ofList ('\n' :: List.replicate (2 * depth) ' ')

/-- The lines of a bracketed value; without any line the brackets stand together. -/
def bracketed (opening closing : String) (depth : Nat) (lines : List String) : String :=
  if lines.isEmpty then opening ++ closing
  else
    opening ++ lineStart (depth + 1) ++ ("," ++ lineStart (depth + 1)).intercalate lines
      ++ lineStart depth ++ closing

mutual

/-- The value with each item and entry on a line of its own, two blanks further in. -/
def pretty (depth : Nat) : Data → String
  | .list items => bracketed "[" "]" depth (prettyItems (depth + 1) items)
  | .table entries => bracketed "\x7b" "\x7d" depth (prettyEntries (depth + 1) entries)
  | scalar => writeScalar scalar

def prettyItems (depth : Nat) : List Data → List String
  | [] => []
  | item :: rest => pretty depth item :: prettyItems depth rest

def prettyEntries (depth : Nat) : List (String × Data) → List String
  | [] => []
  | (name, value) :: rest =>
    (writeString name ++ ": " ++ pretty depth value) :: prettyEntries depth rest

end

end FluentWrap.Json
