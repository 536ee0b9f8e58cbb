import FluentWrap.Data.Basic

/-!
Reading JSON. The text is cut into tokens, and the tokens drive a machine whose stack holds the
lists and tables that are still open. The grammar is the strict one: no comments, no trailing
commas, no control characters in strings, no lone surrogates.
-/

set_option autoImplicit false

namespace FluentWrap.Json

inductive Token where
  | openList
  | closeList
  | openTable
  | closeTable
  | colon
  | comma
  | scalar (value : Data)
  deriving Repr

def hexDigit? (c : Char) : Option Nat :=
  if '0' ≤ c ∧ c ≤ '9' then some (c.toNat - '0'.toNat)
  else if 'a' ≤ c ∧ c ≤ 'f' then some (c.toNat - 'a'.toNat + 10)
  else if 'A' ≤ c ∧ c ≤ 'F' then some (c.toNat - 'A'.toNat + 10)
  else none

def hex? (digits : List Char) : Option Nat :=
  digits.foldlM (fun n c => (hexDigit? c).map (n * 16 + ·)) 0

def char? (code : Nat) : Option Char :=
  if h : code.isValidChar then some (.ofNatAux code h) else none

def isHighSurrogate (code : Nat) : Bool := 0xD800 ≤ code && code ≤ 0xDBFF

def isLowSurrogate (code : Nat) : Bool := 0xDC00 ≤ code && code ≤ 0xDFFF

def simpleEscape? : Char → Option Char
  | '"' => some '"'
  | '\\' => some '\\'
  | '/' => some '/'
  | 'b' => some '\x08'
  | 'f' => some '\x0c'
  | 'n' => some '\n'
  | 'r' => some '\r'
  | 't' => some '\t'
  | _ => none

/-- The second half of a character whose first half is a high surrogate: a low surrogate, written by
its number. -/
def readLowHalf? (high : Nat) : List Char → Option (Char × List Char)
  | '\\' :: 'u' :: a :: b :: c :: d :: rest =>
    match hex? [a, b, c, d] with
    | none => none
    | some low =>
      if isLowSurrogate low then
        (char? (0x10000 + (high - 0xD800) * 0x400 + (low - 0xDC00))).map (·, rest)
      else none
  | _ => none

/-- Read an escape behind its backslash: the character, and what follows. -/
def readEscape? : List Char → Option (Char × List Char)
  | 'u' :: a :: b :: c :: d :: rest =>
    match hex? [a, b, c, d] with
    | none => none
    | some code =>
      if isHighSurrogate code then readLowHalf? code rest else (char? code).map (·, rest)
  | c :: rest => (simpleEscape? c).map (·, rest)
  | [] => none

theorem readLowHalf?_shorter {high : Nat} {s rest : List Char} {char : Char}
    (read : readLowHalf? high s = some (char, rest)) : rest.length < s.length := by
  unfold readLowHalf? at read
  split at read
  · split at read
    · cases read
    · split at read
      · obtain ⟨_, -, same⟩ := Option.map_eq_some_iff.1 read
        cases same
        simp only [List.length_cons]
        omega
      · cases read
  · cases read

theorem readEscape?_shorter {s rest : List Char} {char : Char}
    (read : readEscape? s = some (char, rest)) : rest.length < s.length := by
  unfold readEscape? at read
  split at read
  · split at read
    · cases read
    · split at read
      · have shorter := readLowHalf?_shorter read
        simp only [List.length_cons]
        omega
      · obtain ⟨_, -, same⟩ := Option.map_eq_some_iff.1 read
        cases same
        simp only [List.length_cons]
        omega
  · obtain ⟨_, -, same⟩ := Option.map_eq_some_iff.1 read
    cases same
    exact Nat.lt_succ_self _
  · cases read

/-- Read a string behind its opening quote, the part read so far reversed in front. Gives the
string and what follows its closing quote. -/
def readString (front : List Char) : List Char → Option (String × List Char)
  | [] => none
  | '"' :: rest => some (String.ofList front.reverse, rest)
  | '\\' :: rest =>
    match _read : readEscape? rest with
    | none => none
    | some (char, rest') => readString (char :: front) rest'
  | c :: rest => if c.toNat < 32 then none else readString (c :: front) rest
termination_by s => s.length
decreasing_by
  · have shorter := readEscape?_shorter _read
    simp only [List.length_cons]
    omega
  · exact Nat.lt_succ_self _

def spanDigits (s : List Char) : List Char × List Char :=
  (s.takeWhile Char.isDigit, s.dropWhile Char.isDigit)

def decimal (digits : List Char) : Nat :=
  digits.foldl (fun n c => n * 10 + (c.toNat - '0'.toNat)) 0

def readFraction? (s : List Char) : Option (List Char × List Char) := do
  let (fraction, rest) ←
    match s with
    | '.' :: rest =>
      let (digits, rest) := spanDigits rest
      if digits = [] then none else some ('.' :: digits, rest)
    | _ => some ([], s)
  match rest with
  | e :: rest' =>
    if e = 'e' ∨ e = 'E' then
      let (sign, rest'') :=
        match rest' with
        | '+' :: r => (['+'], r)
        | '-' :: r => (['-'], r)
        | _ => ([], rest')
      let (digits, rest) := spanDigits rest''
      if digits = [] then none else some (fraction ++ e :: sign ++ digits, rest)
    else some (fraction, rest)
  | [] => some (fraction, rest)

/-- Read a number. It is an integer unless it has a fraction, an exponent or a negative zero. -/
def readNumber? (s : List Char) : Option (Data × List Char) := do
  let (negative, unsigned) :=
    match s with
    | '-' :: rest => (true, rest)
    | _ => (false, s)
  let (digits, rest) := spanDigits unsigned
  let (tail, rest) ← readFraction? rest
  if digits = [] ∨ (digits.length > 1 ∧ digits.head? = some '0') then none
  else if tail = [] ∧ ¬ (negative ∧ decimal digits = 0) then
    some (.integer (if negative then -(decimal digits : Int) else decimal digits), rest)
  else
    some (.other (String.ofList ((if negative then ['-'] else []) ++ digits ++ tail)), rest)

/-- The first token of a text that begins with none of the blanks, and the rest. -/
def readToken? : List Char → Option (Token × List Char)
  | '[' :: rest => some (.openList, rest)
  | ']' :: rest => some (.closeList, rest)
  | '\x7b' :: rest => some (.openTable, rest)
  | '\x7d' :: rest => some (.closeTable, rest)
  | ':' :: rest => some (.colon, rest)
  | ',' :: rest => some (.comma, rest)
  | '"' :: rest => (readString [] rest).map fun (s, rest) => (.scalar (.string s), rest)
  | 'n' :: 'u' :: 'l' :: 'l' :: rest => some (.scalar .null, rest)
  | 't' :: 'r' :: 'u' :: 'e' :: rest => some (.scalar (.bool true), rest)
  | 'f' :: 'a' :: 'l' :: 's' :: 'e' :: rest => some (.scalar (.bool false), rest)
  | s => (readNumber? s).map fun (n, rest) => (.scalar n, rest)

def isJsonBlank (c : Char) : Bool :=
  c = ' ' || c = '\t' || c = '\n' || c = '\r'

/-- Cut a text into tokens; each takes at least one character, so as many steps as there are
characters are enough. -/
def tokens? : Nat → List Char → Option (List Token)
  | fuel, s =>
    match s.dropWhile isJsonBlank with
    | [] => some []
    | c :: rest =>
      match fuel with
      | 0 => none
      | fuel + 1 =>
        match readToken? (c :: rest) with
        | none => none
        | some (token, rest) => (tokens? fuel rest).map (token :: ·)

/-- A list or table that is still open, its content reversed. -/
inductive Frame where
  | list (items : List Data)
  | table (entries : List (String × Data))
  /-- A table that waits for the value of a name. -/
  | entry (entries : List (String × Data)) (name : String)

inductive State where
  | value (frames : List Frame)
  /-- Behind the opening bracket of a list. -/
  | firstItem (frames : List Frame)
  /-- Behind the opening bracket of a table. -/
  | firstName (frames : List Frame)
  | name (frames : List Frame)
  | colon (frames : List Frame) (name : String)
  /-- Behind an item of a list or an entry of a table. -/
  | after (frames : List Frame)
  | done (value : Data)

/-- Lists and tables may be nested this deep. -/
def maxDepth : Nat := 127

/-- Hand a finished value to the innermost open list or table. -/
def fill : List Frame → Data → Option State
  | [], v => some (.done v)
  | .list items :: frames, v => some (.after (.list (v :: items) :: frames))
  | .entry entries name :: frames, v => some (.after (.table ((name, v) :: entries) :: frames))
  -- In a table no value comes without a name.
  | .table _ :: _, _ => none

def openFrame (frames : List Frame) (frame : Frame) : Option (List Frame) :=
  if frames.length < maxDepth then some (frame :: frames) else none

def startValue (frames : List Frame) : Token → Option State
  | .scalar v => fill frames v
  | .openList => (openFrame frames (.list [])).map .firstItem
  | .openTable => (openFrame frames (.table [])).map .firstName
  | _ => none

def step : State → Token → Option State
  | .value frames, token => startValue frames token
  -- Only right behind an opening bracket may a closing one follow: no comma comes last.
  | .firstItem (_ :: frames), .closeList => fill frames (.list [])
  | .firstItem frames, token => startValue frames token
  | .firstName (_ :: frames), .closeTable => fill frames (.table [])
  | .firstName frames, .scalar (.string name) => some (.colon frames name)
  | .name frames, .scalar (.string name) => some (.colon frames name)
  | .colon (.table entries :: frames) name, .colon => some (.value (.entry entries name :: frames))
  | .after (.list items :: frames), .comma => some (.value (.list items :: frames))
  | .after (.list items :: frames), .closeList => fill frames (.list items.reverse)
  | .after (.table entries :: frames), .comma => some (.name (.table entries :: frames))
  | .after (.table entries :: frames), .closeTable => fill frames (.table entries.reverse)
  | _, _ => none

def read? (text : String) : Option Data := do
  let tokens ← tokens? text.length text.toList
  match ← tokens.foldlM step (.value []) with
  | .done v => some v
  | _ => none

end FluentWrap.Json
