import FluentWrap.Text.Glyph

/-!
Quoted texts as they appear in descriptions of predicates: between double quotes, with a
backslash before quotes and backslashes, and every character that does not show itself written
as an escape.
-/

set_option autoImplicit false

namespace FluentWrap.Text

/-- A code point in lower-case hexadecimal between braces, without padding. -/
def unicodeEscape (c : Char) : List Char :=
  ['\\', 'u', '\x7b'] ++ Nat.toDigits 16 c.toNat ++ ['\x7d']

def quotedChar (c : Char) : List Char :=
  match c with
  | '\x00' => ['\\', '0']
  | '\t' => ['\\', 't']
  | '\r' => ['\\', 'r']
  | '\n' => ['\\', 'n']
  | '"' => ['\\', '"']
  | '\\' => ['\\', '\\']
  | c => if showsItself c then [c] else unicodeEscape c

def quoted (s : String) : String :=
  String.ofList (['"'] ++ s.toList.flatMap quotedChar ++ ['"'])

end FluentWrap.Text
