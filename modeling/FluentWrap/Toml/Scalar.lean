/-!
Scalars without quotes: numbers, dates and times. Only their form is told; no field of this
library takes one.
-/

set_option autoImplicit false

namespace FluentWrap.Toml

/-- Whether every underscore stands between two digits of a class. The flag tells whether a
digit comes right before the text. -/
def areGrouped (isDigit : Char → Bool) : Bool → List Char → Bool
  | _, [] => true
  | _, ['_'] => false
  | behindDigit, '_' :: c :: rest =>
    behindDigit && isDigit c && areGrouped isDigit true rest
  | _, c :: rest => areGrouped isDigit (isDigit c) rest

def isHexDigit (c : Char) : Bool :=
  c.isDigit || ('a' ≤ c && c ≤ 'f') || ('A' ≤ c && c ≤ 'F')

/-- Whether a text holds only digits of a class and underscores. -/
def isSpread (isDigit : Char → Bool) (s : List Char) : Bool :=
  s.all fun c => isDigit c || c = '_'

def dropSign : List Char → List Char
  | '+' :: rest => rest
  | '-' :: rest => rest
  | s => s

/-- The digits behind the mark of their base, if there are any. -/
def isInBase (isDigit : Char → Bool) (digits : List Char) : Bool :=
  isSpread isDigit digits && areGrouped isDigit false digits

/-- Decimal digits without a leading zero. Behind an underscore only the characters beside the
underscores are looked at, and any hexadecimal digit may stand there. -/
def isDecimal (s : List Char) : Bool :=
  let tail := s.dropWhile Char.isDigit
  s = ['0'] ||
    s ≠ [] && s.head? ≠ some '0' && (tail = [] || tail.head? = some '_')
      && !tail.any (['.', 'e', 'E'].contains ·) && areGrouped isHexDigit false s

def isInteger : List Char → Bool
  | '0' :: 'x' :: digits => isInBase isHexDigit digits
  | '0' :: 'o' :: digits => isInBase (fun c => '0' ≤ c && c ≤ '7') digits
  | '0' :: 'b' :: digits => isInBase (fun c => c = '0' || c = '1') digits
  | s => isDecimal (dropSign s)

def cutAt (isCut : Char → Bool) (s : List Char) : List Char × Option (List Char) :=
  match s.dropWhile fun c => !isCut c with
  | [] => (s, none)
  | _ :: rest => (s.takeWhile fun c => !isCut c, some rest)

def isDigitRun (s : List Char) : Bool :=
  isSpread Char.isDigit s && s.any Char.isDigit

def hasLeadingZero (s : List Char) : Bool :=
  s.head? = some '0' && 1 < s.countP Char.isDigit

def isFloat (s : List Char) : Bool :=
  let unsigned := dropSign s
  if unsigned = ['i', 'n', 'f'] ∨ unsigned = ['n', 'a', 'n'] then true
  else
    let (mantissa, exponent) := cutAt (fun c => c = 'e' || c = 'E') unsigned
    let (whole, fraction) := cutAt (· = '.') mantissa
    (fraction.isSome || exponent.isSome) && isDigitRun whole && !hasLeadingZero whole
      && fraction.all isDigitRun && exponent.all (fun e => isDigitRun (dropSign e))
      && areGrouped Char.isDigit false unsigned

def valueOfDigits (digits : List Char) : Nat :=
  digits.foldl (fun n c => n * 10 + (c.toNat - '0'.toNat)) 0

def isPair (least most : Nat) (a b : Char) : Bool :=
  let n := valueOfDigits [a, b]
  a.isDigit && b.isDigit && least ≤ n && n ≤ most

def daysInMonth (year month : Nat) : Nat :=
  if month = 2 then
    if year % 4 = 0 ∧ (year % 100 ≠ 0 ∨ year % 400 = 0) then 29 else 28
  else if month ∈ [4, 6, 9, 11] then 30
  else 31

/-- The rest of a text behind a date. -/
def afterDate? : List Char → Option (List Char)
  | y₁ :: y₂ :: y₃ :: y₄ :: '-' :: m₁ :: m₂ :: '-' :: d₁ :: d₂ :: rest =>
    let days := daysInMonth (valueOfDigits [y₁, y₂, y₃, y₄]) (valueOfDigits [m₁, m₂])
    if [y₁, y₂, y₃, y₄].all Char.isDigit && isPair 1 12 m₁ m₂ && isPair 1 days d₁ d₂ then some rest
    else none
  | _ => none

/-- The rest of a text behind a time; the seconds and their fraction may be missing. -/
def afterTime? : List Char → Option (List Char)
  | h₁ :: h₂ :: ':' :: m₁ :: m₂ :: rest =>
    if isPair 0 23 h₁ h₂ && isPair 0 59 m₁ m₂ then
      match rest with
      | ':' :: s₁ :: s₂ :: rest =>
        if isPair 0 60 s₁ s₂ then
          match rest with
          | '.' :: rest =>
            if (rest.takeWhile Char.isDigit).isEmpty then none
            else some (rest.dropWhile Char.isDigit)
          | _ => some rest
        else none
      | _ => some rest
    else none
  | _ => none

def isOffset : List Char → Bool
  | [] => true
  | ['Z'] => true
  | ['z'] => true
  | [sign, h₁, h₂, ':', m₁, m₂] =>
    (sign = '+' || sign = '-') && isPair 0 23 h₁ h₂ && isPair 0 59 m₁ m₂
  | _ => false

def isDateTime (s : List Char) : Bool :=
  match afterDate? s with
  | some [] => true
  | some (t :: rest) =>
    (t = 'T' || t = 't' || t = ' ') && (afterTime? rest).any isOffset
  | none => afterTime? s = some []

/-- Whether a text without quotes is a scalar other than a truth value. -/
def isBareScalar (s : List Char) : Bool :=
  isInteger s || isFloat s || isDateTime s

end FluentWrap.Toml
