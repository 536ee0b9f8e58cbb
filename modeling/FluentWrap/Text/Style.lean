/-!
Styles of terminal text. A styled text begins with the mark of its style and ends with a reset;
after a reset inside the text the style is taken up again.
-/

set_option autoImplicit false

namespace FluentWrap.Text

inductive Style where
  | boldRed | boldGreen | boldYellow | boldBlue | boldCyan
  | yellow
  | cyan
  | dim
  deriving DecidableEq, Repr

def Style.mark : Style → String
  | boldRed => "\x1b[1;31m"
  | boldGreen => "\x1b[1;32m"
  | boldYellow => "\x1b[1;33m"
  | boldBlue => "\x1b[1;34m"
  | boldCyan => "\x1b[1;36m"
  | yellow => "\x1b[33m"
  | cyan => "\x1b[36m"
  | dim => "\x1b[2m"

def reset : String := "\x1b[0m"

def resume (mark : List Char) : List Char → List Char
  | '\x1b' :: '[' :: '0' :: 'm' :: rest => reset.toList ++ mark ++ resume mark rest
  | c :: rest => c :: resume mark rest
  | [] => []

/-- A text in a style, or plain where no styles are wanted. -/
def paint (styled : Bool) (style : Style) (text : String) : String :=
  if styled then
    style.mark ++ String.ofList (resume style.mark.toList text.toList) ++ reset
  else text

@[simp] theorem paint_plain (style : Style) (text : String) : paint false style text = text :=
  rfl

end FluentWrap.Text
