/-!
Structured data as settings, manifests and plans are written down: scalars, lists and tables.
-/

set_option autoImplicit false

namespace FluentWrap

inductive Data where
  | null
  | bool (b : Bool)
  | integer (n : Int)
  /-- A scalar of another kind, such as a fraction or a date, by its spelling. -/
  | other (spelling : String)
  | string (s : String)
  | list (items : List Data)
  /-- Entries in the order of writing. -/
  | table (entries : List (String × Data))
  deriving Repr, Inhabited

end FluentWrap
