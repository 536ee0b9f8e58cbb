import FluentWrap.Text.Quoted

/-!
The ways in which access to files fails.
-/

set_option autoImplicit false

namespace FluentWrap

inductive IoError where
  | notFound
  | alreadyExists
  | notDirectory
  | isDirectory
  | nameTooLong
  | nulInPath
  | invalidText
  /-- A failure that is known by its text alone. -/
  | other (text : String)
  deriving DecidableEq, Repr

namespace IoError

def message : IoError → String
  | notFound => "No such file or directory (os error 2)"
  | alreadyExists => "File exists (os error 17)"
  | notDirectory => "Not a directory (os error 20)"
  | isDirectory => "Is a directory (os error 21)"
  | nameTooLong => "File name too long (os error 36)"
  | nulInPath => "file name contained an unexpected NUL byte"
  | invalidText => "stream did not contain valid UTF-8"
  | other text => text

/-- The failure, told with the path at which it came up. -/
def located (e : IoError) (path : String) : IoError :=
  other (e.message ++ " at path " ++ Text.quoted path)

end IoError

end FluentWrap
