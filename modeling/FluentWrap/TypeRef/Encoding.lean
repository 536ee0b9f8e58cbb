import FluentWrap.Data.Fields
import FluentWrap.TypeRef.Parser

/-!
Types in structured data: as their spelling.
-/

set_option autoImplicit false

namespace FluentWrap

def TypeRef.toData (t : TypeRef) : Data :=
  .string t.spelling

/-- Any spelling that can be read stands for its type. -/
def Data.typeRef? (data : Data) : Option TypeRef :=
  data.string?.bind fun s => (TypeRef.parse s).toOption

end FluentWrap
