import FluentWrap.Class.Imports

/-!
The source code of a declared class, line by line.
-/

set_option autoImplicit false

namespace FluentWrap.ClassDeclaration

/-- A line that stands so many levels in, four blanks to a level. -/
def indent (level : Nat) (text : String) : String :=
  String.ofList (List.replicate (4 * level) ' ') ++ text

def spellResult (c : ClassDeclaration) : ResultType → String
  | .wrapper => c.name.simpleName
  | .delegate => c.spell c.delegateType

def parameterCode (c : ClassDeclaration) (p : FormalParameter) : String :=
  (if p.isFinal then "final " else "") ++ c.spell p.type ++ (if p.varargs then "..." else "")
    ++ " " ++ p.name

def parametersCode (c : ClassDeclaration) (parameters : List FormalParameter) : String :=
  ", ".intercalate (parameters.map c.parameterCode)

def javadocLines (text : String) : List String :=
  [indent 1 "/**"]
    ++ (Text.lines text.toList).map (fun line => indent 1 (" * " ++ String.ofList line))
    ++ [indent 1 " */"]

def statementLines (c : ClassDeclaration) : Statement → List String
  | .assignField parameter => [indent 2 ("this." ++ c.fieldName ++ " = " ++ parameter ++ ";")]
  | .returnField => [indent 2 ("return this." ++ c.fieldName ++ ";")]
  | .delegateCall method argument =>
    [indent 2 ("this." ++ c.fieldName ++ "." ++ method ++ "(" ++ argument ++ ");")]
  | .delegateLoop method elementType variableName parameter =>
    [indent 2 ("for (" ++ c.spell elementType ++ " " ++ variableName ++ " : " ++ parameter
        ++ ") \x7b"),
      indent 3 ("this." ++ c.fieldName ++ "." ++ method ++ "(" ++ variableName ++ ");"),
      indent 2 "\x7d"]
  | .constructAndWrap arguments =>
    [indent 2 ("return new " ++ c.name.simpleName ++ "(new " ++ c.spell c.delegateType ++ "("
        ++ ", ".intercalate arguments ++ "));")]
  | .returnSelf => [indent 2 "return this;"]
  | .returnSelfCall method argument =>
    [indent 2 ("return this." ++ method ++ "(" ++ (if argument then "true" else "false") ++ ");")]

def modifiersCode (modifiers : List Modifier) : String :=
  " ".intercalate (modifiers.map Modifier.keyword)

def fieldLine (c : ClassDeclaration) (m : Member) : String :=
  indent 1 (modifiersCode m.modifiers ++ " " ++ c.spellResult (m.returns.getD .delegate) ++ " "
    ++ m.name ++ ";")

def headerLine (c : ClassDeclaration) (m : Member) : String :=
  let head :=
    if m.kind.isConstructor then c.name.simpleName
    else
      match m.returns with
      | some result => c.spellResult result ++ " " ++ m.name
      | none => "void " ++ m.name
  indent 1 (modifiersCode m.modifiers ++ " " ++ head ++ "(" ++ c.parametersCode m.parameters
    ++ ") \x7b")

def memberLines (c : ClassDeclaration) (m : Member) : List String :=
  (m.javadoc.map javadocLines).getD []
    ++ if m.kind.isField then [c.fieldLine m]
      else [c.headerLine m] ++ m.body.flatMap c.statementLines ++ [indent 1 "\x7d"]

def packageLines (c : ClassDeclaration) : List String :=
  if c.name.package = "" then [] else ["package " ++ c.name.package ++ ";", ""]

def importLines (c : ClassDeclaration) : List String :=
  if c.imports.toList.isEmpty then []
  else c.imports.toList.map (fun name => "import " ++ name ++ ";") ++ [""]

def stampLines (c : ClassDeclaration) : List String :=
  match c.stamp with
  | none => []
  | some a =>
    ["@" ++ c.shortName Referenced.stamp.canonicalName ++ "(value = \"" ++ a.value
      ++ "\", date = \"" ++ a.date ++ "\")"]

def sourceLines (c : ClassDeclaration) : List String :=
  c.packageLines ++ c.importLines ++ c.stampLines
    ++ ["public final class " ++ c.name.simpleName ++ " \x7b"]
    ++ c.members.flatMap (fun m => "" :: c.memberLines m)
    ++ ["\x7d"]

/-- The source file: every line ends with a line feed. -/
def source (c : ClassDeclaration) : String :=
  String.join (c.sourceLines.map (· ++ "\n"))

end FluentWrap.ClassDeclaration
