import FluentWrap.CommandLine.Option

/-!
Usage texts, laid out from the tables of options.
-/

set_option autoImplicit false

namespace FluentWrap.CommandLine

def programName : String := "fluentgen"

def programVersion : String := "0.1.0"

def columns (rows : List (String × String)) : String :=
  let width := (rows.map fun row => row.1.length).foldl max 0
  String.join (rows.map fun (left, right) =>
    "  " ++ String.ofList (left.toList.rightpad width ' ') ++ "  " ++ right ++ "\n")

namespace OptionSpec

def shortUsage (spec : OptionSpec) : String :=
  match spec.short with
  | some c => String.ofList ['-', c, ',', ' ']
  | none => "    "

def valueUsage (spec : OptionSpec) : String :=
  match spec.arity with
  | .none => if spec.repeatable then "..." else ""
  | .one => " <" ++ spec.placeholder ++ ">"
  | .many => " <" ++ spec.placeholder ++ ">..."

def longUsage (spec : OptionSpec) : String :=
  "--" ++ spec.long ++ spec.valueUsage

def row (spec : OptionSpec) : String × String :=
  (spec.shortUsage ++ spec.longUsage, spec.about)

end OptionSpec

def requiredUsage (command : CommandName) : String :=
  String.join ((command.options.filter fun spec => command.required.contains spec.topic).map
    fun spec => " " ++ spec.longUsage)

def commandUsage (command : CommandName) : String :=
  command.about ++ "\n\nUsage: " ++ programName ++ " " ++ command.word ++ " [OPTIONS]"
    ++ requiredUsage command ++ "\n\nOptions:\n" ++ columns (command.options.map OptionSpec.row)

def programUsage : String :=
  "Generate fluent wrapper classes from type metadata\n\nUsage: " ++ programName
    ++ " <COMMAND>\n\nCommands:\n"
    ++ columns (CommandName.all.map (fun c => (c.word, c.about))
      ++ [("help", "Print this message or the help of the given subcommand(s)")])
    ++ "\nOptions:\n" ++ columns (generalOptions.map OptionSpec.row)

def usage : Option CommandName → String
  | some command => commandUsage command
  | none => programUsage

def versionLine : String :=
  programName ++ " " ++ programVersion ++ "\n"

end FluentWrap.CommandLine
