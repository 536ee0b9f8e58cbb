import FluentWrap.Command.ShowPlan

/-!
The options of the commands. An option takes no value, exactly one, or as many as follow it;
each command has its own table of options.
-/

set_option autoImplicit false

namespace FluentWrap.CommandLine

inductive Topic where
  | manifest | type | config | rootPackage | targetDir | pattern | ignore | unstamped
  | verbose | format | force
  | help | version
  deriving DecidableEq, Repr

inductive Arity where
  | none
  | one
  /-- One value at least, and all that follow. -/
  | many
  deriving DecidableEq, Repr

structure OptionSpec where
  topic : Topic
  long : String
  short : Option Char := Option.none
  arity : Arity
  repeatable : Bool
  /-- Whether a text may be a value. -/
  accepts : String → Bool := fun _ => true
  placeholder : String := ""
  about : String

namespace OptionSpec

def isNonempty (value : String) : Bool :=
  value ≠ ""

def takesValue (spec : OptionSpec) : Bool :=
  spec.arity ≠ .none

def manifest : OptionSpec :=
  ⟨.manifest, "manifest", some 'm', .many, true, isNonempty, "MANIFESTS",
    "Manifest files (JSON or TOML) describing source types"⟩

def types : OptionSpec :=
  ⟨.type, "type", some 't', .one, true, fun _ => true, "TYPES",
    "Types to generate (defaults to every type in the manifests)"⟩

def onlyType : OptionSpec :=
  ⟨.type, "type", some 't', .one, false, fun _ => true, "TYPE_NAME", "Source type to plan"⟩

def format : OptionSpec :=
  ⟨.format, "format", some 'f', .one, false, fun v => (Command.PlanFormat.ofName? v).isSome,
    "FORMAT", "Output format [default: terminal] [possible values: terminal, json]"⟩

def config : OptionSpec :=
  ⟨.config, "config", some 'c', .one, false, isNonempty, "CONFIG",
    "Configuration file (defaults to the nearest .fluentgen.toml)"⟩

def rootPackage : OptionSpec :=
  ⟨.rootPackage, "root-package", none, .one, false, fun _ => true, "ROOT_PACKAGE",
    "Package for generated classes (blank keeps the source package)"⟩

def targetDir : OptionSpec :=
  ⟨.targetDir, "target-dir", none, .one, false, isNonempty, "TARGET_DIR",
    "Output directory for generated sources"⟩

def pattern : OptionSpec :=
  ⟨.pattern, "pattern", none, .one, false, fun _ => true, "PATTERN",
    "Generated class name pattern: package, then simple name (e.g. \"%s.Fluent%s\")"⟩

def ignore : OptionSpec :=
  ⟨.ignore, "ignore", none, .one, true, fun _ => true, "IGNORE",
    "Method names to skip (comma-separated)"⟩

def unstamped : OptionSpec :=
  ⟨.unstamped, "no-generated-annotation", none, .none, false, fun _ => true, "",
    "Do not annotate generated classes with @Generated"⟩

def verbose : OptionSpec :=
  ⟨.verbose, "verbose", some 'v', .none, true, fun _ => true, "",
    "Increase verbosity (-v info, -vv debug, -vvv trace)"⟩

def force : OptionSpec :=
  ⟨.force, "force", some 'f', .none, false, fun _ => true, "",
    "Force overwrite existing config"⟩

def help : OptionSpec :=
  ⟨.help, "help", some 'h', .none, false, fun _ => true, "", "Print help"⟩

def version : OptionSpec :=
  ⟨.version, "version", some 'V', .none, false, fun _ => true, "", "Print version"⟩

end OptionSpec

inductive CommandName where
  | generate
  | plan
  | init
  deriving DecidableEq, Repr

namespace CommandName

def all : List CommandName := [generate, plan, init]

def word : CommandName → String
  | generate => "generate"
  | plan => "plan"
  | init => "init"

def ofWord? (word : String) : Option CommandName :=
  all.find? fun c => c.word == word

@[simp] theorem ofWord?_word (c : CommandName) : ofWord? c.word = some c := by
  cases c <;> decide

def about : CommandName → String
  | generate => "Generate wrapper sources for types described in manifests"
  | plan => "Print the generation plan for one type without writing anything"
  | init => "Initialize a .fluentgen.toml configuration file"

def overrideOptions : List OptionSpec :=
  [.config, .rootPackage, .targetDir, .pattern, .ignore, .unstamped]

def options : CommandName → List OptionSpec
  | generate => [.manifest, .types] ++ overrideOptions ++ [.verbose, .help]
  | plan => [.manifest, .onlyType, .format] ++ overrideOptions ++ [.verbose, .help]
  | init => [.force, .help]

def required : CommandName → List Topic
  | generate => [.manifest]
  | plan => [.manifest, .type]
  | init => []

end CommandName

def generalOptions : List OptionSpec := [.help, .version]

end FluentWrap.CommandLine
