import FluentWrap.Config.Basic
import FluentWrap.Error
import FluentWrap.Naming.Identifier

/-!
Checking settings. Every rule is checked, and all violations are told at once.
-/

set_option autoImplicit false

namespace FluentWrap.Config

inductive Problem where
  | blankTarget
  | pattern (problem : NamePattern.Problem)
  | rootPackage (package : String)
  | blankIgnored
  deriving DecidableEq, Repr

def Problem.message : Problem → String
  | blankTarget => "target directory must not be blank"
  | pattern problem => problem.message
  | rootPackage package => "root package '" ++ package ++ "' is not a dotted identifier"
  | blankIgnored => "ignored method names must not be blank"

def targetProblems (config : Config) : List Problem :=
  if Text.isBlankText config.targetDirectory.text then [.blankTarget] else []

def patternProblems (config : Config) : List Problem :=
  ((NamePattern.problem? config.namePattern).map .pattern).toList

def rootPackageProblems (config : Config) : List Problem :=
  if Text.isBlankText config.rootPackage || Naming.isPackage config.rootPackage then []
  else [.rootPackage config.rootPackage]

def ignoredProblems (config : Config) : List Problem :=
  if config.ignoredMethods.toList.any Text.isBlankText then [.blankIgnored] else []

/-- The violated rules: target directory, pattern, root package, ignored names. -/
def problems (config : Config) : List Problem :=
  config.targetProblems ++ config.patternProblems ++ config.rootPackageProblems
    ++ config.ignoredProblems

def problemsError (problems : List Problem) : Error :=
  .configuration ("; ".intercalate (problems.map Problem.message))

def validate (config : Config) : Except Error Unit :=
  match config.problems with
  | [] => .ok ()
  | problems => .error (problemsError problems)

def pattern (config : Config) : Except Error NamePattern :=
  (NamePattern.ofText config.namePattern).mapError fun p => .configuration p.message

end FluentWrap.Config
