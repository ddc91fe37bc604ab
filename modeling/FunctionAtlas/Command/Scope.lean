import FunctionAtlas.Command.Parameter

/-!
Contract: the commands of the program, and their usage lines.

Owns: the names and explanations of the commands, and which parameters and commands can be given
in each scope.

Does not own: the reading of arguments.
-/

namespace FunctionAtlas.Command

/-- The commands that carry out a task. -/
inductive TaskName where
  | summarize
  | search
  | init
deriving DecidableEq, Repr

/-- Where arguments stand: before a command, or after one. -/
inductive Scope where
  | program
  | task (name : TaskName)
  | help
deriving DecidableEq, Repr

/-- The name of the program. -/
def programName : String := "pysummary"

namespace Scope

def name : Scope → String
  | .program => programName
  | .task .summarize => "summarize"
  | .task .search => "search"
  | .task .init => "init"
  | .help => "help"

/-- Other names of a command. -/
def otherNames : Scope → List String
  | .task .summarize => ["run"]
  | _ => []

def allNames (scope : Scope) : List String := scope.name :: scope.otherNames

def about : Scope → String
  | .program =>
      "Function summarizer for Python source trees - names, parameters, docstrings, " ++
        "source snippets and syntax-tree dumps"
  | .task .summarize => "Extract function summaries, snippets and trees"
  | .task .search => "Search source files for a pattern"
  | .task .init => "Create a pysummary.yaml with default settings"
  | .help => "Print this message or the help of the given subcommand(s)"

/-- The commands that can follow. -/
def commands : Scope → List Scope
  | .program => [.task .summarize, .task .search, .task .init, .help]
  | _ => []

/-- The command that a word names. -/
def commandNamed? (scope : Scope) (word : String) : Option Scope :=
  scope.commands.find? fun command => command.allNames.contains word

/-- The parameters that can be given before and after a command. -/
def everywhere : List Parameter := [.verbose, .quiet, .debug, .colour]

/-- The parameters that can be given, in the order of their explanations. -/
def parameters : Scope → List Parameter
  | .program => everywhere ++ [.help, .version]
  | .task .summarize =>
      [.analyzedPath, .config, .jobs, .outputFolder, .combined, .format, .strict, .noProgress] ++
        everywhere ++ [.help]
  | .task .search =>
      [.pattern, .searchedPath, .config, .ignoreCase, .fixedStrings] ++ everywhere ++ [.help]
  | .task .init => [.output] ++ everywhere ++ [.help]
  | .help => [.topic]

/-- The parameters known by their places, in the order of the places. -/
def places (scope : Scope) : List Parameter := scope.parameters.filter (·.isPlaced)

def options (scope : Scope) : List Parameter := scope.parameters.filter fun parameter =>
  !parameter.isPlaced

def longNames (scope : Scope) : List String :=
  scope.parameters.filterMap fun parameter => parameter.facts.longName

def withLongName? (scope : Scope) (name : String) : Option Parameter :=
  scope.parameters.find? fun parameter => parameter.facts.longName = some name

def withShortName? (scope : Scope) (name : Char) : Option Parameter :=
  scope.parameters.find? fun parameter => parameter.facts.shortName = some name

/-! ## Usage -/

/-- The words that call a command. -/
def call : Scope → String
  | .program => programName
  | scope => programName ++ " " ++ scope.name

def commandPlace (scope : Scope) : List String :=
  if scope.commands.isEmpty then [] else ["<COMMAND>"]

/-- The usage line. With parameters that are in use, it shows these in place of all options. -/
def usage (scope : Scope) (used : List Parameter) : String :=
  let shownOptions :=
    if used.isEmpty then if scope.options.isEmpty then [] else ["[OPTIONS]"]
    else (used.filter fun parameter => !parameter.isPlaced).map (·.text true)
  let shownPlaces := scope.places.map fun parameter =>
    parameter.text (parameter.facts.isRequired || used.contains parameter)
  String.intercalate " " ([scope.call] ++ shownOptions ++ shownPlaces ++ scope.commandPlace)

end Scope

end FunctionAtlas.Command
