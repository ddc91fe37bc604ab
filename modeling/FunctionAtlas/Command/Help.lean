import FunctionAtlas.Command.Scope

/-!
Contract: the help texts of the program and of its commands.

Help comes in two lengths. The short form explains a parameter beside it, the long form below it
and with the meanings of its choices.

Owns: the layout of both forms.
-/

namespace FunctionAtlas.Command.Help

inductive Length where
  | short
  | long
deriving DecidableEq, Repr

/-- A text with blanks after it up to a width. -/
def padded (width : Nat) (text : String) : String :=
  text ++ String.ofList (List.replicate (width - text.length) ' ')

/-- Texts with their explanations in a second column. -/
def columns (entries : List (String × String)) : String :=
  let width := (entries.map fun entry => entry.1.length).foldl max 0
  String.join (entries.map fun (left, right) =>
    "  " ++ padded width left ++ "  " ++ right ++ "\n")

/-- A parameter at the left, with the short names of options in a column of their own. -/
def head (parameter : Parameter) : String :=
  if parameter.isPlaced then parameter.display
  else
    (match parameter.facts.shortName with
      | some name => "-" ++ name.toString ++ ", "
      | none => "    ") ++ parameter.display

/-- What a parameter is for. The help switch tells of the other length. -/
def aboutOf (length : Length) (parameter : Parameter) : String :=
  match parameter, length with
  | .help, .short => parameter.facts.about ++ " (see more with '--help')"
  | .help, .long => parameter.facts.about ++ " (see a summary with '-h')"
  | _, _ => parameter.facts.about

/-- The default of a parameter in brackets. -/
def fallbackNote (parameter : Parameter) : List String :=
  parameter.facts.fallback.toList.map fun fallback => "[default: " ++ fallback ++ "]"

/-- The choices of a parameter in brackets. -/
def choicesNote (parameter : Parameter) : List String :=
  if parameter.choices.isEmpty then []
  else
    ["[possible values: " ++ String.intercalate ", " (parameter.choices.map (·.name)) ++ "]"]

def shortEntry (parameter : Parameter) : String × String :=
  (head parameter, String.intercalate " "
    (aboutOf .short parameter :: fallbackNote parameter ++ choicesNote parameter))

/-- The blanks before an explanation of the long form. -/
def indent : String := "          "

/-- The choices of a parameter, one a line. -/
def choiceLines (choices : List Run.ColourChoice) : List String :=
  let width := (choices.map fun choice => choice.name.length).foldl max 0 + 1
  choices.map fun choice =>
    match choice.about? with
    | some about => indent ++ "- " ++ padded width (choice.name ++ ":") ++ " " ++ about
    | none => indent ++ "- " ++ choice.name

def longEntry (parameter : Parameter) : String :=
  let choices :=
    if parameter.choices.isEmpty then []
    else ["", indent ++ "Possible values:"] ++ choiceLines parameter.choices
  let fallback := (fallbackNote parameter).flatMap fun note => [indent, indent ++ note]
  String.join
    (([("  " ++ head parameter), indent ++ aboutOf .long parameter] ++ choices ++ fallback).map
      fun line => line ++ "\n")

/-- The explanations of parameters under a title. -/
def block (length : Length) (title : String) (parameters : List Parameter) : String :=
  if parameters.isEmpty then ""
  else
    "\n" ++ title ++ ":\n" ++
      match length with
      | .short => columns (parameters.map shortEntry)
      | .long => String.intercalate "\n" (parameters.map longEntry)

/-- A command with its explanation. -/
def commandEntry (command : Scope) : String × String :=
  let note :=
    if command.otherNames.isEmpty then ""
    else " [alias: " ++ String.intercalate ", " command.otherNames ++ "]"
  (command.name, command.about ++ note)

def commandsBlock (commands : List Scope) : String :=
  if commands.isEmpty then "" else "\nCommands:\n" ++ columns (commands.map commandEntry)

/-- The help command, which has no choices to explain, has only the short form. -/
def lengthFor (scope : Scope) (length : Length) : Length :=
  if scope.parameters.any fun parameter => !parameter.choices.isEmpty then length else .short

/-- The help text of a scope. -/
def text (scope : Scope) (asked : Length) : String :=
  let length := lengthFor scope asked
  scope.about ++ "\n\nUsage: " ++ scope.usage [] ++ "\n" ++ commandsBlock scope.commands ++
    block length "Arguments" scope.places ++ block length "Options" scope.options

end FunctionAtlas.Command.Help
