import FunctionAtlas.Command.Scope

/-!
Contract: what can be wrong with the arguments of the program.

Owns: the causes, the tips that go with them, and the text of a complaint.

Does not own: when each cause arises.
-/

namespace FunctionAtlas.Command

inductive Cause where
  | unknownArgument (argument : String)
  | unknownCommand (word : String)
  | valueForSwitch (parameter : Parameter) (value : String)
  | repeated (parameter : Parameter)
  | conflict (first second : Parameter)
  | missingValue (parameter : Parameter)
  | invalidChoice (parameter : Parameter) (value : String)
  | invalidCount (parameter : Parameter) (value : String) (fault : Decimal.CountFault)
  | missingParameter (parameter : Parameter)
  | missingCommand
deriving DecidableEq, Repr

/-- A proposal for mending the arguments. -/
inductive Tip where
  | similarOption (name : String)
  | optionOf (command option : String)
  | passAsValue (argument : String)
  | similarCommands (names : List String)
  | commandAfterDashes (name : String)
  | similarValue (value : String)
deriving DecidableEq, Repr

/-- The usage line to show: of which scope, with which parameters in use. -/
structure Usage where
  scope : Scope
  used : List Parameter := []
deriving DecidableEq, Repr

structure UsageFault where
  cause : Cause
  tip : Option Tip := none
  usage : Option Usage := none
deriving DecidableEq, Repr

/-- A text between single quotes. -/
def inQuotes (text : String) : String := "'" ++ text ++ "'"

/-- The choices of a parameter as an extra line. -/
def choicesLine (parameter : Parameter) : String :=
  if parameter.choices.isEmpty then ""
  else
    "\n  [possible values: " ++
      String.intercalate ", " (parameter.choices.map (·.name)) ++ "]"

def Cause.message : Cause → String
  | .unknownArgument argument => "unexpected argument " ++ inQuotes argument ++ " found"
  | .unknownCommand word => "unrecognized subcommand " ++ inQuotes word
  | .valueForSwitch parameter value =>
      "unexpected value " ++ inQuotes value ++ " for " ++ inQuotes parameter.display ++
        " found; no more were expected"
  | .repeated parameter =>
      "the argument " ++ inQuotes parameter.display ++ " cannot be used multiple times"
  | .conflict first second =>
      "the argument " ++ inQuotes first.display ++ " cannot be used with " ++
        inQuotes second.display
  | .missingValue parameter =>
      "a value is required for " ++ inQuotes parameter.display ++ " but none was supplied" ++
        choicesLine parameter
  | .invalidChoice parameter value =>
      "invalid value " ++ inQuotes value ++ " for " ++ inQuotes parameter.display ++
        choicesLine parameter
  | .invalidCount parameter value fault =>
      "invalid value " ++ inQuotes value ++ " for " ++ inQuotes parameter.display ++ ": " ++
        fault.message
  | .missingParameter parameter =>
      "the following required arguments were not provided:\n  " ++ parameter.display
  | .missingCommand =>
      inQuotes programName ++ " requires a subcommand but one was not provided\n  [subcommands: " ++
        String.intercalate ", " (Scope.program.commands.flatMap Scope.allNames) ++ "]"

def Tip.message : Tip → String
  | .similarOption name => "a similar argument exists: " ++ inQuotes name
  | .optionOf command option => inQuotes (command ++ " " ++ option) ++ " exists"
  | .passAsValue argument =>
      "to pass " ++ inQuotes argument ++ " as a value, use " ++ inQuotes ("-- " ++ argument)
  | .similarCommands [name] => "a similar subcommand exists: " ++ inQuotes name
  | .similarCommands names =>
      "some similar subcommands exist: " ++ String.intercalate ", " (names.map inQuotes)
  | .commandAfterDashes name =>
      "subcommand " ++ inQuotes name ++ " exists; to use it, remove the '--' before it"
  | .similarValue value => "a similar value exists: " ++ inQuotes value

namespace UsageFault

/-- Whether the complaint can refer to help: all scopes but that of the help command have it. -/
def refersToHelp (fault : UsageFault) : Bool :=
  match fault.usage with
  | some usage => usage.scope ≠ .help
  | none => true

/-- The whole complaint. -/
def message (fault : UsageFault) : String :=
  "error: " ++ fault.cause.message ++
    (match fault.tip with
      | none => ""
      | some tip => "\n\n  tip: " ++ tip.message) ++
    (match fault.usage with
      | none => ""
      | some usage => "\n\nUsage: " ++ usage.scope.usage usage.used) ++
    (if fault.refersToHelp then "\n\nFor more information, try '--help'.\n" else "\n")

end UsageFault

end FunctionAtlas.Command
