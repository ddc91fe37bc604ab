import FunctionAtlas.Decimal.Count
import FunctionAtlas.Run.Request

/-!
Contract: the parameters of the command line.

A parameter is a switch, an option that takes a value, or a value known by its place.

Owns: each parameter's names, the kind and the name of its value, its explanation and its default,
and how it is written in messages.

Does not own: which parameters a command has.
-/

namespace FunctionAtlas.Command

/-- What a value has to be. -/
inductive ValueKind where
  /-- Any text but the empty one. -/
  | path
  | text
  | count
  | colour
deriving DecidableEq, Repr

inductive Parameter where
  | analyzedPath
  | searchedPath
  | pattern
  | topic
  | config
  | jobs
  | outputFolder
  | combined
  | format
  | strict
  | noProgress
  | ignoreCase
  | fixedStrings
  | output
  | verbose
  | quiet
  | debug
  | colour
  | help
  | version
deriving DecidableEq, Repr

/-- All that is known of a parameter. One without a long name is known by its place, and one
without a value is a switch. -/
structure Facts where
  shortName : Option Char := none
  longName : Option String := none
  value : Option (ValueKind × String) := none
  about : String
  fallback : Option String := none
  isRequired : Bool := false
  isMany : Bool := false

namespace Facts

def switch (shortName : Option Char) (longName about : String) : Facts :=
  { shortName, longName := some longName, about }

def option (shortName : Option Char) (longName : String) (kind : ValueKind)
    (valueName about : String) (fallback : Option String) : Facts :=
  { shortName, longName := some longName, value := some (kind, valueName), about, fallback }

def placed (kind : ValueKind) (valueName about : String) (fallback : Option String) : Facts :=
  { value := some (kind, valueName), about, fallback }

end Facts

namespace Parameter

def facts : Parameter → Facts
  | .analyzedPath => .placed .path "PATH" "Directory or file to analyze" (some ".")
  | .searchedPath => .placed .path "PATH" "Directory or file to search" (some ".")
  | .pattern =>
      { Facts.placed .text "PATTERN" "Regular expression to search for" none with
        isRequired := true }
  | .topic =>
      { Facts.placed .text "COMMAND" "Print help for the subcommand(s)" none with
        isMany := true }
  | .config =>
      .option (some 'c') "config" .path "CONFIG"
        "Path to config YAML file (default: auto-discover)" none
  | .jobs => .option (some 'j') "jobs" .count "JOBS" "Worker threads (default: one per core)" none
  | .outputFolder =>
      .option (some 'o') "output-dir" .path "OUTPUT_DIR"
        "Directory to write the view files into" none
  | .combined =>
      .option none "combined" .text "COMBINED" "Write all views into this single file" none
  | .format =>
      .option (some 'f') "format" .text "FORMAT" "Output format: text or json" (some "text")
  | .strict => .switch none "strict" "Exit non-zero when any file was skipped"
  | .noProgress => .switch none "no-progress" "Disable the progress bar"
  | .ignoreCase => .switch (some 'i') "ignore-case" "Match case-insensitively"
  | .fixedStrings => .switch (some 'F') "fixed-strings" "Treat the pattern as a literal string"
  | .output =>
      .option (some 'o') "output" .path "OUTPUT" "Output file path" (some "pysummary.yaml")
  | .verbose => .switch (some 'v') "verbose" "Log progress details"
  | .quiet => .switch (some 'q') "quiet" "Only log warnings and errors"
  | .debug => .switch none "debug" "Log debug output"
  | .colour =>
      .option none "color" .colour "COLOR" "When to use terminal colors" (some "auto")
  | .help => .switch (some 'h') "help" "Print help"
  | .version => .switch (some 'V') "version" "Print version"

def isPlaced (parameter : Parameter) : Bool := parameter.facts.longName.isNone

def takesValue (parameter : Parameter) : Bool := parameter.facts.value.isSome

/-- The values that a parameter can have, if they are few. -/
def choices (parameter : Parameter) : List Run.ColourChoice :=
  match parameter.facts.value with
  | some (.colour, _) => Run.ColourChoice.all
  | _ => []

/-- How a parameter is written where its value is required or not. Only a value known by its
place shows the difference. -/
def text (parameter : Parameter) (isRequired : Bool) : String :=
  let facts := parameter.facts
  match facts.longName, facts.value with
  | some name, none => "--" ++ name
  | some name, some (_, valueName) => "--" ++ name ++ " <" ++ valueName ++ ">"
  | none, some (_, valueName) =>
      let bracketed := if isRequired then "<" ++ valueName ++ ">" else "[" ++ valueName ++ "]"
      if facts.isMany then bracketed ++ "..." else bracketed
  | none, none => ""

/-- How messages name a parameter. -/
def display (parameter : Parameter) : String := parameter.text parameter.facts.isRequired

end Parameter

end FunctionAtlas.Command
