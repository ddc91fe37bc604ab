/-!
Contract: what the program can be asked to do.

Owns: the three tasks with all that decides about them, defaults included.
-/

namespace FunctionAtlas.Run

/-- To analyze a folder or a file. -/
structure SummarizeRequest where
  path : String
  config : Option String
  jobs : Option Nat
  outputFolder : Option String
  combinedFile : Option String
  format : String
  isStrict : Bool
  hidesProgress : Bool
deriving DecidableEq, Repr

/-- To search the lines of a folder or a file. -/
structure SearchRequest where
  pattern : String
  path : String
  config : Option String
  ignoreCase : Bool
  fixedStrings : Bool
deriving DecidableEq, Repr

/-- To write a file of settings. -/
structure InitRequest where
  output : String
deriving DecidableEq, Repr

inductive Task where
  | summarize (request : SummarizeRequest)
  | search (request : SearchRequest)
  | init (request : InitRequest)
deriving DecidableEq, Repr

/-- When output is coloured. -/
inductive ColourChoice where
  | auto
  | always
  | never
deriving DecidableEq, Repr

namespace ColourChoice

def all : List ColourChoice := [.auto, .always, .never]

def name : ColourChoice → String
  | .auto => "auto"
  | .always => "always"
  | .never => "never"

def about? : ColourChoice → Option String
  | .auto => some "Color when stdout is a terminal"
  | .always => none
  | .never => none

def ofName? (name : String) : Option ColourChoice := all.find? fun choice => choice.name = name

/-- Whether output is coloured, given whether it goes to a terminal. -/
def isColoured (choice : ColourChoice) (isTerminal : Bool) : Bool :=
  match choice with
  | .auto => isTerminal
  | .always => true
  | .never => false

end ColourChoice

/-- A task and how to report on it. -/
structure Invocation where
  task : Task
  isVerbose : Bool
  isQuiet : Bool
  logsDebug : Bool
  colour : ColourChoice
deriving DecidableEq, Repr

end FunctionAtlas.Run
