import FunctionAtlas.Discovery.Walk
import FunctionAtlas.Docstring.Literal
import FunctionAtlas.Report.Files
import FunctionAtlas.Search.Pattern
import FunctionAtlas.Settings.Load

/-!
Contract: what carrying out a task comes to.

A task that is refused changes no file.

Owns: the reasons to refuse a task, the ways a task ends, and what it leaves behind.
-/

namespace FunctionAtlas.Run

open FunctionAtlas.Storage

/-- Why a task is refused. -/
inductive Refusal where
  | unknownFormat (format : String)
  | pattern (fault : Search.PatternFault)
  | unloadable (fault : Settings.LoadFault)
  | settings (fault : Settings.ConfigFault)
  /-- The settings are in order, but not with what the request changes of them. -/
  | overriddenSettings (fault : Settings.ConfigFault)
  | inaccessible (path : String) (fault : IoFault)
  | discovery (fault : Discovery.WalkFault)
  | outputExists (path : String)
  | outputFolder (fault : IoFault)
  | outputFile (fault : IoFault)

def Refusal.message : Refusal → String
  | .unknownFormat format =>
      "invalid format " ++ Text.Quoted.quote format ++ ", must be 'text' or 'json'"
  | .pattern fault => fault.message
  | .unloadable fault => fault.message
  | .settings fault => "invalid config: " ++ fault.message
  | .overriddenSettings fault => fault.message
  | .inaccessible path fault =>
      "cannot access path " ++ Text.Quoted.quote path ++ ": " ++ fault.message
  | .discovery fault => fault.message
  | .outputExists path =>
      "file already exists: " ++ path ++
        "\nRemove it or use --output to specify a different path"
  | .outputFolder fault => "failed to create directory: " ++ fault.message
  | .outputFile fault => "failed to write config: " ++ fault.message

/-- The exit code of a task. -/
inductive ExitCode where
  | success
  | failed
  | error
deriving DecidableEq, Repr

def ExitCode.toNat : ExitCode → Nat
  | .success => 0
  | .failed => 1
  | .error => 2

/-- How a task ends: with a code, or cut short. -/
inductive Ending where
  | exit (code : ExitCode)
  | unwritten (fault : Report.WriteFault)
  | undecodable (fault : Docstring.LiteralFault)

/-- What a task leaves behind: the disk, and what it printed on the two channels. -/
structure Effect where
  disk : Disk
  output : String := ""
  errors : String := ""
  ending : Ending

/-- The line that reports an error. -/
def errorLine (message : String) : String := "Error: " ++ message ++ "\n"

/-- A refused task. -/
def refused (disk : Disk) (refusal : Refusal) : Effect :=
  { disk, errors := errorLine refusal.message, ending := .exit .error }

end FunctionAtlas.Run
