import FunctionAtlas.Command.Line
import FunctionAtlas.Run.Init
import FunctionAtlas.Run.Search
import FunctionAtlas.Run.Summarize

/-!
Contract: the program as a whole, from its arguments to its exit code.

Owns: which task runs, and the answers to arguments that ask for none.

Does not own: the real disk and terminal.
-/

namespace FunctionAtlas.Command

open FunctionAtlas.Run
open FunctionAtlas.Storage

/-- Carries out a task. -/
def perform (disk : Disk) (isColoured : Bool) : Task → Effect
  | .summarize request => request.run disk isColoured
  | .search request => request.run disk isColoured
  | .init request => request.run disk

/-- What the program leaves behind. -/
structure Response where
  disk : Disk
  output : String := ""
  errors : String := ""
  code : Nat

/-- The exit code of a program that gives up on its data. -/
def brokenCode : Nat := 101

/-- The response of a task. What cuts a task short is reported as an error. -/
def Response.ofEffect (effect : Effect) : Response :=
  let { disk, output, errors, ending } := effect
  match ending with
  | .exit code => { disk, output, errors, code := code.toNat }
  | .unwritten fault =>
      { disk, output, errors := errors ++ errorLine fault.message, code := ExitCode.error.toNat }
  | .undecodable _ => { disk, output, errors, code := brokenCode }

/-- The response to arguments that ask for no task. -/
def Response.ofStop (disk : Disk) : Stop → Response
  | .fault fault => { disk, errors := fault.message, code := ExitCode.error.toNat }
  | .help scope length =>
      { disk, output := Help.text scope length, code := ExitCode.success.toNat }
  | .version =>
      { disk, output := programName ++ " " ++ Report.programVersion ++ "\n"
        code := ExitCode.success.toNat }
  | .nothingAsked =>
      { disk, errors := Help.text .program .short, code := ExitCode.error.toNat }

/-- Runs the program with arguments on a disk. -/
def respond (disk : Disk) (isTerminal : Bool) (arguments : List String) : Response :=
  match read arguments with
  | .error stop => .ofStop disk stop
  | .ok invocation =>
      .ofEffect (perform disk (invocation.colour.isColoured isTerminal) invocation.task)

end FunctionAtlas.Command
