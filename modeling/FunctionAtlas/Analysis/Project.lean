import FunctionAtlas.Analysis.Collector
import FunctionAtlas.Storage.Disk

/-!
Contract: the analysis of many files.

Owns: the outcome of a file on a disk, and the summary of a list of files.

Does not own: which files are analyzed.
-/

namespace FunctionAtlas.Analysis

open FunctionAtlas.Storage

/-- What comes of the file at a path, which is read as Python whatever its extension. Only a
literal without a value has no outcome. -/
def outcomeOf (disk : Disk) (base path : String) : Except Docstring.LiteralFault Outcome :=
  let file := fileId base path
  match disk.readText path with
  | .error fault => .ok (.failed (.ofProblem file (.unreadable file fault.message)))
  | .ok text =>
      match extract file text with
      | .ok functions => .ok (.reported { file, functions })
      | .error (.problem problem) => .ok (.failed (.ofProblem file problem))
      | .error (.literal fault) => .error fault

/-- The outcomes of several files, up to the first without one. -/
def outcomesOf (disk : Disk) (base : String) :
    List String → Except Docstring.LiteralFault (List Outcome)
  | [] => .ok []
  | path :: rest =>
      match outcomeOf disk base path with
      | .error fault => .error fault
      | .ok outcome => (outcomesOf disk base rest).map fun outcomes => outcome :: outcomes

/-- The outcomes with the numbers of their files. -/
def numbered (outcomes : List Outcome) : List (Nat × Outcome) :=
  outcomes.zipIdx.map fun (outcome, index) => (index, outcome)

/-- The summary of several files. -/
def analyze (disk : Disk) (base : String) (paths : List String) :
    Except Docstring.LiteralFault Summary :=
  (outcomesOf disk base paths).map fun outcomes =>
    (Collector.empty.acceptAll (numbered outcomes)).summary

end FunctionAtlas.Analysis
