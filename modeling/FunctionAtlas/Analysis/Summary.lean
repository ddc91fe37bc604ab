import FunctionAtlas.Analysis.Function

/-!
Contract: what a run found out about its files.

Owns: reports and failures of single files, and the summary of many.

Does not own: the order in which outcomes arrive.
-/

namespace FunctionAtlas.Analysis

/-- The functions of a file. -/
structure FileReport where
  file : String
  functions : List FunctionRecord
deriving DecidableEq, Repr

def FileReport.isEmpty (report : FileReport) : Bool := report.functions.isEmpty

/-- Why a file was skipped. -/
structure FileFailure where
  file : String
  kind : ProblemKind
  message : String
deriving DecidableEq, Repr

/-- The failure of a file with a problem. -/
def FileFailure.ofProblem (file : String) (problem : Problem) : FileFailure :=
  { file, kind := problem.kind, message := problem.message }

/-- What comes of a file. -/
inductive Outcome where
  | reported (report : FileReport)
  | failed (failure : FileFailure)
deriving DecidableEq, Repr

/-- Reports and failures, each in the order of the files, and the number of files looked at. -/
structure Summary where
  files : List FileReport
  failures : List FileFailure
  scanned : Nat
deriving DecidableEq, Repr

namespace Summary

def empty : Summary := { files := [], failures := [], scanned := 0 }

def addReport (summary : Summary) (report : FileReport) : Summary :=
  { summary with files := summary.files ++ [report], scanned := summary.scanned + 1 }

def addFailure (summary : Summary) (failure : FileFailure) : Summary :=
  { summary with failures := summary.failures ++ [failure], scanned := summary.scanned + 1 }

def add (summary : Summary) : Outcome → Summary
  | .reported report => summary.addReport report
  | .failed failure => summary.addFailure failure

/-- The first report of a file. -/
def reportOf? (summary : Summary) (file : String) : Option FileReport :=
  summary.files.find? (·.file = file)

def functionCount (summary : Summary) : Nat :=
  (summary.files.map fun report => report.functions.length).foldr (· + ·) 0

def hasFailures (summary : Summary) : Bool := !summary.failures.isEmpty

end Summary

end FunctionAtlas.Analysis
