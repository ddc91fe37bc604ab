import FunctionAtlas.Analysis.Summary
import FunctionAtlas.Report.Document
import FunctionAtlas.Text.Styled

/-!
Contract: what a terminal shows of a summary.

Owns: the overview of a run, and the list of the files it skipped.

Does not own: the views that are written to files.
-/

namespace FunctionAtlas.Report

open FunctionAtlas.Analysis
open FunctionAtlas.Text

/-- A summary in a few lines, with the path that was asked for and the files that were written. -/
def overview (isColoured : Bool) (path : String) (summary : Summary) (written : List String) :
    String :=
  let paint := Style.paint isColoured
  let status :=
    if summary.failures.isEmpty then paint (.boldColoured .green) "All files processed"
    else
      paint (.boldColoured .yellow) (toString summary.failures.length ++ " file(s) skipped")
  let writtenLines :=
    if written.isEmpty then ""
    else
      "  " ++ paint .dimmed "Wrote:" ++ "\n" ++
        String.join (written.map fun file => "    " ++ file ++ "\n") ++ "\n"
  "\n  " ++ paint (.boldColoured .cyan) "pysummary" ++ " v" ++ programVersion ++ "\n\n" ++
    "  " ++ paint .dimmed "Scanned:   " ++ path ++ " (" ++ toString summary.scanned ++
      " files)\n" ++
    "  " ++ paint .dimmed "Functions: " ++ paint .bold (toString summary.functionCount) ++
      "\n\n" ++
    writtenLines ++ "  " ++ status ++ "\n\n"

/-- A skipped file with its reason. -/
def skippedLine (isColoured : Bool) (failure : FileFailure) : String :=
  "  " ++ Style.paint isColoured .bold failure.file ++ " " ++
    Style.paint isColoured .dimmed ("(" ++ failure.kind.title ++ ")") ++ " " ++
    failure.message ++ "\n"

/-- The skipped files, if there are any. -/
def skippedFiles (isColoured : Bool) (failures : List FileFailure) : String :=
  if failures.isEmpty then ""
  else
    Style.paint isColoured (.boldColoured .yellow) "Skipped files:" ++ "\n" ++
      String.join (failures.map (skippedLine isColoured))

end FunctionAtlas.Report
