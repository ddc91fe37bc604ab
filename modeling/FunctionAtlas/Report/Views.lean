import FunctionAtlas.Analysis.Summary

/-!
Contract: summaries as texts.

Every view goes through the reports in their order and through the functions of a report in
theirs. The summary has a line for each function, the snippets its text, and the trees its dump.

Owns: the views and their wording.

Does not own: where views are written.
-/

namespace FunctionAtlas.Report

open FunctionAtlas.Analysis

/-- Stands for a docstring that is not there. -/
def noDocstring : String := "No docstring available."

/-- Stands for a text that is not there. -/
def noSource : String := "<source unavailable>"

/-- The line before the functions of a file. -/
def fileHeader (report : FileReport) : String := "\nFile: " ++ report.file ++ "\n"

/-- Moves all lines but the first to the right. -/
def indentContinuation (text : String) : String :=
  String.join (text.toList.map fun character =>
    if character = '\n' then "\n   " else character.toString)

/-- The entry of a function in the summary. -/
def summaryEntry (record : FunctionRecord) : String :=
  " - Function '" ++ record.name ++ "' takes " ++ toString record.arity ++ " arguments: " ++
    String.intercalate ", " record.parameters ++ ". " ++
    indentContinuation (record.docstringText.getD noDocstring) ++ "\n"

/-- The entry of a function among the snippets. -/
def snippetEntry (record : FunctionRecord) : String :=
  "\nFunction: " ++ record.name ++ "\nCode:\n" ++ record.sourceText.getD noSource ++ "\n"

/-- The entry of a function among the trees. -/
def treeEntry (record : FunctionRecord) : String :=
  "\nFunction: " ++ record.name ++ "\nAST: " ++ record.treeDump ++ "\n"

/-- A report as its header and an entry for each function. -/
def reportText (entry : FunctionRecord → String) (report : FileReport) : String :=
  fileHeader report ++ String.join (report.functions.map entry)

def reportsText (entry : FunctionRecord → String) (reports : List FileReport) : String :=
  String.join (reports.map (reportText entry))

/-- The line of a skipped file. -/
def failureLine (failure : FileFailure) : String :=
  " - " ++ failure.file ++ ": " ++ failure.kind.title ++ ": " ++ failure.message ++ "\n"

/-- The skipped files with their reasons. -/
def failuresView (failures : List FileFailure) : String :=
  "Skipped files:\n" ++ String.join (failures.map failureLine)

/-- One line for each function, then the skipped files if there are some. -/
def summaryView (summary : Summary) : String :=
  reportsText summaryEntry summary.files ++
    (if summary.hasFailures then "\n" ++ failuresView summary.failures else "")

/-- The text of each function. -/
def snippetsView (summary : Summary) : String := reportsText snippetEntry summary.files

/-- The dump of each function. -/
def treesView (summary : Summary) : String := reportsText treeEntry summary.files

/-- The three views in one text. -/
def combinedView (summary : Summary) : String :=
  "=== Function Summaries ===\n" ++ summaryView summary ++
    "\n=== Code Snippets ===\n" ++ snippetsView summary ++
    "\n=== Abstract Syntax Trees (ASTs) ===\n" ++ treesView summary

end FunctionAtlas.Report
