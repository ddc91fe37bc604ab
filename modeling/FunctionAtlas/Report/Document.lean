import FunctionAtlas.Report.Json
import FunctionAtlas.Report.Views

/-!
Contract: summaries as data.

Owns: the members of the document for a summary and for its parts.
-/

namespace FunctionAtlas.Report

open FunctionAtlas.Analysis

/-- The version of the program. -/
def programVersion : String := "0.1.0"

def spanDocument (span : Span) : Json :=
  .object
    [ ("start_byte", .number span.startByte), ("end_byte", .number span.endByte),
      ("start_line", .number span.startLine), ("start_col", .number span.startColumn),
      ("end_line", .number span.endLine), ("end_col", .number span.endColumn) ]

/-- A record; decorators are left out if there are none. -/
def recordDocument (record : FunctionRecord) : Json :=
  .object
    ([ ("name", .text record.name), ("qualified_name", .text record.qualifiedName),
       ("parameters", .texts record.parameters),
       ("docstring", .optionalText record.docstring),
       ("source_text", .optionalText record.sourceText),
       ("tree_dump", .text record.treeDump), ("is_async", .boolean record.isAsync) ] ++
     (if record.decorators.isEmpty then [] else [("decorators", .texts record.decorators)]) ++
     [("span", spanDocument record.span)])

def reportDocument (report : FileReport) : Json :=
  .object
    [ ("file", .text report.file), ("functions", .list (report.functions.map recordDocument)) ]

def failureDocument (failure : FileFailure) : Json :=
  .object
    [ ("file", .text failure.file), ("kind", .text failure.kind.tag),
      ("message", .text failure.message) ]

/-- A summary of the files under a path; failures are left out if there are none. -/
def summaryDocument (path : String) (summary : Summary) : Json :=
  .object
    ([ ("version", .text programVersion),
       ("dump_format_version", .number Syntax.Dump.formatVersion),
       ("path", .text path), ("files_scanned", .number summary.scanned),
       ("function_count", .number summary.functionCount),
       ("files", .list (summary.files.map reportDocument)) ] ++
     (if summary.hasFailures then
       [("failures", .list (summary.failures.map failureDocument))] else []))

end FunctionAtlas.Report
