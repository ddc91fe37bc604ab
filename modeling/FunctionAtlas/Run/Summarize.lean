import FunctionAtlas.Analysis.Project
import FunctionAtlas.Report.Document
import FunctionAtlas.Report.Overview
import FunctionAtlas.Run.Inputs
import FunctionAtlas.Run.Request

/-!
Contract: the task of summarizing a source tree.

Owns: the settings that a request overrides, the two formats, and the exit code.
-/

namespace FunctionAtlas.Run

open FunctionAtlas.Analysis
open FunctionAtlas.Settings
open FunctionAtlas.Storage

/-- Where a summary goes: to view files, or as a document to the terminal. -/
inductive Format where
  | text
  | json
deriving DecidableEq, Repr

def Format.ofName? : String → Option Format
  | "text" => some .text
  | "json" => some .json
  | _ => none

namespace SummarizeRequest

/-- The settings, with those that the request gives in their place. -/
def override (request : SummarizeRequest) (config : Config) : Config :=
  { config with
    jobs := request.jobs.or config.jobs
    output :=
      { config.output with
        directory := request.outputFolder.getD config.output.directory
        combinedFile := request.combinedFile.or config.output.combinedFile } }

/-- What is needed to summarize. -/
structure Plan where
  format : Format
  config : Config
  inputs : Inputs

/-- Makes a plan, or finds a reason to refuse. -/
def plan (disk : Disk) (request : SummarizeRequest) : Except Refusal Plan :=
  match Format.ofName? request.format with
  | none => .error (.unknownFormat request.format)
  | some format => do
      let loaded ← loadSettings disk request.config
      let config := request.override loaded
      match config.fault? with
      | some fault => .error (.overriddenSettings fault)
      | none =>
          let inputs ← resolveInputs disk config request.path
          .ok { format, config, inputs }

/-- The exit code: a strict request fails if a file was skipped. -/
def exitCode (request : SummarizeRequest) (summary : Summary) : ExitCode :=
  if request.isStrict && !summary.failures.isEmpty then .failed else .success

/-- Reports a summary in a format. -/
def report (disk : Disk) (isColoured : Bool) (request : SummarizeRequest) (plan : Plan)
    (summary : Summary) : Effect :=
  let ending := Ending.exit (request.exitCode summary)
  match plan.format with
  | .json =>
      { disk, output := (Report.summaryDocument request.path summary).pretty ++ "\n", ending }
  | .text =>
      let written := Report.writeViews disk summary plan.config.output
      match written.outcome with
      | .error fault => { disk := written.disk, ending := .unwritten fault }
      | .ok files =>
          { disk := written.disk
            output := Report.overview isColoured request.path summary files
            errors := Report.skippedFiles isColoured summary.failures
            ending }

/-- Summarizes what a request asks for. -/
def run (disk : Disk) (isColoured : Bool) (request : SummarizeRequest) : Effect :=
  match request.plan disk with
  | .error refusal => refused disk refusal
  | .ok plan =>
      match analyze disk plan.inputs.base plan.inputs.files with
      | .error fault => { disk, ending := .undecodable fault }
      | .ok summary => request.report disk isColoured plan summary

end SummarizeRequest

end FunctionAtlas.Run
