import FunctionAtlas.Report.Views
import FunctionAtlas.Settings.Config
import FunctionAtlas.Storage.Disk

/-!
Contract: views as files.

The files are written one after the other, and the first that cannot be written ends the writing.
What was written before stays.

Owns: which view goes where, and the order of writing.
-/

namespace FunctionAtlas.Report

open FunctionAtlas.Analysis
open FunctionAtlas.Settings
open FunctionAtlas.Storage

/-- Why views could not be written. -/
inductive WriteFault where
  | folder (path : String) (fault : IoFault)
  | file (path : String) (fault : IoFault)
deriving DecidableEq, Repr

def WriteFault.message : WriteFault → String
  | .folder path fault => "creating " ++ path ++ ": " ++ fault.message
  | .file path fault => "writing " ++ path ++ ": " ++ fault.message

/-- A disk after writing, and the paths that were written or the reason why not all were. -/
structure Written where
  disk : Disk
  outcome : Except WriteFault (List String)

/-- The views of a summary by their paths. -/
def plannedViews (summary : Summary) (output : OutputConfig) : List (String × String) :=
  match output.combinedFile with
  | some name => [(joinPath output.directory name, combinedView summary)]
  | none =>
      [ (joinPath output.directory output.summaryFile, summaryView summary),
        (joinPath output.directory output.snippetsFile, snippetsView summary),
        (joinPath output.directory output.treesFile, treesView summary) ]

/-- Writes texts to paths. -/
def writeAll (disk : Disk) : List (String × String) → Written
  | [] => { disk, outcome := .ok [] }
  | (path, text) :: rest =>
      match disk.writeText path text with
      | .error fault => { disk, outcome := .error (.file path fault) }
      | .ok changed =>
          let written := writeAll changed rest
          { written with outcome := written.outcome.map fun paths => path :: paths }

/-- Whether a folder is the working folder and needs no making. -/
def isWorkingFolder (directory : String) : Bool :=
  directory = "" || (Path.ofText directory).same (Path.ofText ".")

/-- Writes the views of a summary. -/
def writeViews (disk : Disk) (summary : Summary) (output : OutputConfig) : Written :=
  let planned := plannedViews summary output
  if isWorkingFolder output.directory then writeAll disk planned
  else
    let made := disk.prepareFolders output.directory
    match made.fault? with
    | some fault => { disk := made.disk, outcome := .error (.folder output.directory fault) }
    | none => writeAll made.disk planned

end FunctionAtlas.Report
