import FunctionAtlas.Run.Effect
import FunctionAtlas.Run.Request
import FunctionAtlas.Settings.Template

/-!
Contract: the task of writing a settings file for a new project.

Owns: the checks before writing, and the advice after it.
-/

namespace FunctionAtlas.Run.InitRequest

open FunctionAtlas.Settings
open FunctionAtlas.Storage

/-- The disk with the folders that the output file stands in. -/
def withFolders (disk : Disk) (output : String) : Disk.MadeFolders :=
  match (Path.ofText output).parent with
  | none => { disk }
  | some folder =>
      if Report.isWorkingFolder folder.toText then { disk }
      else disk.prepareFolders folder.toText

/-- Whether the settings at a path are found without being named. -/
def isFoundByName (path : String) : Bool :=
  fileNames.any fun name => (Path.ofText path).same (Path.ofText name)

/-- What to do with the new file. -/
def advice (output : String) : String :=
  let options := if isFoundByName output then "" else " --config " ++ output
  "Created " ++ output ++ "\n\nNext steps:\n  1. Edit " ++ output ++
    " to customize for your project\n  2. Run: pysummary summarize ." ++ options ++ "\n"

/-- Writes the settings file that a request asks for, unless something is there. Folders that
were made for it stay also if it cannot be written. -/
def run (disk : Disk) (request : InitRequest) : Effect :=
  if disk.exists_ request.output then refused disk (.outputExists request.output)
  else
    let made := withFolders disk request.output
    match made.fault? with
    | some fault => refused made.disk (.outputFolder fault)
    | none =>
        match made.disk.writeText request.output template with
        | .error fault => refused made.disk (.outputFile fault)
        | .ok changed =>
            { disk := changed, output := advice request.output, ending := .exit .success }

end FunctionAtlas.Run.InitRequest
