import FunctionAtlas.Settings.Config
import FunctionAtlas.Storage.Disk
import FunctionAtlas.Yaml.Decode

/-!
Contract: settings from files.

Every setting is optional, and settings that are not known are skipped.

Owns: the names of the settings in files, the files that settings are looked for in, and why
settings cannot be loaded.
-/

namespace FunctionAtlas.Settings

open FunctionAtlas.Yaml

/-! ## Fields -/

/-- Reads a field of a record with a reader for its value. -/
def field {σ α : Type} (read : Path → ValueReader α) (set : σ → α → σ) :
    Option (Path → σ → ValueReader σ) :=
  some fun path record index => do
    let (value, next) ← read path index
    return (set record value, next)

/-- The names of the settings about output. -/
def outputFields (document : Document) : Document.FieldReader OutputConfig := fun name =>
  let text := fun path => document.readText path "a string"
  match name with
  | "directory" =>
      field (fun path => document.readText path "path string")
        fun output directory => { output with directory }
  | "summary_file" => field text fun output summaryFile => { output with summaryFile }
  | "snippets_file" => field text fun output snippetsFile => { output with snippetsFile }
  | "ast_file" => field text fun output treesFile => { output with treesFile }
  | "combined_file" =>
      field (fun path => document.readOption (text path))
        fun output combinedFile => { output with combinedFile }
  | _ => none

/-- The names of the settings. -/
def configFields (document : Document) : Document.FieldReader Config := fun name =>
  let text := fun path => document.readText path "a string"
  let texts := fun path => document.readSequence path text
  match name with
  | "version" => field text fun config version => { config with version }
  | "extensions" => field texts fun config extensions => { config with extensions }
  | "excluded_paths" => field texts fun config excludedPaths => { config with excludedPaths }
  | "include_hidden" =>
      field (fun path => document.readBoolean path)
        fun config includeHidden => { config with includeHidden }
  | "jobs" =>
      field (fun path => document.readOption (document.readNatural path))
        fun config jobs => { config with jobs }
  | "output" =>
      field
        (fun path => document.readRecord path "struct OutputConfig" (outputFields document) {})
        fun config output => { config with output }
  | _ => none

/-- The settings in a text. -/
def Config.ofText (text : String) : Except DecodeFault Config :=
  let document := Document.ofText text
  document.decode (document.readRecord .root "struct Config" (configFields document) {})

/-! ## Files -/

/-- Why settings cannot be loaded from a file. -/
inductive LoadFault where
  | unreadable (path : String) (fault : Storage.IoFault)
  | invalid (path : String) (fault : DecodeFault)
deriving DecidableEq, Repr

def LoadFault.message : LoadFault → String
  | .unreadable path fault => "parsing config " ++ path ++ ": " ++ fault.message
  | .invalid path fault => "parsing config " ++ path ++ ": " ++ fault.message

/-- The settings in a file. -/
def loadFile (disk : Storage.Disk) (path : String) : Except LoadFault Config :=
  match disk.readText path with
  | .error fault => .error (.unreadable path fault)
  | .ok text =>
      match Config.ofText text with
      | .error fault => .error (.invalid path fault)
      | .ok config => .ok config

/-- The names under which settings are looked for in the working folder. -/
def fileNames : List String := ["pysummary.yaml", ".pysummary.yaml"]

/-- The first file with settings in the working folder. -/
def discover (disk : Storage.Disk) : Option String := fileNames.find? disk.exists_

/-- The settings of a given file, of one in the working folder, or the default settings. -/
def load (disk : Storage.Disk) (given : Option String) : Except LoadFault Config :=
  match given with
  | some path => loadFile disk path
  | none =>
      match discover disk with
      | some path => loadFile disk path
      | none => .ok {}

end FunctionAtlas.Settings
