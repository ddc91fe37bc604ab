import FunctionAtlas.Glob.Match
import FunctionAtlas.Text.Quoted

/-!
Contract: the settings of a run.

Owns: the settings with their defaults, which extensions they select, their exclusion patterns, and
the check that they make sense.

Does not own: the files that settings are read from.
-/

namespace FunctionAtlas.Settings

/-- Where the views are written. -/
structure OutputConfig where
  /-- The folder of the views. -/
  directory : String := "."
  summaryFile : String := "function_summaries.txt"
  snippetsFile : String := "code_snippets.txt"
  treesFile : String := "function_asts.txt"
  /-- A single file for all views in place of one for each. -/
  combinedFile : Option String := none
deriving DecidableEq, Repr

/-- The settings of a run. -/
structure Config where
  version : String := ""
  /-- Extensions of the files to analyze; leading dots do not count. -/
  extensions : List String := ["py"]
  /-- Patterns of the paths to leave out. -/
  excludedPaths : List String := []
  /-- Whether hidden folders are entered. -/
  includeHidden : Bool := false
  /-- The number of workers. -/
  jobs : Option Nat := none
  output : OutputConfig := {}
deriving DecidableEq, Repr

/-- Why settings are refused. -/
inductive ConfigFault where
  | noExtensions
  | invalidExtension (extension : String)
  | noWorkers
  | invalidPattern (pattern : String) (fault : Glob.Fault)
  | emptyFileName
  | sameFileNames
deriving DecidableEq, Repr

def ConfigFault.message : ConfigFault → String
  | .noExtensions => "extensions must list at least one file extension"
  | .invalidExtension extension => "invalid extension " ++ Text.Quoted.quote extension
  | .noWorkers => "jobs must be at least 1"
  | .invalidPattern pattern fault =>
      "invalid excluded_paths pattern " ++ Text.Quoted.quote pattern ++
        ": error parsing glob '" ++ pattern ++ "': " ++ fault.message
  | .emptyFileName => "output file names must not be empty"
  | .sameFileNames => "summary, snippets and ast output files must be distinct"

/-- An extension without leading dots. -/
def bareExtension (extension : String) : String :=
  String.ofList (extension.toList.dropWhile (· = '.'))

/-- The patterns of several texts, up to the first that is none. -/
def readPatterns : List String → Except ConfigFault (List (List Glob.Token))
  | [] => .ok []
  | text :: texts =>
      match Glob.read text with
      | .error fault => .error (.invalidPattern text fault)
      | .ok tokens => (readPatterns texts).map fun patterns => tokens :: patterns

namespace Config

/-- Whether files with an extension are analyzed. -/
def selectsExtension (config : Config) (extension : String) : Bool :=
  config.extensions.any fun candidate => bareExtension candidate = extension

/-- The patterns of the paths to leave out. -/
def exclusions (config : Config) : Except ConfigFault (List (List Glob.Token)) :=
  readPatterns config.excludedPaths

/-- The names of the files that hold one view each. -/
def viewFiles (config : Config) : List String :=
  [config.output.summaryFile, config.output.snippetsFile, config.output.treesFile]

/-- The first reason to refuse settings. -/
def fault? (config : Config) : Option ConfigFault :=
  if config.extensions.isEmpty then some .noExtensions
  else
    match config.extensions.find? fun extension => bareExtension extension = "" with
    | some extension => some (.invalidExtension extension)
    | none =>
        if config.jobs = some 0 then some .noWorkers
        else
          match config.exclusions with
          | .error fault => some fault
          | .ok _ =>
              if config.viewFiles.any (· = "") then some .emptyFileName
              else if !decide config.viewFiles.Nodup then some .sameFileNames
              else none

end Config

end FunctionAtlas.Settings
