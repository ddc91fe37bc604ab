import FunctionAtlas.Run.Effect

/-!
Contract: the settings and the files that a task works with.

Owns: the check of loaded settings, and the files under a path.
-/

namespace FunctionAtlas.Run

open FunctionAtlas.Settings
open FunctionAtlas.Storage

/-- The settings from a given file, or from the file that is found, if they are in order. -/
def loadSettings (disk : Disk) (given : Option String) : Except Refusal Config :=
  match load disk given with
  | .error fault => .error (.unloadable fault)
  | .ok config =>
      match config.fault? with
      | some fault => .error (.settings fault)
      | none => .ok config

/-- The files of a task, and the folder that they are named from. -/
structure Inputs where
  base : String
  files : List String
deriving DecidableEq, Repr

/-- The files under a path: those that the settings select in a folder, or the one file. -/
def resolveInputs (disk : Disk) (config : Config) (path : String) : Except Refusal Inputs :=
  match disk.canonical path with
  | .error fault => .error (.inaccessible path fault)
  | .ok location =>
      if disk.isFolderAt location then
        let base := Location.toText location
        match Discovery.filesUnder disk config base with
        | .error fault => .error (.discovery fault)
        | .ok files => .ok { base, files }
      else
        .ok { base := Location.toText location.dropLast, files := [Location.toText location] }

end FunctionAtlas.Run
