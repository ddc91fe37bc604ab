import FunctionAtlas.Command.Program

/-!
Contract: the program on the real disk and terminal.

The folders and files that an invocation can reach are read into a disk, the program responds on
that disk, and what it changed there is written to the real one.

Owns: input and output.

Does not own: any decision of the program.
-/

namespace FunctionAtlas

open FunctionAtlas.Command
open FunctionAtlas.Run
open FunctionAtlas.Storage

/-- The location that an absolute path names. -/
def locationOf (path : String) : Location := (Disk.startOf [] path).2.filter fun piece => piece ≠ ""

/-- A disk with the folders above a location. -/
def withFoldersAbove (disk : Disk) (location : Location) : Disk :=
  ((List.range location.length).map location.take).foldl
    (fun current above =>
      if (current.entryAt above).isSome then current else current.put above .folder) disk

mutual

/-- Reads the entry at a location, with all that it leads to. -/
partial def loadEntry (disk : Disk) (location : Location) : IO Disk := do
  if location ≠ [] && (disk.entryAt location).isSome then return disk
  let path ← try some <$> IO.FS.realPath (Location.toText location) catch _ => pure none
  match path with
  | none => return disk.put location (.link (Location.toText location ++ ".missing"))
  | some real =>
      let target := locationOf real.toString
      if target ≠ location then
        let linked := disk.put location (.link real.toString)
        loadEntry (withFoldersAbove linked target) target
      else if ← real.isDir then
        let names := (← real.readDir).toList.map fun entry => entry.fileName
        loadNames (if location = [] then disk else disk.put location .folder) location names
      else
        let content ← try IO.FS.readBinFile real catch _ => pure ByteArray.empty
        return disk.put location (.file content)

partial def loadNames (disk : Disk) (folder : Location) : List String → IO Disk
  | [] => return disk
  | name :: names => do
      let next ← loadEntry disk (folder ++ [name])
      loadNames next folder names

end

/-- The paths that a task names. -/
def pathsOf : Task → List String
  | .summarize request => request.path :: request.config.toList ++ request.outputFolder.toList
  | .search request => request.path :: request.config.toList
  | .init request => [request.output]

/-- Reads the part of the real disk that a task can reach. -/
def loadDisk (working : Location) (task : Task) : IO Disk := do
  let empty : Disk := { entries := [], working }
  let here ← loadEntry (withFoldersAbove empty working) working
  (pathsOf task).foldlM
    (fun disk (path : String) => do
      try
        let location := locationOf (← IO.FS.realPath path).toString
        loadEntry (withFoldersAbove disk location) location
      catch _ => return disk) here

/-- Whether two entries are the same folder, link or content. -/
def sameEntry : Entry → Entry → Bool
  | .file one, .file other => one.data = other.data
  | .folder, .folder => true
  | .link one, .link other => one = other
  | _, _ => false

/-- Writes the entries that a disk has gained. -/
def saveChanges (before after : Disk) : IO Unit :=
  after.entries.forM fun (location, entry) =>
    if (before.entryAt location).any (sameEntry entry) then return
    else
      match entry with
      | .folder => IO.FS.createDirAll (Location.toText location)
      | .file content => do
          IO.FS.createDirAll (Location.toText location.dropLast)
          IO.FS.writeBinFile (Location.toText location) content
      | .link _ => return

end FunctionAtlas

open FunctionAtlas in
/-- Runs the program with its arguments. -/
def main (arguments : List String) : IO UInt32 := do
  let working := locationOf (← IO.currentDir).toString
  let stdout ← IO.getStdout
  let stderr ← IO.getStderr
  let disk ← match Command.read arguments with
    | .ok invocation => loadDisk working invocation.task
    | .error _ => pure { entries := [], working }
  let response := Command.respond disk (← stdout.isTty) arguments
  saveChanges disk response.disk
  stdout.putStr response.output
  stderr.putStr response.errors
  return response.code.toUInt32
