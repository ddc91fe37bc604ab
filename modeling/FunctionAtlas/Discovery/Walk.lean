import FunctionAtlas.Settings.Config
import FunctionAtlas.Storage.Disk

/-!
Contract: the files of a project.

A tree is visited folder by folder, the entries of a folder in the order of their names, and links
are followed. Hidden folders, folders of tools and excluded ones are not entered. Files count if
their extension is wanted and they are not excluded. Anything that cannot be looked at ends the
visit, and so does a link to a folder that the visit is inside of.

Owns: the visit, and what ends it.

Does not own: what is done with the files.
-/

namespace FunctionAtlas.Discovery

open FunctionAtlas.Settings
open FunctionAtlas.Storage

/-- Why a visit ended. -/
inductive WalkFault where
  | settings (fault : ConfigFault)
  /-- Something cannot be looked at. -/
  | unreadable (path : String) (fault : IoFault)
  /-- A link leads back to a folder that is being visited. -/
  | loop (link ancestor : String)
deriving DecidableEq, Repr

def WalkFault.message : WalkFault → String
  | .settings fault => fault.message
  | .unreadable path fault => "IO error for operation on " ++ path ++ ": " ++ fault.message
  | .loop link ancestor =>
      "File system loop found: " ++ link ++ " points to an ancestor " ++ ancestor

/-- What a visit looks for. -/
structure Rules where
  config : Config
  exclusions : List (List Glob.Token)

/-- Folders that hold no code of a project. -/
def skippedFolders : List String := ["__pycache__", "node_modules", "site-packages"]

/-- A path below the root: the names on the way to it. -/
abbrev Names := List String

/-- The path of what is found by names below a root. -/
def pathBelow (root : String) (names : Names) : String := names.foldl joinPath root

namespace Rules

/-- Whether a pattern matches a path, as seen from the root or as it is. -/
def excludes (rules : Rules) (root : String) (names : Names) : Bool :=
  Glob.anyMatches rules.exclusions (String.intercalate "/" names) ||
    Glob.anyMatches rules.exclusions (pathBelow root names)

/-- Whether a folder below the root is entered. -/
def enters (rules : Rules) (root : String) (names : Names) : Bool :=
  let name := names.getLastD ""
  (rules.config.includeHidden || !name.startsWith ".") && !skippedFolders.contains name &&
    !rules.excludes root names

/-- Whether a file counts. -/
def selects (rules : Rules) (root : String) (names : Names) : Bool :=
  rules.config.selectsExtension (extensionOf (pathBelow root names)) &&
    !rules.excludes root names

end Rules

/-- A folder that is being visited. -/
structure Ancestor where
  names : Names
  location : Location

/-- What is found by a name once links are followed. -/
inductive Sight where
  | file
  | folder (location : Location)

/-- Looks at what a path leads to. A link may not lead to an ancestor. -/
def look (disk : Disk) (root : String) (ancestors : List Ancestor) (names : Names)
    (location : Location) : Except WalkFault Sight :=
  let path := pathBelow root names
  match disk.entryAt location with
  | some (.file _) => .ok .file
  | some .folder => .ok (.folder location)
  | none => .error (.unreadable path .missing)
  | some (.link _) =>
      match disk.canonical path with
      | .error fault => .error (.unreadable path fault)
      | .ok target =>
          if disk.isFolderAt target then
            match ancestors.find? fun ancestor => ancestor.location = target with
            | some ancestor => .error (.loop path (pathBelow root ancestor.names))
            | none => .ok (.folder target)
          else .ok .file

mutual

/-- The files in a folder, given the folders around it, innermost first. Each level of folders
takes one unit of fuel. -/
def filesIn (disk : Disk) (rules : Rules) (root : String) (fuel : Nat)
    (ancestors : List Ancestor) (names : Names) (location : Location) :
    Except WalkFault (List Names) :=
  match fuel with
  | 0 => .ok []
  | fuel + 1 =>
      filesAmong disk rules root fuel ({ names, location } :: ancestors) names location
        (disk.namesIn location)
termination_by (fuel, 0)

/-- The files among some entries of a folder. -/
def filesAmong (disk : Disk) (rules : Rules) (root : String) (fuel : Nat)
    (ancestors : List Ancestor) (names : Names) (location : Location) (entries : List String) :
    Except WalkFault (List Names) :=
  match entries with
  | [] => .ok []
  | name :: rest =>
      let inner := names ++ [name]
      match look disk root ancestors inner (location ++ [name]) with
      | .error fault => .error fault
      | .ok .file =>
          (filesAmong disk rules root fuel ancestors names location rest).map fun others =>
            if rules.selects root inner then inner :: others else others
      | .ok (.folder target) =>
          if rules.enters root inner then
            match filesIn disk rules root fuel ancestors inner target with
            | .error fault => .error fault
            | .ok found =>
                (filesAmong disk rules root fuel ancestors names location rest).map fun others =>
                  found ++ others
          else filesAmong disk rules root fuel ancestors names location rest
termination_by (fuel, entries.length + 1)

end

/-- Folders nest at most this deep: between two links lie at most all folders, and no link leads
to a folder twice. -/
def depthBound (disk : Disk) : Nat := (disk.folderCount + 2) * (disk.folderCount + 2)

/-- The files of a project by their names below the root. -/
def namesUnder (disk : Disk) (rules : Rules) (root : String) : Except WalkFault (List Names) :=
  match disk.canonical root with
  | .error fault => .error (.unreadable root fault)
  | .ok location =>
      if disk.isFolderAt location then
        filesIn disk rules root (depthBound disk) [] [] location
      else .ok (if rules.selects root [] then [[]] else [])

/-- The paths of the files of a project. -/
def filesUnder (disk : Disk) (config : Config) (root : String) :
    Except WalkFault (List String) :=
  match config.exclusions with
  | .error fault => .error (.settings fault)
  | .ok exclusions =>
      (namesUnder disk { config, exclusions } root).map fun found =>
        found.map (pathBelow root)

end FunctionAtlas.Discovery
