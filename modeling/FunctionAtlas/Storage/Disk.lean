import FunctionAtlas.Storage.Path

/-!
Contract: files, folders and symbolic links as a value.

A disk holds entries by location, a location being the names on the way from the top folder. Paths
are resolved against it piece by piece: every piece but the last has to lead to a folder, links
are followed where they stand for a folder or where the caller wants what they lead to, and only a
limited number of links is followed for one path.

Owns: entries, resolution of paths, reading, writing, and what can go wrong with them.

Does not own: the order in which a tree is visited.
-/

namespace FunctionAtlas.Storage

/-- The names on the way from the top folder. -/
abbrev Location := List String

inductive Entry where
  | file (content : ByteArray)
  | folder
  | link (target : String)

/-- Entries by location, and the folder that relative paths start from. The top folder is always
there. -/
structure Disk where
  entries : List (Location × Entry)
  working : Location

/-- Why an operation on files fails. -/
inductive IoFault where
  | missing
  | alreadyThere
  | notFolder
  | isFolder
  | nameTooLong
  | tooManyLinks
  /-- The content is no text. -/
  | notText
  /-- The path holds a character that no name can hold. -/
  | zeroInName
deriving DecidableEq, Repr

/-- The wording of a fault; those of the system carry its number. -/
def IoFault.message : IoFault → String
  | .missing => "No such file or directory (os error 2)"
  | .alreadyThere => "File exists (os error 17)"
  | .notFolder => "Not a directory (os error 20)"
  | .isFolder => "Is a directory (os error 21)"
  | .nameTooLong => "File name too long (os error 36)"
  | .tooManyLinks => "Too many levels of symbolic links (os error 40)"
  | .notText => "stream did not contain valid UTF-8"
  | .zeroInName => "file name contained an unexpected NUL byte"

/-- The absolute path of a location. -/
def Location.toText (location : Location) : String := "/" ++ String.intercalate "/" location

namespace Disk

/-! ## Entries -/

def entryAt (disk : Disk) (location : Location) : Option Entry :=
  if location = [] then some .folder
  else (disk.entries.find? fun entry => entry.1 = location).map Prod.snd

def isFolderAt (disk : Disk) (location : Location) : Bool :=
  match disk.entryAt location with
  | some .folder => true
  | _ => false

/-- Puts an entry at a location, in the place of the one that was there. -/
def put (disk : Disk) (location : Location) (entry : Entry) : Disk :=
  { disk with
    entries := (disk.entries.filter fun old => old.1 ≠ location) ++ [(location, entry)] }

/-- Takes away an entry and all that is below it. -/
def removeAt (disk : Disk) (location : Location) : Disk :=
  { disk with entries := disk.entries.filter fun old => old.1.take location.length ≠ location }

/-- The names in a folder, in the order of their code points. -/
def namesIn (disk : Disk) (folder : Location) : List String :=
  (disk.entries.filterMap fun entry =>
    if entry.1.dropLast = folder then entry.1.getLast? else none).mergeSort
      fun left right => !decide (right < left)

/-- The number of folders below the top. -/
def folderCount (disk : Disk) : Nat :=
  (disk.entries.filter fun entry => match entry.2 with | .folder => true | _ => false).length

/-! ## Resolution -/

/-- At most this many links are followed for one path. -/
def linkLimit : Nat := 40

/-- A name has at most this many bytes. -/
def nameLimit : Nat := 255

/-- A path has less than this many bytes. -/
def pathLimit : Nat := 4096

/-- Where a path leads. -/
inductive Spot where
  /-- To an entry. -/
  | found (location : Location)
  /-- To a name in a folder that does not hold it. -/
  | vacant (location : Location)
deriving DecidableEq, Repr

/-- The pieces of a text, and whether they start from the top. -/
def startOf (from_ : Location) (text : String) : Location × List String :=
  let pieces := (splitSlash text.toList).map String.ofList
  if text.startsWith "/" then ([], pieces.drop 1) else (from_, pieces)

/-- Walks along the pieces. The last piece is followed if it is a link and `follow` holds. -/
def walk (disk : Disk) (follow : Bool) (links : Nat) (current : Location) (pieces : List String) :
    Except IoFault Spot :=
  match pieces with
  | [] => .ok (.found current)
  | piece :: rest =>
      if !disk.isFolderAt current then .error .notFolder
      else if piece = "" || piece = "." then walk disk follow links current rest
      else if piece = ".." then walk disk follow links current.dropLast rest
      else if nameLimit < piece.utf8ByteSize then .error .nameTooLong
      else
        match disk.entryAt (current ++ [piece]) with
        | none =>
            if rest.all (· = "") then .ok (.vacant (current ++ [piece])) else .error .missing
        | some (.link target) =>
            if rest = [] && !follow then .ok (.found (current ++ [piece]))
            else
              match links with
              | 0 => .error .tooManyLinks
              | links + 1 =>
                  let (start, targetPieces) := startOf current target
                  walk disk follow links start (targetPieces ++ rest)
        | some _ => walk disk follow links (current ++ [piece]) rest
termination_by (links, pieces.length)

/-- Where a path leads. -/
def resolve (disk : Disk) (follow : Bool) (path : String) : Except IoFault Spot :=
  if path.toList.contains '\x00' then .error .zeroInName
  else if path = "" then .error .missing
  else if pathLimit ≤ path.utf8ByteSize then .error .nameTooLong
  else
    let (start, pieces) := startOf disk.working path
    walk disk follow linkLimit start pieces

/-- The location of an existing entry. -/
def locate (disk : Disk) (follow : Bool) (path : String) : Except IoFault Location :=
  match disk.resolve follow path with
  | .error fault => .error fault
  | .ok (.vacant _) => .error .missing
  | .ok (.found location) => .ok location

/-- The location that a path leads to when all links are followed. -/
def canonical (disk : Disk) (path : String) : Except IoFault Location := disk.locate true path

/-- Whether a path leads to something. -/
def exists_ (disk : Disk) (path : String) : Bool :=
  match disk.canonical path with
  | .ok _ => true
  | .error _ => false

/-- Whether a path leads to a folder. -/
def isFolder (disk : Disk) (path : String) : Bool :=
  match disk.canonical path with
  | .ok location => disk.isFolderAt location
  | .error _ => false

/-! ## Reading -/

/-- The bytes of a file. -/
def readBytes (disk : Disk) (path : String) : Except IoFault ByteArray :=
  match disk.canonical path with
  | .error fault => .error fault
  | .ok location =>
      match disk.entryAt location with
      | some (.file content) => .ok content
      | some .folder => .error .isFolder
      | _ => .error .missing

/-- The text of a file. -/
def readText (disk : Disk) (path : String) : Except IoFault String :=
  match disk.readBytes path with
  | .error fault => .error fault
  | .ok content =>
      match String.fromUTF8? content with
      | some text => .ok text
      | none => .error .notText

/-! ## Writing -/

/-- The path without slashes at its end; the top folder keeps its own. -/
def withoutEndSlashes (path : String) : String :=
  match path.toList.reverse.dropWhile (· = '/') with
  | [] => "/"
  | reversed => String.ofList reversed.reverse

/-- Walks along the pieces to the location of a file, which need not be there. What a link leads to
takes the place of the link. A name with a slash after it can only be that of a folder and is not
looked at. -/
def walkToFile (disk : Disk) (links : Nat) (current : Location) (pieces : List String) :
    Except IoFault Location :=
  match pieces with
  | [] => .error .isFolder
  | piece :: rest =>
      if !disk.isFolderAt current then .error .notFolder
      else if piece = "" || piece = "." then walkToFile disk links current rest
      else if piece = ".." then walkToFile disk links current.dropLast rest
      else if rest ≠ [] && rest.all (· = "") then .error .isFolder
      else if nameLimit < piece.utf8ByteSize then .error .nameTooLong
      else
        match disk.entryAt (current ++ [piece]) with
        | none => if rest = [] then .ok (current ++ [piece]) else .error .missing
        | some (.file _) => if rest = [] then .ok (current ++ [piece]) else .error .notFolder
        | some .folder => walkToFile disk links (current ++ [piece]) rest
        | some (.link target) =>
            match links with
            | 0 => .error .tooManyLinks
            | links + 1 =>
                let (start, targetPieces) := startOf current target
                walkToFile disk links start (targetPieces ++ rest)
termination_by (links, pieces.length)

/-- The location that a path gives to a file. -/
def locateFile (disk : Disk) (path : String) : Except IoFault Location :=
  if path.toList.contains '\x00' then .error .zeroInName
  else if path = "" then .error .missing
  else if pathLimit ≤ path.utf8ByteSize then .error .nameTooLong
  else
    let (start, pieces) := startOf disk.working path
    walkToFile disk linkLimit start pieces

/-- Writes a file. What a link leads to is written in place of the link. -/
def writeBytes (disk : Disk) (path : String) (content : ByteArray) : Except IoFault Disk :=
  match disk.locateFile path with
  | .error fault => .error fault
  | .ok location => .ok (disk.put location (.file content))

/-- Writes a text file. -/
def writeText (disk : Disk) (path text : String) : Except IoFault Disk :=
  disk.writeBytes path text.toUTF8

/-- Makes one folder. Slashes at the end of its path say nothing. -/
def makeFolder (disk : Disk) (path : String) : Except IoFault Disk :=
  if pathLimit ≤ path.utf8ByteSize then .error .nameTooLong
  else
    match disk.resolve false (if path.endsWith "/" then withoutEndSlashes path else path) with
    | .error fault => .error fault
    | .ok (.found _) => .error .alreadyThere
    | .ok (.vacant location) => .ok (disk.put location .folder)

/-- Makes a link. -/
def makeLink (disk : Disk) (path target : String) : Except IoFault Disk :=
  match disk.resolve false path with
  | .error fault => .error fault
  | .ok (.found _) => .error .alreadyThere
  | .ok (.vacant location) => .ok (disk.put location (.link target))

/-- A disk after folders were made, and the reason why not all were. -/
structure MadeFolders where
  disk : Disk
  fault? : Option IoFault := none

/-- Makes a folder and the missing ones above it, given the paths of all of them from the folder
upwards. Those that were made stay also if one below them cannot be made. -/
def makeFoldersAlong (disk : Disk) : List String → MadeFolders
  | [] => { disk }
  | path :: above =>
      match disk.makeFolder path with
      | .ok changed => { disk := changed }
      | .error .missing =>
          let made := makeFoldersAlong disk above
          match made.fault? with
          | some _ => made
          | none =>
              match made.disk.makeFolder path with
              | .ok finished => { disk := finished }
              | .error fault =>
                  if made.disk.isFolder path then made else { made with fault? := some fault }
      | .error .alreadyThere =>
          if disk.isFolder path then { disk } else { disk, fault? := some .alreadyThere }
      | .error fault => { disk, fault? := some fault }

/-- A path and those above it, up to the one that begins it. -/
def pathsUpwards : Nat → Path → List String
  | 0, _ => []
  | fuel + 1, path =>
      if path.components = [] then []
      else
        path.toText :: match path.parent with
          | some parent => pathsUpwards fuel parent
          | none => []

/-- Makes a folder and the missing ones above it, as far as possible. -/
def prepareFolders (disk : Disk) (path : String) : MadeFolders :=
  let cut := Path.ofText path
  disk.makeFoldersAlong (pathsUpwards (cut.pieces.length + 2) cut)

/-- Makes a folder and the missing ones above it. -/
def makeFolders (disk : Disk) (path : String) : Except IoFault Disk :=
  let made := disk.prepareFolders path
  match made.fault? with
  | some fault => .error fault
  | none => .ok made.disk

/-! ## Comparison -/

/-- The files below a folder, by their paths below it. -/
def filesBelow (disk : Disk) (folder : Location) : List (String × ByteArray) :=
  disk.entries.filterMap fun entry =>
    match entry.2 with
    | .file content =>
        if entry.1.take folder.length = folder then
          some (String.intercalate "/" (entry.1.drop folder.length), content)
        else none
    | _ => none

/-- The files below the working folder that are new or have a new content. -/
def changedFiles (before after : Disk) : List (String × ByteArray) :=
  let old := before.filesBelow before.working
  (after.filesBelow after.working).filter fun file =>
    match old.find? fun candidate => candidate.1 = file.1 with
    | some candidate => candidate.2 != file.2
    | none => true

end Disk

end FunctionAtlas.Storage
