import FunctionAtlas.Search.Highlight
import FunctionAtlas.Search.Pattern
import FunctionAtlas.Storage.Disk
import FunctionAtlas.Text.Blank

/-!
Contract: searching texts and files line by line.

A line is searched without the white space at its ends, and counts if it has a match that is not
empty.

Owns: the lines of a text that match, and of files.
-/

namespace FunctionAtlas.Search

open FunctionAtlas.Regex

/-- The lines of a text. A line feed ends a line, and begins none. -/
def linesOf (text : List Char) : List (List Char) :=
  match text.getLast? with
  | none => []
  | some '\n' => text.dropLast.splitOn '\n'
  | some _ => text.splitOn '\n'

/-- The match of a line with a number, if it has one. -/
def searchLine (program : Program) (number : Nat) (line : List Char) : Option LineMatch :=
  let text := Text.trimRight (Text.trimLeft line)
  match program.matches_ text with
  | [] => none
  | ranges => some { line := number, text := String.ofList text, ranges }

/-- The matching lines among lines that are numbered from a number on. -/
def searchLines (program : Program) : Nat → List (List Char) → List LineMatch
  | _, [] => []
  | number, line :: lines =>
      let found := searchLines program (number + 1) lines
      match searchLine program number line with
      | none => found
      | some hit => hit :: found

/-- The matching lines of a text. -/
def searchText (program : Program) (text : String) : List LineMatch :=
  searchLines program 1 (linesOf text.toList)

/-- The matching lines of a file. -/
def searchFile (disk : Storage.Disk) (program : Program) (path : String) :
    Except Storage.IoFault (List LineMatch) :=
  (disk.readText path).map (searchText program)

/-- The matching lines of one file. -/
structure FileMatches where
  file : String
  lines : List LineMatch
deriving DecidableEq, Repr

/-- The matches in files, in the order of the files. Files that cannot be read and files without
a match are left out. -/
def searchFiles (disk : Storage.Disk) (program : Program) (base : String) (paths : List String) :
    List FileMatches :=
  paths.filterMap fun path =>
    match searchFile disk program path with
    | .error _ => none
    | .ok [] => none
    | .ok lines =>
        some { file := Storage.forwardSlashes (Storage.relativeText base path), lines }

end FunctionAtlas.Search
