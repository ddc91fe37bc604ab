import FunctionAtlas.Text.Blank

/-!
Contract: docstrings without the indentation of the code around them.

The margin is the least indentation of the lines after the first that are not blank. It is cut
off these lines, the first line loses all its indentation, and empty lines at both ends go.

Owns: tab expansion, the margin and the cleaned text.
-/

namespace FunctionAtlas.Docstring

open FunctionAtlas.Text

/-- The lines of a text; a line end at the end opens an empty last line. -/
def splitLines (characters : List Char) : List (List Char) :=
  characters.foldr
    (fun character lines =>
      if character = '\n' then [] :: lines
      else
        match lines with
        | [] => [[character]]
        | line :: rest => (character :: line) :: rest)
    [[]]

/-- The distance between tab stops. -/
def tabSize : Nat := 8

/-- Replaces tabs by the blanks up to the next tab stop. -/
def expandTabsFrom (column : Nat) : List Char → List Char
  | [] => []
  | '\t' :: rest =>
      let width := tabSize - column % tabSize
      List.replicate width ' ' ++ expandTabsFrom (column + width) rest
  | character :: rest => character :: expandTabsFrom (column + 1) rest

def expandTabs (line : List Char) : List Char := expandTabsFrom 0 line

/-- The number of characters of white space that a line begins with. -/
def indentation (line : List Char) : Nat := (line.takeWhile isBlank).length

/-- The least indentation of the lines that are not blank. -/
def margin (lines : List (List Char)) : Option Nat :=
  ((lines.filter fun line => !(trimLeft line).isEmpty).map indentation).min?

/-- Drops empty lines at both ends. -/
def trimEmptyLines (lines : List (List Char)) : List (List Char) :=
  ((lines.reverse.dropWhile List.isEmpty).reverse).dropWhile List.isEmpty

/-- Lines one after the other with line ends between them. -/
def joinLines : List (List Char) → List Char
  | [] => []
  | [line] => line
  | line :: rest => line ++ '\n' :: joinLines rest

/-- The cleaned lines of a docstring. -/
def cleanLines (lines : List (List Char)) : List (List Char) :=
  match lines with
  | [] => []
  | first :: rest =>
      let cut := match margin rest with
        | some width => rest.map (List.drop width)
        | none => rest
      trimEmptyLines (trimLeft first :: cut)

/-- A docstring without the indentation of the code around it. -/
def clean (doc : String) : String :=
  String.ofList (joinLines (cleanLines ((splitLines doc.toList).map expandTabs)))

end FunctionAtlas.Docstring
