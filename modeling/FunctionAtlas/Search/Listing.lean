import FunctionAtlas.Search.Lines
import FunctionAtlas.Text.Styled

/-!
Contract: what a terminal shows of matches.

Owns: the list of files with their matching lines.
-/

namespace FunctionAtlas.Search

open FunctionAtlas.Text

/-- A matching line with its number. -/
def LineMatch.listed (isColoured : Bool) (found : LineMatch) : String :=
  " Line " ++ toString found.line ++ ": " ++ (found.highlight isColoured).getD found.text ++ "\n"

/-- A file with its matching lines. -/
def FileMatches.listed (isColoured : Bool) (found : FileMatches) : String :=
  "\nFile: " ++ Style.paint isColoured .bold found.file ++ "\n" ++
    String.join (found.lines.map (·.listed isColoured))

/-- All files with matching lines. -/
def listing (isColoured : Bool) (found : List FileMatches) : String :=
  String.join (found.map (·.listed isColoured))

end FunctionAtlas.Search
