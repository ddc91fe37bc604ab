import FunctionAtlas.Text.Slice
import FunctionAtlas.Text.Styled

/-!
Contract: lines with matches, and how they are shown.

Owns: the lines that a search finds, and the highlighting of matches.

Does not own: what matches.
-/

namespace FunctionAtlas.Search

open FunctionAtlas.Text

/-- A line with matches. -/
structure LineMatch where
  /-- The number of the line, from one. -/
  line : Nat
  /-- The line without white space at its ends. -/
  text : String
  /-- Where the matches begin and end, as byte offsets into the text. -/
  ranges : List (Nat × Nat)
deriving DecidableEq, Repr

/-- The text from an offset on, with the given parts highlighted. There is none if a part does not
lie behind the one before it, or does not begin and end between characters. -/
def highlightFrom (isColoured : Bool) (characters : List Char) (last : Nat) :
    List (Nat × Nat) → Option String
  | [] => (sliceFrom characters last).map String.ofList
  | (start, stop) :: rest =>
      match sliceBytes characters last start, sliceBytes characters start stop with
      | some before, some hit =>
          (highlightFrom isColoured characters stop rest).map fun tail =>
            String.ofList before ++
              Style.paint isColoured (.coloured .green) (String.ofList hit) ++ tail
      | _, _ => none

/-- A line with its matches in green. -/
def LineMatch.highlight (isColoured : Bool) (found : LineMatch) : Option String :=
  highlightFrom isColoured found.text.toList 0 found.ranges

end FunctionAtlas.Search
