/-!
Contract: texts with terminal colours.

A styled text stands between the codes that switch the style on and the code that resets all
styles. A reset inside the text is followed by the style again, so that the style lasts to the
end.

Owns: the styles, their codes, and the choice between coloured and plain output.
-/

namespace FunctionAtlas.Text

inductive Colour where
  | green
  | yellow
  | cyan
deriving DecidableEq, Repr

structure Style where
  isBold : Bool
  isDimmed : Bool
  colour : Option Colour
deriving DecidableEq, Repr

namespace Style

def plain : Style := { isBold := false, isDimmed := false, colour := none }
def bold : Style := { plain with isBold := true }
def dimmed : Style := { plain with isDimmed := true }
def coloured (colour : Colour) : Style := { plain with colour := some colour }
def boldColoured (colour : Colour) : Style := { bold with colour := some colour }

def colourCode : Colour → String
  | .green => "32"
  | .yellow => "33"
  | .cyan => "36"

/-- The codes of a style, in the order in which they are written. -/
def codes (style : Style) : List String :=
  (if style.isBold then ["1"] else []) ++ (if style.isDimmed then ["2"] else []) ++
    (style.colour.map colourCode).toList

/-- Switches a style on. -/
def start (style : Style) : String := "\x1b[" ++ String.intercalate ";" style.codes ++ "m"

/-- Switches all styles off. -/
def reset : String := "\x1b[0m"

/-- A text in which every reset is followed by some other text. -/
def afterResets (inserted : List Char) : List Char → List Char
  | '\x1b' :: '[' :: '0' :: 'm' :: rest =>
      '\x1b' :: '[' :: '0' :: 'm' :: (inserted ++ afterResets inserted rest)
  | character :: rest => character :: afterResets inserted rest
  | [] => []

/-- A text in a style, if colours are wanted. -/
def paint (isColoured : Bool) (style : Style) (text : String) : String :=
  if isColoured && style.codes ≠ [] then
    style.start ++ String.ofList (afterResets style.start.toList text.toList) ++ reset
  else text

end Style

end FunctionAtlas.Text
