/-!
Contract: places in a text and distances between them.

An extent counts characters, bytes of the UTF-8 form, line breaks, and bytes after the last line
break. As a place it is the extent of the text before it.

Owns: extents, their sum and difference, and the extent of a character.
-/

namespace FunctionAtlas.Text

/-- A distance in a text, or the place at that distance from its beginning. -/
structure Extent where
  chars : Nat
  bytes : Nat
  rows : Nat
  column : Nat
deriving DecidableEq, Repr, Inhabited

namespace Extent

def zero : Extent := ⟨0, 0, 0, 0⟩

/-- The extent of one text after another. -/
def add (first second : Extent) : Extent :=
  { chars := first.chars + second.chars
    bytes := first.bytes + second.bytes
    rows := first.rows + second.rows
    column := if second.rows = 0 then first.column + second.column else second.column }

/-- The extent between an earlier place and a later one. -/
def sub (later earlier : Extent) : Extent :=
  { chars := later.chars - earlier.chars
    bytes := later.bytes - earlier.bytes
    rows := later.rows - earlier.rows
    column := if earlier.rows < later.rows then later.column else later.column - earlier.column }

/-- The place after one more character. -/
def after (place : Extent) (character : Char) : Extent :=
  { chars := place.chars + 1
    bytes := place.bytes + character.utf8Size
    rows := if character = '\n' then place.rows + 1 else place.rows
    column := if character = '\n' then 0 else place.column + character.utf8Size }

end Extent

end FunctionAtlas.Text
