/-!
Contract: parts of texts by byte offsets.

Offsets count bytes of UTF-8. A part begins and ends between characters, or there is no such part.

Owns: cutting at an offset.
-/

namespace FunctionAtlas.Text

/-- The characters before and after an offset. -/
def splitAtByte : Nat → List Char → Option (List Char × List Char)
  | 0, characters => some ([], characters)
  | _ + 1, [] => none
  | offset + 1, character :: rest =>
      if character.utf8Size ≤ offset + 1 then
        (splitAtByte (offset + 1 - character.utf8Size) rest).map fun (before, after) =>
          (character :: before, after)
      else none

/-- The characters between two offsets. -/
def sliceBytes (characters : List Char) (start stop : Nat) : Option (List Char) :=
  if stop < start then none
  else
    match splitAtByte start characters with
    | none => none
    | some (_, rest) => (splitAtByte (stop - start) rest).map Prod.fst

/-- The characters from an offset on. -/
def sliceFrom (characters : List Char) (start : Nat) : Option (List Char) :=
  (splitAtByte start characters).map Prod.snd

end FunctionAtlas.Text
