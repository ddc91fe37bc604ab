/-!
Contract: how alike two words are, for proposing a name in place of a mistyped one.

Two characters are partners if they are equal and stand at nearly the same places. Words are
alike if many of their characters have partners, and the partners come in the same order.

Owns: the measure, and the names that are close enough to a word.
-/

namespace FunctionAtlas.Text

/-- The characters of a word that find a partner among the numbered characters of another word,
and the places of the partners. Each character takes the first free partner that is at most
`span` places away. -/
def partners (span : Nat) (others : List (Char × Nat)) :
    List (Char × Nat) → List Nat → List Char × List Nat
  | [], taken => ([], taken)
  | (character, index) :: rest, taken =>
      let isPartner := fun (other : Char × Nat) =>
        other.1 = character && index ≤ other.2 + span && other.2 ≤ index + span &&
          !taken.contains other.2
      match others.find? isPartner with
      | none => partners span others rest taken
      | some (_, place) =>
          let (found, places) := partners span others rest (place :: taken)
          (character :: found, places)

/-- The likeness of two words, from zero to one: the mean of the shares of characters with a
partner in each word and of the partners that are in order. -/
def similarity (first second : String) : Float :=
  let firstLength := first.toList.length
  let secondLength := second.toList.length
  let span := max firstLength secondLength / 2 - 1
  let others := second.toList.zipIdx
  let (found, places) := partners span others first.toList.zipIdx []
  let partnersInPlace := (others.filter fun other => places.contains other.2).map (·.1)
  let swaps := (found.zip partnersInPlace |>.filter fun (one, other) => one ≠ other).length / 2
  let shared := found.length.toFloat
  if firstLength = 0 && secondLength = 0 then 1
  else if found.isEmpty then 0
  else
    (shared / firstLength.toFloat + shared / secondLength.toFloat +
      (found.length - swaps).toFloat / shared) / 3

/-- A likeness above this is worth a proposal. -/
def similarityLimit : Float := 0.7

/-- The names that are like a word, the closest last. Of equally close names the later is taken
to be closer. -/
def similarNames (word : String) (names : List String) : List String :=
  let scored := names.map fun name => (similarity word name, name)
  let close := scored.filter fun (score, _) => similarityLimit < score
  (close.mergeSort fun one other => one.1 ≤ other.1).map (·.2)

/-- The name closest to a word, if any is like it. -/
def closestName? (word : String) (names : List String) : Option String :=
  (similarNames word names).getLast?

end FunctionAtlas.Text
