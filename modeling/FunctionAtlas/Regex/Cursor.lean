import FunctionAtlas.Regex.Fault
import FunctionAtlas.Text.Blank

/-!
Contract: moving through a pattern.

Owns: the place in a pattern, looking at the characters there, and skipping blanks and comments
where the pattern asks for it.

Does not own: what the characters mean.
-/

namespace FunctionAtlas.Regex

/-- A place in a pattern. -/
structure Cursor where
  pattern : Array Char
  position : Nat
  /-- Whether blanks and comments do not count. -/
  skipsBlanks : Bool
  /-- The names of groups so far, with their places. -/
  names : List (String × Span)

/-- Reading a part of a pattern, or finding a fault. -/
abbrev Reader := StateT Cursor (Except Fault)

namespace Reader

/-- The number of steps in which any part of a pattern can be read. -/
def fuel : Reader Nat := fun cursor => .ok (cursor.pattern.size + 1, cursor)

def position : Reader Nat := fun cursor => .ok (cursor.position, cursor)

/-- The character at a distance from the place. -/
def peek? (distance : Nat) : Reader (Option Char) := fun cursor =>
  .ok (cursor.pattern[cursor.position + distance]?, cursor)

def isAtEnd : Reader Bool := fun cursor =>
  .ok (decide (cursor.pattern.size ≤ cursor.position), cursor)

/-- Whether a text follows. -/
def follows (text : String) : Reader Bool := fun cursor =>
  .ok (cursor.pattern.extract cursor.position (cursor.position + text.length) ==
    text.toList.toArray, cursor)

def moveTo (position : Nat) : Reader Unit := fun cursor =>
  .ok ((), { cursor with position })

/-- Moves over a character, and tells whether another one follows. -/
def advance : Reader Bool := fun cursor =>
  let position := min (cursor.position + 1) cursor.pattern.size
  .ok (decide (position < cursor.pattern.size), { cursor with position })

/-- Moves over a text if it follows. -/
def advanceOver (text : String) : Reader Bool := do
  if ← follows text then
    moveTo ((← position) + text.length)
    return true
  return false

/-- Where blanks and comments end that begin at a position. -/
def blanksEnd (pattern : Array Char) : Nat → Bool → Nat → Nat
  | 0, _, position => position
  | fuel + 1, isComment, position =>
      match pattern[position]? with
      | none => position
      | some character =>
          if isComment then blanksEnd pattern fuel (character ≠ '\n') (position + 1)
          else if Text.isBlank character then blanksEnd pattern fuel false (position + 1)
          else if character = '#' then blanksEnd pattern fuel true (position + 1)
          else position

/-- Moves over blanks and comments where they do not count. -/
def advanceBlanks : Reader Unit := fun cursor =>
  if cursor.skipsBlanks then
    let stop := blanksEnd cursor.pattern (cursor.pattern.size + 1) false cursor.position
    .ok ((), { cursor with position := stop })
  else .ok ((), cursor)

/-- Moves over a character and the blanks after it, and tells whether another one follows. -/
def advanceAndBlanks : Reader Bool := do
  if ← advance then
    advanceBlanks
    return !(← isAtEnd)
  return false

/-- The characters after the blanks and number signs at the front. Only the first number sign
counts. -/
def dropBlanks : Bool → List Char → Option (List Char)
  | _, [] => none
  | hasSign, character :: rest =>
      if Text.isBlank character then dropBlanks hasSign rest
      else if !hasSign && character = '#' then dropBlanks true rest
      else some (character :: rest)

/-- The character after the next one, over blanks where they do not count. -/
def peekOverBlanks? : Reader (Option Char) := fun cursor =>
  let rest := (cursor.pattern.toList.drop (cursor.position + 1))
  let shown := if cursor.skipsBlanks then (dropBlanks false rest).getD rest else rest
  .ok (shown.head?, cursor)

def setSkipsBlanks (skipsBlanks : Bool) : Reader Unit := fun cursor =>
  .ok ((), { cursor with skipsBlanks })

/-- Gives up. -/
def fail {α : Type} (kind : FaultKind) (start stop : Nat) (earlier : Option Span := none) :
    Reader α :=
  fun _ => .error { kind, span := ⟨start, stop⟩, earlier }

/-- Gives up at the place. -/
def failHere {α : Type} (kind : FaultKind) : Reader α := do
  let place ← position
  fail kind place place

/-- Gives up at the next character. -/
def failAtNext {α : Type} (kind : FaultKind) (earlier : Option Span := none) : Reader α := do
  let place ← position
  fail kind place (place + 1) earlier

end Reader

end FunctionAtlas.Regex
