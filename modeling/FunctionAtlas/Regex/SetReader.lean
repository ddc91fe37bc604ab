import FunctionAtlas.Regex.Escape

/-!
Contract: sets in brackets.

Owns: how bracketed sets are read: members, ranges, nested sets, named ASCII sets, and the
operations between parts, which associate to the left.
-/

namespace FunctionAtlas.Regex

/-! ## Named sets -/

/-- The ASCII sets that have names. -/
def asciiSets : List (String × List (Nat × Nat)) :=
  [ ("alnum", [(0x30, 0x39), (0x41, 0x5A), (0x61, 0x7A)]),
    ("alpha", [(0x41, 0x5A), (0x61, 0x7A)]),
    ("ascii", [(0x00, 0x7F)]),
    ("blank", [(0x09, 0x09), (0x20, 0x20)]),
    ("cntrl", [(0x00, 0x1F), (0x7F, 0x7F)]),
    ("digit", [(0x30, 0x39)]),
    ("graph", [(0x21, 0x7E)]),
    ("lower", [(0x61, 0x7A)]),
    ("print", [(0x20, 0x7E)]),
    ("punct", [(0x21, 0x2F), (0x3A, 0x40), (0x5B, 0x60), (0x7B, 0x7E)]),
    ("space", [(0x09, 0x0D), (0x20, 0x20)]),
    ("upper", [(0x41, 0x5A)]),
    ("word", [(0x30, 0x39), (0x41, 0x5A), (0x5F, 0x5F), (0x61, 0x7A)]),
    ("xdigit", [(0x30, 0x39), (0x41, 0x46), (0x61, 0x66)]) ]

/-- A named set such as `[:alpha:]`, if one stands at the place. -/
def readAsciiSet? : Reader (Option SetSyntax) := fun cursor =>
  let start := cursor.position
  let inner := (cursor.pattern.toList.drop (start + 1))
  match inner with
  | ':' :: rest =>
      let isNegated := rest.head? = some '^'
      let text := if isNegated then rest.drop 1 else rest
      let name := text.takeWhile (· ≠ ':')
      match (text.drop name.length).take 2, asciiSets.lookup (String.ofList name) with
      | [':', ']'], some ranges =>
          let stop := start + 2 + (if isNegated then 1 else 0) + name.length + 2
          .ok (some (.ascii ⟨start, stop⟩ ranges isNegated), { cursor with position := stop })
      | _, _ => .ok (none, cursor)
  | _ => .ok (none, cursor)

/-! ## Members -/

/-- A member of a set, or an end of a range. -/
def readMember : Reader Primitive := do
  let start ← Reader.position
  match ← Reader.peek? 0 with
  | some '\\' => readEscape
  | some character =>
      let _ ← Reader.advance
      return .literal { span := ⟨start, start + 1⟩, character, isByte := false }
  | none => Reader.failHere .classUnclosed

/-- A part as a member of a set. -/
def memberOf : Primitive → Reader SetSyntax
  | .literal literal => return .literal literal
  | .shorthand span kind isNegated => return .shorthand span kind isNegated
  | .property span query isNegated => return .property span query isNegated
  | primitive => Reader.fail .classEscapeInvalid primitive.span.start primitive.span.stop

/-- A part as an end of a range. -/
def boundOf : Primitive → Reader Literal
  | .literal literal => return literal
  | primitive => Reader.fail .classRangeNoLiteral primitive.span.start primitive.span.stop

/-- A member or a range, in a set whose opening is at a span. -/
def readMemberOrRange (opening : Span) : Reader SetSyntax := do
  let first ← readMember
  Reader.advanceBlanks
  if ← Reader.isAtEnd then Reader.fail .classUnclosed opening.start opening.stop
  let next ← Reader.peekOverBlanks?
  if (← Reader.peek? 0) ≠ some '-' || next = some ']' || next = some '-' then memberOf first
  else
    if !(← Reader.advanceAndBlanks) then Reader.fail .classUnclosed opening.start opening.stop
    let last ← readMember
    let span : Span := ⟨first.span.start, last.span.stop⟩
    let low ← boundOf first
    let high ← boundOf last
    if high.character < low.character then
      Reader.fail .classRangeInvalid span.start span.stop
    return .range span low high

/-! ## Sets -/

/-- The dashes at the beginning of a set, which stand for themselves. -/
def readDashes (opening : Nat) : Nat → List SetSyntax → Reader (List SetSyntax)
  | 0, items => return items
  | fuel + 1, items => do
      let place ← Reader.position
      if (← Reader.peek? 0) = some '-' then
        if !(← Reader.advanceAndBlanks) then Reader.fail .classUnclosed opening opening
        let dash := SetSyntax.literal ⟨⟨place, place + 1⟩, '-', false⟩
        readDashes opening fuel (items ++ [dash])
      else return items

/-- The beginning of a set: where it opens, whether it is negated, and the members that can only
stand at the beginning. -/
def readOpening : Reader (Span × Bool × List SetSyntax) := do
  let start ← Reader.position
  let unclosed : Reader Unit := do Reader.fail .classUnclosed start (← Reader.position)
  if !(← Reader.advanceAndBlanks) then unclosed
  let isNegated := (← Reader.peek? 0) = some '^'
  if isNegated then
    if !(← Reader.advanceAndBlanks) then unclosed
  let dashes ← readDashes start (← Reader.fuel) []
  let place ← Reader.position
  if dashes.isEmpty && (← Reader.peek? 0) = some ']' then
    if !(← Reader.advanceAndBlanks) then unclosed
    let bracket := SetSyntax.literal ⟨⟨place, place + 1⟩, ']', false⟩
    return (⟨start, ← Reader.position⟩, isNegated, [bracket])
  return (⟨start, ← Reader.position⟩, isNegated, dashes)

/-- The members of a set, or its only member. -/
def unionOf (span : Span) : List SetSyntax → SetSyntax
  | [item] => item
  | items => .union span items

/-- An operation whose right side is still to come. -/
structure PendingOperation where
  operation : SetOperation
  left : SetSyntax
  start : Nat

/-- Completes an operation with its right side. -/
def complete (pending : Option PendingOperation) (right : SetSyntax) (stop : Nat) : SetSyntax :=
  match pending with
  | none => right
  | some pending => .operation ⟨pending.start, stop⟩ pending.operation pending.left right

/-- The operation that stands at the place. -/
def operationAhead? : Reader (Option SetOperation) := do
  if ← Reader.follows "&&" then return some .intersection
  if ← Reader.follows "--" then return some .difference
  if ← Reader.follows "~~" then return some .symmetricDifference
  return none

/-- What stands in brackets up to the closing one: the members since the last operation so far
begin at `start`. -/
def readContent (opening : Span) :
    Nat → Nat → List SetSyntax → Option PendingOperation → Reader SetSyntax
  | 0, _, _, _ => Reader.fail .classUnclosed opening.start opening.stop
  | fuel + 1, start, items, pending => do
      Reader.advanceBlanks
      let place ← Reader.position
      match ← Reader.peek? 0 with
      | none => Reader.fail .classUnclosed opening.start opening.stop
      | some '[' =>
          match ← readAsciiSet? with
          | some named => readContent opening fuel start (items ++ [named]) pending
          | none =>
              let (inner, isNegated, first) ← readOpening
              let content ← readContent inner fuel inner.stop first none
              let span : Span := ⟨inner.start, ← Reader.position⟩
              readContent opening fuel start (items ++ [.bracketed span isNegated content]) pending
      | some ']' =>
          let _ ← Reader.advance
          return complete pending (unionOf ⟨start, place⟩ items) place
      | some _ =>
          match ← operationAhead? with
          | some operation =>
              Reader.moveTo (place + 2)
              let left := complete pending (unionOf ⟨start, place⟩ items) place
              readContent opening fuel (place + 2) [] (some ⟨operation, left, start⟩)
          | none =>
              let item ← readMemberOrRange opening
              readContent opening fuel start (items ++ [item]) pending

/-- A set in brackets. -/
def readSet : Reader Syntax := do
  let (opening, isNegated, first) ← readOpening
  let content ← readContent opening (← Reader.fuel) opening.stop first none
  return .bracketed ⟨opening.start, ← Reader.position⟩ isNegated content

end FunctionAtlas.Regex
