import FunctionAtlas.Regex.Cursor

/-!
Contract: the parts of a pattern that a backslash begins.

Owns: escaped characters and texts, characters by number, shorthands, properties and positions.
-/

namespace FunctionAtlas.Regex

/-- A part that is no group, set or repetition. -/
inductive Primitive where
  | literal (literal : Literal)
  | assertion (span : Span) (assertion : Assertion)
  | dot (span : Span)
  | shorthand (span : Span) (kind : Shorthand) (isNegated : Bool)
  | property (span : Span) (query : PropertyQuery) (isNegated : Bool)

namespace Primitive

def span : Primitive → Span
  | .literal character => character.span
  | .assertion span _ => span
  | .dot span => span
  | .shorthand span _ _ => span
  | .property span _ _ => span

def toSyntax : Primitive → Syntax
  | .literal character => .literal character
  | .assertion _ condition => .assertion condition
  | .dot span => .dot span
  | .shorthand span kind isNegated => .shorthand span kind isNegated
  | .property span query isNegated => .property span query isNegated

end Primitive

/-- Characters with a meaning of their own. -/
def isMeta (character : Char) : Bool := "\\.+*?()|[]\x7b\x7d^$#&-~".toList.contains character

/-- Characters that mean themselves after a backslash: all of ASCII but letters, digits and the
angle brackets. -/
def isEscapable (character : Char) : Bool :=
  isMeta character ||
    (character.toNat < 0x80 && !character.isAlphanum && character ≠ '<' && character ≠ '>')

/-- A character as a pattern for itself: one with a meaning of its own follows a backslash. -/
def escapedCharacter (character : Char) : List Char :=
  if isMeta character then ['\\', character] else [character]

/-- A text as a pattern for itself. -/
def escapedText (text : String) : String :=
  String.ofList (text.toList.flatMap escapedCharacter)

/-! ## Characters by number -/

/-- The value of a hexadecimal digit. -/
def hexDigit? (character : Char) : Option Nat :=
  if character.isDigit then some (character.toNat - '0'.toNat)
  else if 'a' ≤ character && character ≤ 'f' then some (character.toNat - 'a'.toNat + 10)
  else if 'A' ≤ character && character ≤ 'F' then some (character.toNat - 'A'.toNat + 10)
  else none

/-- The character with a number. -/
def charOf? (number : Nat) : Option Char :=
  if number.isValidChar then some (Char.ofNat number) else none

/-- The digits of a number with a fixed count of digits. -/
def readFixedDigits : Nat → Bool → Nat → Reader Nat
  | 0, _, value => do
      let _ ← Reader.advanceAndBlanks
      return value
  | count + 1, isFirst, value => do
      if !isFirst then
        if !(← Reader.advanceAndBlanks) then Reader.failHere .escapeUnfinished
      match ← Reader.peek? 0 with
      | none => Reader.failHere .escapeUnfinished
      | some character =>
          match hexDigit? character with
          | none => Reader.failAtNext .hexDigitInvalid
          | some digit => readFixedDigits count false (value * 16 + digit)

/-- The digits of a number up to a closing brace. -/
def readBracedDigits : Nat → List Nat → Reader (List Nat)
  | 0, digits => return digits
  | fuel + 1, digits => do
      if ← Reader.advanceAndBlanks then
        match ← Reader.peek? 0 with
        | none | some '\x7d' => return digits
        | some character =>
            match hexDigit? character with
            | none => Reader.failAtNext .hexDigitInvalid
            | some digit => readBracedDigits fuel (digits ++ [digit])
      else return digits

/-- A character by its number, after the backslash. The letter tells how many digits follow, if
they are not in braces. -/
def readNumbered (start : Nat) (letter : Char) : Reader Literal := do
  if !(← Reader.advanceAndBlanks) then Reader.failHere .escapeUnfinished
  let brace ← Reader.position
  if (← Reader.peek? 0) = some '\x7b' then
    let digits ← readBracedDigits (← Reader.fuel) []
    if ← Reader.isAtEnd then Reader.fail .escapeUnfinished brace (← Reader.position)
    let stop ← Reader.position
    let _ ← Reader.advanceAndBlanks
    if digits.isEmpty then Reader.fail .hexEmpty brace (← Reader.position)
    match charOf? (digits.foldl (fun value digit => value * 16 + digit) 0) with
    | none => Reader.fail .hexInvalid (brace + 1) stop
    | some character =>
        return { span := ⟨start, ← Reader.position⟩, character, isByte := false }
  else
    let count := match letter with
      | 'x' => 2
      | 'u' => 4
      | _ => 8
    let value ← readFixedDigits count true 0
    let stop ← Reader.position
    match charOf? value with
    | none => Reader.fail .hexInvalid brace stop
    | some character =>
        return { span := ⟨start, stop⟩, character, isByte := letter = 'x' }

/-! ## Properties -/

/-- The text up to a closing brace. -/
def readBracedName : Nat → List Char → Reader String
  | 0, name => return String.ofList name
  | fuel + 1, name => do
      if ← Reader.advanceAndBlanks then
        match ← Reader.peek? 0 with
        | none | some '\x7d' => return String.ofList name
        | some character => readBracedName fuel (name ++ [character])
      else return String.ofList name

/-- The texts before and after the first place of a mark. -/
def splitAtMark (mark : List Char) : List Char → Option (String × String)
  | [] => none
  | character :: rest =>
      if mark.isPrefixOf (character :: rest) then
        some ("", String.ofList ((character :: rest).drop mark.length))
      else
        (splitAtMark mark rest).map fun (before, after) =>
          (String.singleton character ++ before, after)

/-- The question that a text in braces asks. -/
def queryOf (text : String) : PropertyQuery :=
  match splitAtMark ['!', '='] text.toList with
  | some (name, value) => .valued true name value
  | none =>
      match splitAtMark [':'] text.toList with
      | some (name, value) => .valued false name value
      | none =>
          match splitAtMark ['='] text.toList with
          | some (name, value) => .valued false name value
          | none => .named text

/-- A property, after the backslash. -/
def readProperty (start : Nat) (isNegated : Bool) : Reader Primitive := do
  if !(← Reader.advanceAndBlanks) then Reader.failHere .escapeUnfinished
  match ← Reader.peek? 0 with
  | none => Reader.failHere .escapeUnfinished
  | some '\x7b' =>
      let text ← readBracedName (← Reader.fuel) []
      if ← Reader.isAtEnd then Reader.failHere .escapeUnfinished
      let _ ← Reader.advance
      return .property ⟨start, ← Reader.position⟩ (queryOf text) isNegated
  | some '\\' => Reader.failAtNext .propertyInvalid
  | some letter =>
      let _ ← Reader.advanceAndBlanks
      return .property ⟨start, ← Reader.position⟩ (.named (String.singleton letter)) isNegated

/-! ## Positions -/

def isBoundaryLetter (character : Char) : Bool := character.isAlpha || character = '-'

/-- The letters of the kind of a word boundary. -/
def readBoundaryLetters : Nat → List Char → Reader String
  | 0, letters => return String.ofList letters
  | fuel + 1, letters => do
      match ← Reader.peek? 0 with
      | none => return String.ofList letters
      | some character =>
          if isBoundaryLetter character then
            let _ ← Reader.advanceAndBlanks
            readBoundaryLetters fuel (letters ++ [character])
          else return String.ofList letters

/-- The kind of a word boundary in braces. There is none if the braces can only hold a count. -/
def readBoundaryKind? (start : Nat) : Reader (Option Assertion) := do
  let brace ← Reader.position
  if !(← Reader.advanceAndBlanks) then
    Reader.fail .wordBoundaryUnfinished start (← Reader.position)
  let content ← Reader.position
  let isLetter := match ← Reader.peek? 0 with
    | none => false
    | some character => isBoundaryLetter character
  if !isLetter then
    Reader.moveTo brace
    return none
  let name ← readBoundaryLetters (← Reader.fuel) []
  if (← Reader.peek? 0) ≠ some '\x7d' then
    Reader.fail .wordBoundaryUnclosed brace (← Reader.position)
  let stop ← Reader.position
  let _ ← Reader.advance
  match name with
  | "start" => return some .wordStart
  | "end" => return some .wordEnd
  | "start-half" => return some .wordStartHalf
  | "end-half" => return some .wordEndHalf
  | _ => Reader.fail .wordBoundaryUnrecognized content stop

/-! ## Escapes -/

/-- The control characters that have a letter. -/
def controlOf? : Char → Option Char
  | 'a' => some '\x07'
  | 'f' => some '\x0c'
  | 't' => some '\t'
  | 'n' => some '\n'
  | 'r' => some '\r'
  | 'v' => some '\x0b'
  | _ => none

/-- A part that ends with its letter. -/
def readLetterEscape (start : Nat) (letter : Char) : Reader Primitive := do
  let _ ← Reader.advance
  let span : Span := ⟨start, ← Reader.position⟩
  if isEscapable letter then
    return .literal { span, character := letter, isByte := false }
  match controlOf? letter with
  | some character => return .literal { span, character, isByte := false }
  | none =>
      match letter with
      | 'A' => return .assertion span .textStart
      | 'z' => return .assertion span .textEnd
      | 'B' => return .assertion span .notWordBoundary
      | '<' => return .assertion span .wordStart
      | '>' => return .assertion span .wordEnd
      | 'b' =>
          if (← Reader.peek? 0) = some '\x7b' then
            match ← readBoundaryKind? start with
            | some kind => return .assertion ⟨start, ← Reader.position⟩ kind
            | none => return .assertion span .wordBoundary
          else return .assertion span .wordBoundary
      | _ => Reader.fail .escapeUnrecognized start span.stop

/-- A part that a backslash begins. -/
def readEscape : Reader Primitive := do
  let start ← Reader.position
  let hasMore ← Reader.advance
  match hasMore, ← Reader.peek? 0 with
  | false, _ | _, none => Reader.fail .escapeUnfinished start (← Reader.position)
  | true, some letter =>
      let shorthand := fun (kind : Shorthand) (isNegated : Bool) => do
        let _ ← Reader.advance
        return Primitive.shorthand ⟨start, ← Reader.position⟩ kind isNegated
      if letter.isDigit then Reader.fail .backreference start ((← Reader.position) + 1)
      else match letter with
        | 'x' | 'u' | 'U' => return .literal (← readNumbered start letter)
        | 'p' => readProperty start false
        | 'P' => readProperty start true
        | 'd' => shorthand .digit false
        | 'D' => shorthand .digit true
        | 's' => shorthand .space false
        | 'S' => shorthand .space true
        | 'w' => shorthand .word false
        | 'W' => shorthand .word true
        | _ => readLetterEscape start letter

/-- A part that is no group, set or repetition. -/
def readPrimitive : Reader Primitive := do
  let start ← Reader.position
  match ← Reader.peek? 0 with
  | some '\\' => readEscape
  | some character =>
      let _ ← Reader.advance
      let span : Span := ⟨start, start + 1⟩
      match character with
      | '.' => return .dot span
      | '^' => return .assertion span .lineStart
      | '$' => return .assertion span .lineEnd
      | _ => return .literal { span, character, isByte := false }
  | none => Reader.failHere .escapeUnfinished

end FunctionAtlas.Regex
