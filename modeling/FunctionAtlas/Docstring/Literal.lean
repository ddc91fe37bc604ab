/-!
Contract: the values of string literals.

A literal is a few letters, an opening quote, a body and a closing quote. Letters that make it a
format, bytes or template string give it no plain value; a raw one keeps its backslashes.

Owns: the split of a literal into its parts and the meaning of escapes.
-/

namespace FunctionAtlas.Docstring

/-- Why a literal has no value at all: its end, as many bytes from the last one as the opening
quote has, lies inside a character. -/
inductive LiteralFault where
  | endInsideCharacter
deriving DecidableEq, Repr

/-! ## Escapes -/

/-- Splits off at most `limit` characters that satisfy a condition. -/
def takeUpTo (accepts : Char → Bool) : Nat → List Char → List Char × List Char
  | 0, characters => ([], characters)
  | _ + 1, [] => ([], [])
  | limit + 1, character :: rest =>
      if accepts character then
        let (taken, remaining) := takeUpTo accepts limit rest
        (character :: taken, remaining)
      else ([], character :: rest)

theorem takeUpTo_length_le (accepts : Char → Bool) (limit : Nat) (characters : List Char) :
    (takeUpTo accepts limit characters).2.length ≤ characters.length := by
  induction limit generalizing characters with
  | zero => simp [takeUpTo]
  | succ limit inductionHypothesis =>
      cases characters with
      | nil => simp [takeUpTo]
      | cons character rest =>
          simp only [takeUpTo]
          split
          · exact Nat.le_trans (inductionHypothesis rest) (Nat.le_succ _)
          · exact Nat.le_refl _

def isOctalDigit (character : Char) : Bool := '0' ≤ character && character ≤ '7'

def isHexDigit (character : Char) : Bool :=
  character.isDigit || ('a' ≤ character && character ≤ 'f') ||
    ('A' ≤ character && character ≤ 'F')

/-- The value of a digit of base up to sixteen. -/
def digitValue (character : Char) : Nat :=
  if character.isDigit then character.toNat - '0'.toNat
  else if 'a' ≤ character && character ≤ 'f' then character.toNat - 'a'.toNat + 10
  else character.toNat - 'A'.toNat + 10

def digitsValue (base : Nat) (digits : List Char) : Nat :=
  digits.foldl (fun value digit => value * base + digitValue digit) 0

/-- The character with a code point, unless there is none. -/
def characterOf (code : Nat) : Option Char :=
  if code < 0xD800 || (0xDFFF < code && code < 0x110000) then some (Char.ofNat code) else none

/-- The number of hexadecimal digits after the letter of a numeric escape. -/
def hexWidth (letter : Char) : Option Nat :=
  match letter with
  | 'x' => some 2
  | 'u' => some 4
  | 'U' => some 8
  | _ => none

/-- What a numeric escape stands for. Too few digits, or a number without a character, leave the
escape as it is written. -/
def hexEscape (letter : Char) (width : Nat) (digits : List Char) : List Char :=
  let decoded := if digits.length = width then characterOf (digitsValue 16 digits) else none
  match decoded with
  | some character => [character]
  | none => '\\' :: letter :: digits

/-- The escapes with one letter. -/
def simpleEscape (letter : Char) : Option Char :=
  match letter with
  | '\\' => some '\\'
  | '\'' => some '\''
  | '"' => some '"'
  | 'n' => some '\n'
  | 'r' => some '\r'
  | 't' => some '\t'
  | 'a' => some '\x07'
  | 'b' => some '\x08'
  | 'f' => some '\x0c'
  | 'v' => some '\x0b'
  | _ => none

/-- Replaces the escapes of a body. An escaped line end stands for nothing, and unknown escapes
stay as they are. -/
def unescape : List Char → List Char
  | [] => []
  | '\\' :: '\n' :: rest => unescape rest
  | '\\' :: '\r' :: '\n' :: rest => unescape rest
  | '\\' :: '\r' :: rest => unescape rest
  | ['\\'] => ['\\']
  | '\\' :: letter :: rest =>
      match simpleEscape letter with
      | some character => character :: unescape rest
      | none =>
          if isOctalDigit letter then
            let taken := takeUpTo isOctalDigit 2 rest
            let digits := letter :: taken.1
            (match characterOf (digitsValue 8 digits) with
              | some character => [character]
              | none => '\\' :: digits) ++ unescape taken.2
          else
            match hexWidth letter with
            | some width =>
                let taken := takeUpTo isHexDigit width rest
                hexEscape letter width taken.1 ++ unescape taken.2
            | none => '\\' :: letter :: unescape rest
  | character :: rest => character :: unescape rest
termination_by characters => characters.length
decreasing_by
  all_goals simp only [List.length_cons]
  all_goals first
    | omega
    | exact Nat.lt_of_le_of_lt (takeUpTo_length_le _ _ _) (by omega)

/-! ## Literals -/

def isQuote (character : Char) : Bool := character = '"' || character = '\''

/-- The length of a text in bytes. -/
def byteLength (characters : List Char) : Nat :=
  (characters.map Char.utf8Size).foldr (· + ·) 0

/-- The characters that take up exactly the first `bytes` bytes, if a character ends there. -/
def takeBytes : Nat → List Char → Option (List Char)
  | 0, _ => some []
  | _ + 1, [] => none
  | bytes + 1, character :: rest =>
      if character.utf8Size ≤ bytes + 1 then
        (takeBytes (bytes + 1 - character.utf8Size) rest).map (character :: ·)
      else none
termination_by structural _ characters => characters

/-- The number of characters of the opening quote. -/
def quoteLength (quoted : List Char) : Nat :=
  match quoted with
  | '"' :: '"' :: '"' :: _ => 3
  | '\'' :: '\'' :: '\'' :: _ => 3
  | _ => 1

/-- What stands before the first quote of a literal. -/
def lettersOf (literal : List Char) : List Char :=
  literal.takeWhile fun character => !isQuote character

/-- A literal from its first quote on. -/
def quotedOf (literal : List Char) : List Char :=
  literal.dropWhile fun character => !isQuote character

/-- The letters of format, bytes and template strings. -/
def isSpecialLetter (character : Char) : Bool := ['f', 'b', 't'].contains character.toLower

/-- The letter of raw strings. -/
def isRawLetter (character : Char) : Bool := character.toLower = 'r'

/-- The value of a literal. A literal that is too short to be closed, and one that is not a plain
string, has none. -/
def decode (literal : String) : Except LiteralFault (Option String) :=
  let letters := lettersOf literal.toList
  let quoted := quotedOf literal.toList
  let width := quoteLength quoted
  let length := byteLength quoted
  if letters.any isSpecialLetter then .ok none
  else if length < width * 2 then .ok none
  else
    match takeBytes (length - width) quoted with
    | none => .error .endInsideCharacter
    | some opened =>
        let body := opened.drop width
        .ok (some (String.ofList (if letters.any isRawLetter then body else unescape body)))

end FunctionAtlas.Docstring
