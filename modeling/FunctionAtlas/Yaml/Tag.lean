import FunctionAtlas.Yaml.Scalar

/-!
Contract: reading directives, anchors, references and tags.

Owns: the tokens that describe a stream or a node.
-/

namespace FunctionAtlas.Yaml

/-! ## Anchors -/

/-- Characters that may follow a name directly. -/
def endsAnchor : Option Char → Bool
  | none => true
  | some character =>
      endsWord (some character) || "?:,]\x7d%@\x60".toList.contains character

/-- An anchor or a reference to one. -/
def readAnchor (isReference : Bool) : Scan Token := do
  let start := (← get).mark
  Scan.skip
  let name ← Scan.takeWhile isNameCharacter
  let scanner ← get
  if name.isEmpty || !endsAnchor (scanner.peek 0) then
    Scan.fail .expectedAnchorName (some (if isReference then .reference else .anchor, start))
  let text := String.ofList name
  return { kind := if isReference then .reference text else .anchor text, start,
           stop := scanner.mark }

/-! ## Tags -/

/-- Characters of tags; some only between angle brackets or in directives. -/
def isTagCharacter (isVerbatim : Bool) (character : Char) : Bool :=
  isNameCharacter character || ";/?:@&=+$.%!~*'()".toList.contains character ||
    (isVerbatim && (character = ',' || character = '[' || character = ']'))

/-- The number of bytes in the encoding of a character that begins with a byte. -/
def encodedLength? (byte : Nat) : Option Nat :=
  if byte < 0x80 then some 1
  else if 0xC0 ≤ byte && byte < 0xE0 then some 2
  else if 0xE0 ≤ byte && byte < 0xF0 then some 3
  else if 0xF0 ≤ byte && byte < 0xF8 then some 4
  else none

/-- Further bytes of a character, as escaped bytes. -/
def readTrailingBytes (context : Context × Mark) : Nat → List UInt8 → Scan (List UInt8)
  | 0, bytes => return bytes
  | count + 1, bytes => do
      let byte ← readByte
      if byte < 0x80 || 0xC0 ≤ byte then Scan.fail .wrongTrailingByte (some context)
      modify fun scanner => scanner.skip.skip.skip
      readTrailingBytes context count (bytes ++ [byte.toUInt8])
where
  readByte : Scan Nat := do
    let scanner ← get
    match scanner.peek 0, hexNumber? scanner 1 2 with
    | some '%', some byte => return byte
    | _, _ => Scan.fail .expectedEscapedByte (some context)

/-- A character that is written as escaped bytes. -/
def readEscapedCharacter (context : Context × Mark) : Scan (List Char) := do
  let scanner ← get
  match scanner.peek 0, hexNumber? scanner 1 2 with
  | some '%', some byte =>
      match encodedLength? byte with
      | none => Scan.fail .wrongLeadingByte (some context)
      | some length =>
          modify fun scanner => scanner.skip.skip.skip
          let bytes ← readTrailingBytes context (length - 1) [byte.toUInt8]
          return match String.fromUTF8? ⟨bytes.toArray⟩ with
            | some text => text.toList
            | none => [Char.ofNat 0xFFFD]
  | _, _ => Scan.fail .expectedEscapedByte (some context)

/-- The characters of a tag. -/
def readTagCharacters (isVerbatim : Bool) (context : Context × Mark) :
    Nat → List Char → Scan (List Char)
  | 0, text => return text
  | fuel + 1, text => do
      match ← Scan.peek 0 with
      | none => return text
      | some character =>
          if !isTagCharacter isVerbatim character then return text
          if character = '%' then
            let escaped ← readEscapedCharacter context
            readTagCharacters isVerbatim context fuel (text ++ escaped)
          else
            Scan.skip
            readTagCharacters isVerbatim context fuel (text ++ [character])

/-- The text of a tag, of which a part may be read already with its exclamation mark. -/
def readTagText (isVerbatim isDirective : Bool) (head : List Char) (start : Mark) :
    Scan String := do
  let context := (if isDirective then Context.tagDirectivePrefix else .tagText, start)
  let text ← readTagCharacters isVerbatim context (← get).fuel (head.drop 1)
  if head.isEmpty && text.isEmpty then Scan.fail .expectedTagText (some context)
  return String.ofList text

/-- A handle: an exclamation mark, or a name between two of them. Outside of directives, a name
after one of them is a part of the tag. -/
def readTagHandle (isDirective : Bool) (start : Mark) : Scan (List Char) := do
  if (← Scan.peek 0) ≠ some '!' then
    Scan.fail .expectedExclamation
      (some (if isDirective then .tagDirective else .tag, start))
  Scan.skip
  let name ← Scan.takeWhile isNameCharacter
  if (← Scan.peek 0) = some '!' then
    Scan.skip
    return '!' :: name ++ ['!']
  if isDirective && !name.isEmpty then
    Scan.fail .expectedExclamation (some (.tagDirectiveHandle, start))
  return '!' :: name

/-- The handle and the rest of a tag. -/
def readTagParts (start : Mark) : Scan (String × String) := do
  if (← Scan.peek 1) = some '<' then
    Scan.skip
    Scan.skip
    let text ← readTagText true false [] start
    if (← Scan.peek 0) ≠ some '>' then Scan.fail .expectedTagEnd (some (.tag, start))
    Scan.skip
    return ("", text)
  let handle ← readTagHandle false start
  if 1 < handle.length && handle.getLast? = some '!' then
    return (String.ofList handle, ← readTagText false false [] start)
  let text ← readTagText false false handle start
  return if text = "" then ("", "!") else ("!", text)

/-- A tag. -/
def readTag : Scan Token := do
  let start := (← get).mark
  let (handle, suffix) ← readTagParts start
  let scanner ← get
  let isSeparated := scanner.isInBrackets && scanner.peek 0 = some ','
  if !isSeparated && !endsWord (scanner.peek 0) then
    Scan.fail .expectedBlankOrLineEnd (some (.tag, start))
  return { kind := .tag handle suffix, start, stop := scanner.mark }

/-! ## Directives -/

/-- A number of at most nine digits in the version of a stream. -/
def readVersionNumber (start : Mark) : Scan Nat := do
  let before ← get
  let digits ← Scan.takeWhile Char.isDigit
  if 9 < digits.length then
    set ((List.range 9).foldl (fun scanner _ => scanner.skip) before)
    Scan.fail .versionTooLong (some (.versionDirective, start))
  if digits.isEmpty then Scan.fail .expectedVersion (some (.versionDirective, start))
  return digits.foldl (fun value digit => value * 10 + (digit.toNat - '0'.toNat)) 0

/-- The version of a stream. -/
def readVersion (start : Mark) : Scan TokenKind := do
  Scan.skipWhile isSpaceOrTab
  let major ← readVersionNumber start
  if (← Scan.peek 0) ≠ some '.' then
    Scan.fail .expectedDigitOrDot (some (.versionDirective, start))
  Scan.skip
  return .versionDirective major (← readVersionNumber start)

/-- An abbreviation for tags. -/
def readTagDirective (start : Mark) : Scan TokenKind := do
  Scan.skipWhile isSpaceOrTab
  let handle ← readTagHandle true start
  if !isBlankAt (← Scan.peek 0) then Scan.fail .expectedBlank (some (.tagDirective, start))
  Scan.skipWhile isSpaceOrTab
  let text ← readTagText true true [] start
  if !endsWord (← Scan.peek 0) then
    Scan.fail .expectedBlankOrLineEnd (some (.tagDirective, start))
  return .tagDirective (String.ofList handle) text

/-- A directive, with its line. -/
def readDirective : Scan Token := do
  let start := (← get).mark
  let context := some (Context.directive, start)
  Scan.skip
  let name ← Scan.takeWhile isNameCharacter
  if name.isEmpty then Scan.fail .expectedDirectiveName context
  if !endsWord (← Scan.peek 0) then Scan.fail .nonAlphabeticName context
  let kind ← match String.ofList name with
    | "YAML" => readVersion start
    | "TAG" => readTagDirective start
    | _ => Scan.fail .unknownDirective context
  let stop := (← get).mark
  Scan.skipRestOfLine
  if !endsLine (← Scan.peek 0) then Scan.fail .expectedLineEnd context
  Scan.skipLine
  return { kind, start, stop }

end FunctionAtlas.Yaml
