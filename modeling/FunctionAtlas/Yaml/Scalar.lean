import FunctionAtlas.Yaml.Scanner

/-!
Contract: reading scalars.

A line break within a plain or quoted scalar becomes a space, and further ones stay. A block
scalar keeps its line breaks, or folds them the same way.

Owns: plain, quoted and block scalars.
-/

namespace FunctionAtlas.Yaml

/-! ## Blanks between words -/

/-- Blanks and line breaks that separate words. -/
structure Gap where
  /-- Blanks before the first line break. -/
  blanks : List Char := []
  hasBreak : Bool := false
  /-- The first line break. -/
  first : List Char := []
  /-- Further line breaks. -/
  rest : List Char := []

/-- What a gap becomes in the text. -/
def Gap.fold (gap : Gap) : List Char :=
  if !gap.hasBreak then gap.blanks
  else if gap.first.head? = some '\n' then if gap.rest.isEmpty then [' '] else gap.rest
  else gap.first ++ gap.rest

/-- Reads the blanks and line breaks at the place. In a plain scalar, a tab may not stand where
indentation is due. -/
def readGap (plain : Option (Nat × Mark)) : Nat → Gap → Scan Gap
  | 0, gap => return gap
  | fuel + 1, gap => do
      match ← Scan.peek 0 with
      | none => return gap
      | some character =>
          if isSpaceOrTab character then
            if let some (indent, start) := plain then
              if gap.hasBreak && (← get).mark.column < indent && character = '\t' then
                Scan.fail .tabViolatesIndentation (some (.plainScalar, start))
            Scan.skip
            readGap plain fuel
              (if gap.hasBreak then gap else { gap with blanks := gap.blanks ++ [character] })
          else if isLineBreak character then
            let lineBreak := (← get).lineBreak
            Scan.skipLine
            readGap plain fuel
              (if gap.hasBreak then { gap with rest := gap.rest ++ lineBreak }
               else { gap with blanks := [], hasBreak := true, first := lineBreak })
          else return gap

/-! ## Plain scalars -/

def isFlowIndicator (character : Char) : Bool :=
  character = ',' || character = '[' || character = ']' || character = '\x7b' ||
    character = '\x7d'

/-- The characters of a plain scalar up to a blank or its end. -/
def readPlainWord (start : Mark) : Nat → List Char → Scan (List Char)
  | 0, word => return word
  | fuel + 1, word => do
      let scanner ← get
      match scanner.peek 0 with
      | none => return word
      | some character =>
          let next := scanner.peek 1
          if endsWord (some character) then return word
          if scanner.isInBrackets && character = ':' &&
              (next.any fun character => isFlowIndicator character || character = '?') then
            Scan.fail .unexpectedColon (some (.plainScalar, start))
          if (character = ':' && endsWord next) ||
              (scanner.isInBrackets && isFlowIndicator character) then return word
          Scan.skip
          readPlainWord start fuel (word ++ [character])

/-- The words of a plain scalar and where the last one ends, with the gap before the next one. -/
def readPlainWords (start : Mark) (indent : Nat) :
    Nat → List Char → Mark → Gap → Scan (List Char × Mark × Gap)
  | 0, text, stop, gap => return (text, stop, gap)
  | fuel + 1, text, stop, gap => do
      let scanner ← get
      if scanner.isAtDocumentBoundary || scanner.peek 0 = some '#' then return (text, stop, gap)
      let word ← readPlainWord start scanner.fuel []
      let after ← get
      let isEmpty := word.isEmpty
      let text := if isEmpty then text else text ++ gap.fold ++ word
      let stop := if isEmpty then stop else after.mark
      let gap := if isEmpty then gap else {}
      if isBlankAt (after.peek 0) || isBreakAt (after.peek 0) then
        let gap ← readGap (some (indent, start)) scanner.fuel gap
        let here ← get
        if !here.isInBrackets && here.mark.column < indent then return (text, stop, gap)
        readPlainWords start indent fuel text stop gap
      else return (text, stop, gap)

/-- A plain scalar. A line break behind it lets a key begin. -/
def readPlainScalar : Scan Token := do
  let scanner ← get
  let start := scanner.mark
  let indent := (scanner.indent + 1).toNat
  let (text, stop, gap) ← readPlainWords start indent scanner.fuel [] start {}
  if gap.hasBreak then Scan.allowKeys true
  return { kind := .scalar (String.ofList text) .plain, start, stop }

/-! ## Quoted scalars -/

/-- The characters that a letter after a backslash stands for. -/
def escapeOf? : Char → Option Char
  | '0' => some (Char.ofNat 0)
  | 'a' => some '\x07'
  | 'b' => some '\x08'
  | 't' | '\t' => some '\t'
  | 'n' => some '\n'
  | 'v' => some '\x0b'
  | 'f' => some '\x0c'
  | 'r' => some '\r'
  | 'e' => some '\x1b'
  | ' ' => some ' '
  | '"' => some '"'
  | '/' => some '/'
  | '\\' => some '\\'
  | 'N' => some (Char.ofNat 0x85)
  | '_' => some (Char.ofNat 0xA0)
  | 'L' => some (Char.ofNat 0x2028)
  | 'P' => some (Char.ofNat 0x2029)
  | _ => none

/-- The number of digits after the letters that announce a code point. -/
def escapeDigits? : Char → Option Nat
  | 'x' => some 2
  | 'u' => some 4
  | 'U' => some 8
  | _ => none

/-- The value of a hexadecimal digit. -/
def hexValue? : Option Char → Option Nat
  | none => none
  | some digit =>
      if digit.isDigit then some (digit.toNat - '0'.toNat)
      else if 'a' ≤ digit && digit ≤ 'f' then some (digit.toNat - 'a'.toNat + 10)
      else if 'A' ≤ digit && digit ≤ 'F' then some (digit.toNat - 'A'.toNat + 10)
      else none

/-- The number that digits at a distance from the place write. -/
def hexNumber? (scanner : Scanner) (distance count : Nat) : Option Nat :=
  (List.range count).foldl
    (fun value index => do
      return (← value) * 16 + (← hexValue? (scanner.peek (distance + index))))
    (some 0)

/-- An escaped character in double quotes. -/
def readEscape (start : Mark) : Scan Char := do
  match ← Scan.peek 1 with
  | none => Scan.fail .unknownEscape (some (.quotedEscape, start))
  | some letter =>
      match escapeOf? letter, escapeDigits? letter with
      | some character, _ =>
          Scan.skip
          Scan.skip
          return character
      | none, some count =>
          Scan.skip
          Scan.skip
          match hexNumber? (← get) 0 count with
          | none => Scan.fail .expectedHexNumber (some (.quotedEscape, start))
          | some number =>
              if !number.isValidChar then
                Scan.fail .invalidCodePoint (some (.quotedEscape, start))
              modify fun scanner =>
                (List.range count).foldl (fun scanner _ => scanner.skip) scanner
              return Char.ofNat number
      | none, none => Scan.fail .unknownEscape (some (.quotedEscape, start))

/-- The characters of a quoted scalar up to a blank, the closing quote or an escaped line break;
the last is told. -/
def readQuotedWord (quote : Char) (start : Mark) : Nat → List Char → Scan (List Char × Bool)
  | 0, word => return (word, false)
  | fuel + 1, word => do
      let scanner ← get
      match scanner.peek 0 with
      | none => return (word, false)
      | some character =>
          if endsWord (some character) then return (word, false)
          if quote = '\'' && character = '\'' && scanner.peek 1 = some '\'' then
            Scan.skip
            Scan.skip
            readQuotedWord quote start fuel (word ++ ['\''])
          else if character = quote then return (word, false)
          else if quote = '"' && character = '\\' then
            if isBreakAt (scanner.peek 1) then
              Scan.skip
              Scan.skipLine
              return (word, true)
            let escaped ← readEscape start
            readQuotedWord quote start fuel (word ++ [escaped])
          else
            Scan.skip
            readQuotedWord quote start fuel (word ++ [character])

/-- The text of a quoted scalar up to the closing quote. -/
def readQuotedText (quote : Char) (start : Mark) : Nat → List Char → Scan (List Char)
  | 0, _ => Scan.fail .unexpectedEnd (some (.quotedScalar, start))
  | fuel + 1, text => do
      let scanner ← get
      if scanner.isAtDocumentBoundary then
        Scan.fail .documentInScalar (some (.quotedScalar, start))
      if scanner.peek 0 = none then Scan.fail .unexpectedEnd (some (.quotedScalar, start))
      let (word, hasEscapedBreak) ← readQuotedWord quote start scanner.fuel []
      let text := text ++ word
      if (← Scan.peek 0) = some quote then return text
      let gap ← readGap none scanner.fuel { hasBreak := hasEscapedBreak }
      readQuotedText quote start fuel (text ++ gap.fold)

/-- A quoted scalar. -/
def readQuotedScalar (quote : Char) : Scan Token := do
  let scanner ← get
  let start := scanner.mark
  Scan.skip
  let text ← readQuotedText quote start scanner.fuel []
  Scan.skip
  let style := if quote = '"' then ScalarStyle.doubleQuoted else .singleQuoted
  return { kind := .scalar (String.ofList text) style, start, stop := (← get).mark }

/-! ## Block scalars -/

/-- What becomes of the line breaks at the end of a block scalar. -/
inductive Chomping where
  | strip
  | clip
  | keep
deriving DecidableEq, Repr

/-- The sign that tells what becomes of the line breaks at the end. -/
def readChomping : Scan (Option Chomping) := do
  match ← Scan.peek 0 with
  | some '+' =>
      Scan.skip
      return some .keep
  | some '-' =>
      Scan.skip
      return some .strip
  | _ => return none

/-- The digit that tells how far a block scalar is indented. -/
def readIncrement (start : Mark) : Scan (Option Nat) := do
  match ← Scan.peek 0 with
  | some '0' => Scan.fail .zeroIndentation (some (.blockScalar, start))
  | some character =>
      if character.isDigit then
        Scan.skip
        return some (character.toNat - '0'.toNat)
      return none
  | none => return none

/-- The two signs after the indicator of a block scalar, in any order. -/
def readBlockSigns (start : Mark) : Scan (Chomping × Option Nat) := do
  match ← readChomping with
  | some chomping => return (chomping, ← readIncrement start)
  | none =>
      match ← readIncrement start with
      | none => return (.clip, none)
      | some increment => return ((← readChomping).getD .clip, some increment)

/-- Lines without text: their line breaks, where the last one ends, and the greatest column. An
indentation that is not yet known lets blanks go on. -/
def readEmptyLines (start : Mark) (indent : Option Nat) :
    Nat → List Char → Mark → Nat → Scan (List Char × Mark × Nat)
  | 0, breaks, stop, widest => return (breaks, stop, widest)
  | fuel + 1, breaks, stop, widest => do
      let scanner ← get
      let room := match indent with
        | none => scanner.fuel
        | some indent => indent - scanner.mark.column
      set (Scanner.skipWhile (· = ' ') room scanner)
      let here ← get
      let widest := max widest here.mark.column
      let isShort := match indent with
        | none => true
        | some indent => decide (here.mark.column < indent)
      if isShort && here.peek 0 = some '\t' then
        Scan.fail .tabInIndentation (some (.blockScalar, start))
      if isBreakAt (here.peek 0) then
        Scan.skipLine
        readEmptyLines start indent fuel (breaks ++ here.lineBreak) (← get).mark widest
      else return (breaks, stop, widest)

/-- The lines of a block scalar. The first line break is the one after the last line with text,
and further ones follow it. -/
def readBlockLines (start : Mark) (isLiteral : Bool) (indent : Nat) :
    Nat → List Char → List Char → List Char → Bool → Mark →
      Scan (List Char × List Char × List Char × Mark)
  | 0, text, first, further, _, stop => return (text, first, further, stop)
  | fuel + 1, text, first, further, wasBlank, stop => do
      let scanner ← get
      if scanner.mark.column ≠ indent || scanner.peek 0 = none then
        return (text, first, further, stop)
      let isBlank := isBlankAt (scanner.peek 0)
      let isFolded := !isLiteral && first.head? = some '\n' && !wasBlank && !isBlank
      let joined := if isFolded then if further.isEmpty then [' '] else [] else first
      let line ← Scan.takeWhile fun character => !isLineBreak character
      let lineBreak := (← get).lineBreak
      Scan.skipLine
      let (further', stop, _) ←
        readEmptyLines start (some indent) scanner.fuel [] (← get).mark 0
      readBlockLines start isLiteral indent fuel (text ++ joined ++ further ++ line) lineBreak
        further' isBlank stop

/-- A block scalar. -/
def readBlockScalar (isLiteral : Bool) : Scan Token := do
  let scanner ← get
  let start := scanner.mark
  Scan.skip
  let (chomping, increment) ← readBlockSigns start
  Scan.skipRestOfLine
  if !endsLine (← Scan.peek 0) then Scan.fail .expectedLineEnd (some (.blockScalar, start))
  Scan.skipLine
  let outer := scanner.indent
  let given := increment.map fun increment => outer.toNat + increment
  let (breaks, stop, widest) ← readEmptyLines start given scanner.fuel [] (← get).mark 0
  let indent := given.getD (max (max widest (outer + 1).toNat) 1)
  let (text, first, further, stop) ←
    readBlockLines start isLiteral indent scanner.fuel [] [] breaks false stop
  let text := if chomping = .strip then text else text ++ first
  let text := if chomping = .keep then text ++ further else text
  let style := if isLiteral then ScalarStyle.literal else .folded
  return { kind := .scalar (String.ofList text) style, start, stop }

end FunctionAtlas.Yaml
