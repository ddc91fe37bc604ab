import FunctionAtlas.Yaml.Token

/-!
Contract: the state of reading tokens, and moving through a stream.

A line ends with a line feed, a carriage return, both, or one of the line separators of Unicode.

Owns: the scanner, its place in the stream, its indentation levels, and the keys that a colon
further on would complete.

Does not own: what the characters mean.
-/

namespace FunctionAtlas.Yaml

/-! ## Characters -/

/-- Whether a character may stand in a stream. -/
def isAllowed (character : Char) : Bool :=
  let code := character.toNat
  code = 0x09 || code = 0x0A || code = 0x0D || (0x20 ≤ code && code ≤ 0x7E) || code = 0x85 ||
    (0xA0 ≤ code && code ≤ 0xD7FF) || (0xE000 ≤ code && code ≤ 0xFFFD) || 0x10000 ≤ code

/-- The byte offset of the first character that may not stand in a stream. -/
def firstForbidden? (offset : Nat) : List Char → Option Nat
  | [] => none
  | character :: rest =>
      if isAllowed character then firstForbidden? (offset + character.utf8Size) rest
      else some offset

def isLineBreak (character : Char) : Bool :=
  character = '\r' || character = '\n' || character.toNat = 0x85 ||
    character.toNat = 0x2028 || character.toNat = 0x2029

def isSpaceOrTab (character : Char) : Bool := character = ' ' || character = '\t'

/-- Characters of names: letters, digits, dashes and underscores. -/
def isNameCharacter (character : Char) : Bool :=
  character.isAlphanum || character = '-' || character = '_'

/-- Whether the stream ends, or a line. -/
def endsLine : Option Char → Bool
  | none => true
  | some character => isLineBreak character

/-- Whether the stream ends, or a word. -/
def endsWord : Option Char → Bool
  | none => true
  | some character => isSpaceOrTab character || isLineBreak character

def isBlankAt : Option Char → Bool
  | none => false
  | some character => isSpaceOrTab character

def isBreakAt : Option Char → Bool
  | none => false
  | some character => isLineBreak character

/-! ## State -/

/-- A place where a key may begin that only a colon further on tells from a value. -/
structure PossibleKey where
  /-- Whether the colon has to come. -/
  isRequired : Bool
  /-- The number of the token that begins there. -/
  token : Nat
  mark : Mark
deriving DecidableEq, Repr

/-- The state of reading tokens. -/
structure Scanner where
  text : Array Char
  mark : Mark := {}
  /-- Tokens that are read and not yet used. -/
  tokens : List Token := []
  /-- The number of tokens that are used. -/
  used : Nat := 0
  hasStarted : Bool := false
  /-- The column of the current block, or minus one outside of blocks. -/
  indent : Int := -1
  indents : List Int := []
  /-- Whether a key may begin at the place. -/
  keysAllowed : Bool := false
  /-- The possible keys, one for each level of brackets, the innermost first. -/
  keys : List (Option PossibleKey) := []

/-- Reading tokens, or finding a fault. -/
abbrev Scan := StateT Scanner (Except Fault)

namespace Scanner

def isInBrackets (scanner : Scanner) : Bool := 1 < scanner.keys.length

/-- The character at a distance from the place. -/
def peek (scanner : Scanner) (distance : Nat) : Option Char :=
  scanner.text[scanner.mark.index + distance]?

/-- Moves over a character within a line. -/
def skip (scanner : Scanner) : Scanner :=
  { scanner with mark :=
      { scanner.mark with index := scanner.mark.index + 1, column := scanner.mark.column + 1 } }

/-- Moves over a line break, if there is one. -/
def skipLine (scanner : Scanner) : Scanner :=
  let next := fun (count : Nat) =>
    { scanner with mark := ⟨scanner.mark.index + count, scanner.mark.line + 1, 0⟩ }
  match scanner.peek 0, scanner.peek 1 with
  | some '\r', some '\n' => next 2
  | some character, _ => if isLineBreak character then next 1 else scanner
  | none, _ => scanner

/-- A line break as it is kept in a text: all but the separators of Unicode become line feeds. -/
def lineBreak (scanner : Scanner) : List Char :=
  match scanner.peek 0 with
  | none => []
  | some character =>
      if character.toNat = 0x2028 || character.toNat = 0x2029 then [character]
      else if isLineBreak character then ['\n']
      else []

/-- Moves over characters within a line as long as they are of a kind. -/
def skipWhile (accepts : Char → Bool) : Nat → Scanner → Scanner
  | 0, scanner => scanner
  | fuel + 1, scanner =>
      match scanner.peek 0 with
      | some character => if accepts character then skipWhile accepts fuel scanner.skip else scanner
      | none => scanner

/-- The number of steps in which any part of a stream can be read. -/
def fuel (scanner : Scanner) : Nat := scanner.text.size + 1

/-- The characters that follow as long as they are of a kind. -/
def takeWhile (accepts : Char → Bool) (scanner : Scanner) : List Char × Scanner :=
  let after := skipWhile accepts scanner.fuel scanner
  ((scanner.text.extract scanner.mark.index after.mark.index).toList, after)

/-- Whether dashes or dots at the beginning of a line separate documents. -/
def isAtDocumentMark (scanner : Scanner) (mark : Char) : Bool :=
  scanner.mark.column = 0 && scanner.peek 0 = some mark && scanner.peek 1 = some mark &&
    scanner.peek 2 = some mark && endsWord (scanner.peek 3)

def isAtDocumentBoundary (scanner : Scanner) : Bool :=
  scanner.isAtDocumentMark '-' || scanner.isAtDocumentMark '.'

end Scanner

namespace Scan

def fail {α : Type} (problem : Problem) (context : Option (Context × Mark)) : Scan α := do
  throw (.syntaxError problem (← get).mark context)

def peek (distance : Nat) : Scan (Option Char) := do return (← get).peek distance

def skip : Scan Unit := modify Scanner.skip

def skipLine : Scan Unit := modify Scanner.skipLine

def skipWhile (accepts : Char → Bool) : Scan Unit :=
  modify fun scanner => Scanner.skipWhile accepts scanner.fuel scanner

def takeWhile (accepts : Char → Bool) : Scan (List Char) := do
  let (taken, after) := (← get).takeWhile accepts
  set after
  return taken

/-- Moves over blanks and a comment, up to the end of the line. -/
def skipRestOfLine : Scan Unit := do
  skipWhile isSpaceOrTab
  if (← peek 0) = some '#' then skipWhile fun character => !isLineBreak character

/-! ## Keys -/

/-- Gives up the possible key of the innermost level. -/
def dropKey : Scan Unit := do
  match (← get).keys with
  | some key :: rest =>
      if key.isRequired then fail .keyWithoutColon (some (.simpleKey, key.mark))
      modify fun scanner => { scanner with keys := none :: rest }
  | _ => return ()

/-- Notes that a key may begin at the place. -/
def saveKey : Scan Unit := do
  let scanner ← get
  if scanner.keysAllowed then
    let isRequired := !scanner.isInBrackets && scanner.indent = (scanner.mark.column : Int)
    let key : PossibleKey :=
      { isRequired, token := scanner.used + scanner.tokens.length, mark := scanner.mark }
    dropKey
    modify fun scanner => { scanner with keys := some key :: scanner.keys.drop 1 }

/-- A key stands in one line and has at most 1024 characters. -/
def isStale (mark : Mark) (key : PossibleKey) : Bool :=
  key.mark.line < mark.line || key.mark.index + 1024 < mark.index

/-- The keys that are still possible at a place, from the outermost level on. -/
def freshKeys (mark : Mark) : List (Option PossibleKey) → Except Mark (List (Option PossibleKey))
  | [] => .ok []
  | none :: rest => (freshKeys mark rest).map fun keys => none :: keys
  | some key :: rest =>
      if isStale mark key then
        if key.isRequired then .error key.mark
        else (freshKeys mark rest).map fun keys => none :: keys
      else (freshKeys mark rest).map fun keys => some key :: keys

/-- Gives up the keys that are no longer possible. -/
def dropStaleKeys : Scan Unit := do
  let scanner ← get
  match freshKeys scanner.mark scanner.keys.reverse with
  | .error mark => fail .keyWithoutColon (some (.simpleKey, mark))
  | .ok keys => set { scanner with keys := keys.reverse }

def allowKeys (isAllowed : Bool) : Scan Unit :=
  modify fun scanner => { scanner with keysAllowed := isAllowed }

/-! ## Tokens and indentation -/

def push (kind : TokenKind) (start stop : Mark) : Scan Unit :=
  modify fun scanner => { scanner with tokens := scanner.tokens ++ [{ kind, start, stop }] }

/-- Adds a token before the one with a number. -/
def insert (number : Nat) (kind : TokenKind) (mark : Mark) : Scan Unit :=
  modify fun scanner =>
    let place := number - scanner.used
    { scanner with tokens :=
        scanner.tokens.take place ++ [⟨kind, mark, mark⟩] ++ scanner.tokens.drop place }

/-- Begins a block at a column that lies deeper, with a token at its end or before another one. -/
def openBlock (mark : Mark) (number : Option Nat) (kind : TokenKind) : Scan Unit := do
  let scanner ← get
  if !scanner.isInBrackets && scanner.indent < (mark.column : Int) then
    set { scanner with
      indents := scanner.indent :: scanner.indents, indent := (mark.column : Int) }
    match number with
    | none => push kind mark mark
    | some number => insert number kind mark

/-- Ends the blocks that lie deeper than a column. -/
def closeBlocks (column : Int) : Nat → Scan Unit
  | 0 => return ()
  | fuel + 1 => do
      let scanner ← get
      if !scanner.isInBrackets && column < scanner.indent then
        set { scanner with
          indent := scanner.indents.headD (-1), indents := scanner.indents.drop 1 }
        push .blockEnd scanner.mark scanner.mark
        closeBlocks column fuel

/-- Ends all the blocks that lie deeper than a column. -/
def unindent (column : Int) : Scan Unit := do closeBlocks column ((← get).indents.length + 1)

/-- A token of a number of characters. -/
def pushSymbol (kind : TokenKind) (length : Nat) : Scan Unit := do
  let start := (← get).mark
  modify fun scanner => (List.range length).foldl (fun scanner _ => scanner.skip) scanner
  push kind start (← get).mark

end Scan

end FunctionAtlas.Yaml
