import FunctionAtlas.Yaml.Tag

/-!
Contract: the tokens of a stream, one after another.

A token is given out only when no key can begin with it any more, because a colon further on would
put tokens before it.

Owns: which token follows, and the queue of tokens.
-/

namespace FunctionAtlas.Yaml

/-- Moves over blanks, comments and line breaks. Outside of brackets, a line may begin with a key.
Tabs are blanks only where no key may begin. -/
def skipToToken : Nat → Scan Unit
  | 0 => return ()
  | fuel + 1 => do
      let scanner ← get
      if scanner.mark.column = 0 && scanner.peek 0 = some (Char.ofNat 0xFEFF) then Scan.skip
      let allowsTabs := scanner.isInBrackets || !scanner.keysAllowed
      Scan.skipWhile fun character => character = ' ' || (allowsTabs && character = '\t')
      if (← Scan.peek 0) = some '#' then Scan.skipWhile fun character => !isLineBreak character
      if isBreakAt (← Scan.peek 0) then
        Scan.skipLine
        if !scanner.isInBrackets then Scan.allowKeys true
        skipToToken fuel

/-! ## Single tokens -/

def pushToken (token : Token) : Scan Unit := Scan.push token.kind token.start token.stop

/-- The end of the stream, on a line of its own. -/
def readStreamEnd : Scan Unit := do
  modify fun scanner =>
    if scanner.mark.column = 0 then scanner
    else { scanner with mark := { scanner.mark with line := scanner.mark.line + 1, column := 0 } }
  Scan.unindent (-1)
  Scan.dropKey
  Scan.allowKeys false
  Scan.pushSymbol .streamEnd 0

/-- Ends all blocks before a token that belongs to no document. -/
def leaveDocument : Scan Unit := do
  Scan.unindent (-1)
  Scan.dropKey
  Scan.allowKeys false

def readOpeningBracket (kind : TokenKind) : Scan Unit := do
  Scan.saveKey
  modify fun scanner => { scanner with keys := none :: scanner.keys }
  Scan.allowKeys true
  Scan.pushSymbol kind 1

def readClosingBracket (kind : TokenKind) : Scan Unit := do
  Scan.dropKey
  modify fun scanner =>
    if scanner.isInBrackets then { scanner with keys := scanner.keys.drop 1 } else scanner
  Scan.allowKeys false
  Scan.pushSymbol kind 1

def readFlowEntry : Scan Unit := do
  Scan.dropKey
  Scan.allowKeys true
  Scan.pushSymbol .flowEntry 1

/-- The dash of a sequence. -/
def readBlockEntry : Scan Unit := do
  let scanner ← get
  if !scanner.isInBrackets then
    if !scanner.keysAllowed then Scan.fail .entryNotAllowed none
    Scan.openBlock scanner.mark none .blockSequenceStart
  Scan.dropKey
  Scan.allowKeys true
  Scan.pushSymbol .blockEntry 1

/-- The question mark before a key. -/
def readKey : Scan Unit := do
  let scanner ← get
  if !scanner.isInBrackets then
    if !scanner.keysAllowed then Scan.fail .keyNotAllowed none
    Scan.openBlock scanner.mark none .blockMappingStart
  Scan.dropKey
  Scan.allowKeys (!scanner.isInBrackets)
  Scan.pushSymbol .key 1

/-- The colon before a value. If a key may have begun earlier in the line, it did. -/
def readValue : Scan Unit := do
  let scanner ← get
  match scanner.keys with
  | some key :: rest =>
      Scan.insert key.token .key key.mark
      Scan.openBlock key.mark (some key.token) .blockMappingStart
      modify fun scanner => { scanner with keys := none :: rest }
      Scan.allowKeys false
  | _ =>
      if !scanner.isInBrackets then
        if !scanner.keysAllowed then Scan.fail .valueNotAllowed none
        Scan.openBlock scanner.mark none .blockMappingStart
      Scan.allowKeys (!scanner.isInBrackets)
  Scan.pushSymbol .value 1

/-- A token that a key may begin with. -/
def readWithKey (read : Scan Token) : Scan Unit := do
  Scan.saveKey
  Scan.allowKeys false
  pushToken (← read)

def readBlockText (isLiteral : Bool) : Scan Unit := do
  Scan.dropKey
  Scan.allowKeys true
  pushToken (← readBlockScalar isLiteral)

/-- Characters that no plain scalar begins with. -/
def isIndicator (character : Char) : Bool :=
  "-?:,[]\x7b\x7d#&*!|>'\"%@\x60".toList.contains character

/-- Whether a plain scalar begins. -/
def beginsPlain (scanner : Scanner) (character : Char) : Bool :=
  let next := scanner.peek 1
  !(endsWord (some character) || isIndicator character) ||
    (character = '-' && !isBlankAt next) ||
    (!scanner.isInBrackets && (character = '?' || character = ':') && !endsWord next)

/-- Reads the token that begins at the place. -/
def readTokenHere : Scan Unit := do
  let scanner ← get
  let isInBrackets := scanner.isInBrackets
  match scanner.peek 0 with
  | none => readStreamEnd
  | some character =>
      let endsHere := endsWord (scanner.peek 1)
      if scanner.mark.column = 0 && character = '%' then
        leaveDocument
        pushToken (← readDirective)
      else if scanner.isAtDocumentMark '-' then
        leaveDocument
        Scan.pushSymbol .documentStart 3
      else if scanner.isAtDocumentMark '.' then
        leaveDocument
        Scan.pushSymbol .documentEnd 3
      else if character = '[' then readOpeningBracket .flowSequenceStart
      else if character = '\x7b' then readOpeningBracket .flowMappingStart
      else if character = ']' then readClosingBracket .flowSequenceEnd
      else if character = '\x7d' then readClosingBracket .flowMappingEnd
      else if character = ',' then readFlowEntry
      else if character = '-' && endsHere then readBlockEntry
      else if character = '?' && (isInBrackets || endsHere) then readKey
      else if character = ':' && (isInBrackets || endsHere) then readValue
      else if character = '*' then readWithKey (readAnchor true)
      else if character = '&' then readWithKey (readAnchor false)
      else if character = '!' then readWithKey readTag
      else if character = '|' && !isInBrackets then readBlockText true
      else if character = '>' && !isInBrackets then readBlockText false
      else if character = '\'' || character = '"' then readWithKey (readQuotedScalar character)
      else if beginsPlain scanner character then readWithKey readPlainScalar
      else Scan.fail .unexpectedCharacter (some (.nextToken, scanner.mark))

/-- Reads one more token, and the tokens that its place implies. -/
def readToken : Scan Unit := do
  let scanner ← get
  if !scanner.hasStarted then
    match firstForbidden? 0 scanner.text.toList with
    | some offset => throw (.controlCharacter offset)
    | none =>
        set { scanner with hasStarted := true, keysAllowed := true, keys := [none] }
        Scan.pushSymbol .streamStart 0
  else
    skipToToken scanner.fuel
    Scan.dropStaleKeys
    Scan.unindent ((← get).mark.column : Int)
    readTokenHere

/-! ## The queue -/

/-- Reads tokens until the first one in the queue is settled. -/
def settle : Nat → Scan Unit
  | 0 => return ()
  | fuel + 1 => do
      if !(← get).tokens.isEmpty then Scan.dropStaleKeys
      let scanner ← get
      let isOpen := scanner.keys.any fun key => key.any fun key => key.token = scanner.used
      if scanner.tokens.isEmpty || isOpen then
        readToken
        settle fuel

/-- The next token, without using it. -/
def nextToken : Scan Token := do
  settle ((← get).fuel + 2)
  let scanner ← get
  return scanner.tokens.headD ⟨.streamEnd, scanner.mark, scanner.mark⟩

/-- Uses the next token. -/
def useToken : Scan Unit :=
  modify fun scanner =>
    { scanner with tokens := scanner.tokens.drop 1, used := scanner.used + 1 }

end FunctionAtlas.Yaml
