import FunctionAtlas.Parse.Subtree

/-!
Contract: the next token at a place of the text, for a parser in a given state.

The layout scanner is asked first, then the automaton of the state's lexer mode. If neither
finds a token, both are asked again with all tokens admitted; characters that begin no token at
all are gathered into an error token.

Owns: running lexical automata, telling keywords from words, and the treatment of unknown
characters.
-/

namespace FunctionAtlas.Parse

open FunctionAtlas.Text
open FunctionAtlas.Grammar
open FunctionAtlas.Automaton (Table Recognized Action)

/-! ## Table look-up -/

/-- The actions of a state for a token. Wrong text has none. -/
def actionsFor (table : Table) (state symbol : Nat) : Array Action :=
  if symbol = Table.errorSymbol then #[]
  else
    match table.states[state]? with
    | some found => found.actions.getD symbol #[]
    | none => #[]

/-- The state after a symbol; zero where there is none. -/
def nextState (table : Table) (state symbol : Nat) : Nat :=
  if symbol < table.tokenCount then
    match (actionsFor table state symbol).back? with
    | some (.shift next _) => next
    | some .shiftExtra => state
    | _ => 0
  else
    match table.states[state]? with
    | some found => found.successors.getD (symbol - table.tokenCount) 0
    | none => 0

/-! ## Automata -/

/-- Runs an automaton; the result is what it last recognised, with the reader where it stopped. -/
def runDfa (table : Table) : Nat → Nat → Recognized → Cursor → Recognized × Cursor
  | 0, _, best, cursor => (best, cursor)
  | fuel + 1, state, best, cursor =>
      match table.dfa[state]? with
      | none => (best, cursor)
      | some found =>
          let (best, cursor) := match found.recognized with
            | .nothing => (best, cursor)
            | recognized => (recognized, cursor.mark)
          if cursor.atEnd then
            if found.endsText then (.endOfText, cursor.mark) else (best, cursor)
          else
            let letter := LetterCode.ofChar cursor.lookahead
            match found.targets.getD letter 0 with
            | 0 => (best, cursor)
            | target + 1 =>
                runDfa table fuel target best
                  (if found.blanks.contains letter then cursor.skip else cursor.advance)

/-- The symbol that an automaton recognised. -/
def symbolOf (table : Table) : Recognized → Option Nat
  | .nothing => none
  | .endOfText => some Table.endSymbol
  | .token number => some (table.terminalSymbols.getD number 0)

/-- Looks whether a word is a keyword; the result says whether it is spelled like one, and the
symbol it has in the given state. -/
def resolveWord (table : Table) (source : Array Char) (state : Nat) (start stop : Extent) :
    Bool × Nat :=
  let (recognized, cursor) :=
    runDfa table (source.size + 2) table.keywordStart .nothing (Cursor.startAt source start)
  match symbolOf table recognized with
  | none => (false, Table.wordSymbol)
  | some symbol =>
      if cursor.span.2.bytes = stop.bytes && !(actionsFor table state symbol).isEmpty then
        (true, symbol)
      else (true, Table.wordSymbol)

/-! ## Tokens -/

/-- What the lexer needs to know about the parser. -/
structure LexContext where
  table : Table
  source : Array Char
  state : Nat
  /-- Where the previous token ended. -/
  origin : Extent
  /-- Scanner memory after the last token of the scanner. -/
  layout : Option Layout
  /-- Whether the parser has moved on since it last met an error. -/
  hasAdvanced : Bool

/-- A token with the flag that the scanner keeps even before its first token. -/
structure LexResult where
  token : Subtree
  insideFormat : Bool

/-- Text that was skipped because no token begins there. -/
structure SkippedText where
  start : Extent
  stop : Extent

/-- Asks the layout scanner. The second part is the flag that it keeps. -/
def scanAt (context : LexContext) (mode : Nat) (isError insideFormat : Bool) (place : Extent) :
    Option (LayoutResult × Bool) × Bool :=
  let tokens := match context.table.states[mode]? with
    | some found => found.scanned
    | none => .empty
  let layout := context.layout.getD ⟨insideFormat, [], []⟩
  let cursor := Cursor.startAt context.source place
  match scanLayout (.ofTokens tokens) layout cursor with
  | none => (none, layout.insideFormat)
  | some result =>
      let kept := result.layout.compact
      let isChanged := context.layout ≠ some kept
      let (_, stop) := result.cursor.span
      let symbol := context.table.externalSymbols.getD result.token.number 0
      let isExtra := nextState context.table context.state symbol = context.state
      let isIgnored := stop.bytes ≤ place.bytes && !isChanged &&
        (isError || !context.hasAdvanced || isExtra)
      ( if isIgnored then none else some (result, isChanged)
      , result.layout.insideFormat )

/-- A token of text that no rule knows. -/
def unknownToken (context : LexContext) (skipped : SkippedText) : Subtree :=
  .leaf context.table Table.errorSymbol (skipped.start.sub context.origin)
    (skipped.stop.sub skipped.start) context.state false none false

/-- The token that the layout scanner found. -/
def scannedToken (context : LexContext) (result : LayoutResult) (isChanged : Bool) : Subtree :=
  let (start, stop) := result.cursor.span
  .leaf context.table (context.table.externalSymbols.getD result.token.number 0)
    (start.sub context.origin) (stop.sub start) context.state false
    (some result.layout.compact) isChanged

/-- The token that an automaton found. -/
def lexedToken (context : LexContext) (symbol : Nat) (cursor : Cursor) : Subtree :=
  let (start, stop) := cursor.span
  let (isKeyword, symbol) :=
    if symbol = Table.wordSymbol then
      resolveWord context.table context.source context.state start stop
    else (false, symbol)
  .leaf context.table symbol (start.sub context.origin) (stop.sub start) context.state isKeyword
    none false

/-- Looks for a token from a place on. `isError` says that all tokens are admitted already. -/
def lexFrom (context : LexContext) :
    Nat → Bool → Bool → Extent → Option SkippedText → LexResult
  | 0, _, insideFormat, place, skipped =>
      ⟨unknownToken context (skipped.getD ⟨place, place⟩), insideFormat⟩
  | fuel + 1, isError, insideFormat, place, skipped =>
      let mode := if isError then 0 else context.state
      let (scanned, insideFormat) := scanAt context mode isError insideFormat place
      match scanned with
      | some (result, isChanged) =>
          match skipped with
          | some text => ⟨unknownToken context text, insideFormat⟩
          | none => ⟨scannedToken context result isChanged, insideFormat⟩
      | none =>
          let start := match context.table.states[mode]? with
            | some found => context.table.modeStarts.getD found.mode 0
            | none => 0
          let (recognized, cursor) :=
            runDfa context.table (context.source.size + 2) start .nothing
              (Cursor.startAt context.source place)
          match symbolOf context.table recognized, skipped with
          | some _, some text => ⟨unknownToken context text, insideFormat⟩
          | some symbol, none => ⟨lexedToken context symbol cursor, insideFormat⟩
          | none, _ =>
              if !isError then
                lexFrom context fuel true insideFormat context.origin none
              else
                let text := skipped.getD ⟨cursor.start, cursor.start⟩
                if cursor.place.bytes = text.stop.bytes then
                  if cursor.atEnd then ⟨unknownToken context text, insideFormat⟩
                  else
                    let next := cursor.advance
                    lexFrom context fuel true insideFormat next.place
                      (some { text with stop := next.place })
                else
                  lexFrom context fuel true insideFormat cursor.place
                    (some { text with stop := cursor.place })

/-- The next token. -/
def lex (context : LexContext) (insideFormat : Bool) : LexResult :=
  lexFrom context (2 * context.source.size + 4) (context.state = 0) insideFormat context.origin
    none

end FunctionAtlas.Parse
