import FunctionAtlas.Automaton.TokenSet
import FunctionAtlas.Text.Extent

/-!
Contract: the scanner for tokens that depend on line structure and on open string literals.

The scanner reports line ends, changes of indentation, and the parts of string literals. It
remembers the open indentations and the open strings; between tokens this memory is kept in a
compact form in which an indentation has eight bits and at most 255 strings are open.

Owns: the scanner's memory and its rules.

Does not own: which of its tokens are admissible; the caller says so.
-/

namespace FunctionAtlas.Parse

open FunctionAtlas.Text
open FunctionAtlas.Automaton (TokenSet)

/-! ## Reading the text -/

/-- A reader of a text: the place it looks at, where the token begins and, once marked, where it
ends. -/
structure Cursor where
  source : Array Char
  place : Extent
  start : Extent
  stop : Option Extent

namespace Cursor

/-- A reader at a place. A byte order mark at the beginning of the text is skipped. -/
def startAt (source : Array Char) (place : Extent) : Cursor :=
  match source[place.chars]? with
  | some character =>
      if place.bytes = 0 && character = '\uFEFF' then
        let next := place.after character
        ⟨source, next, next, none⟩
      else ⟨source, place, place, none⟩
  | none => ⟨source, place, place, none⟩

/-- The character at the reader's place; the null character at the end of the text. -/
def lookahead (cursor : Cursor) : Char := (cursor.source[cursor.place.chars]?).getD '\x00'

def atEnd (cursor : Cursor) : Bool := cursor.source.size ≤ cursor.place.chars

/-- Moves on by one character. -/
def advance (cursor : Cursor) : Cursor :=
  match cursor.source[cursor.place.chars]? with
  | some character => { cursor with place := cursor.place.after character }
  | none => cursor

/-- Moves on by one character that is not part of the token. -/
def skip (cursor : Cursor) : Cursor :=
  match cursor.source[cursor.place.chars]? with
  | some character =>
      let next := cursor.place.after character
      { cursor with place := next, start := next }
  | none => cursor

/-- Lets the token end here. -/
def mark (cursor : Cursor) : Cursor := { cursor with stop := some cursor.place }

/-- Where the token begins and ends. A token without a mark ends at the reader's place, and one
that would end before it begins is empty. -/
def span (cursor : Cursor) : Extent × Extent :=
  let stop := cursor.stop.getD cursor.place
  (if stop.bytes < cursor.start.bytes then stop else cursor.start, stop)

end Cursor

/-! ## Memory -/

/-- An open string literal. -/
structure OpenString where
  quote : Char
  isRaw : Bool
  isFormat : Bool
  isTriple : Bool
  isBytes : Bool
deriving DecidableEq, Repr

/-- What the scanner remembers: open strings and open indentations, innermost first. -/
structure Layout where
  insideFormat : Bool
  strings : List OpenString
  indents : List Nat
deriving DecidableEq, Repr

namespace Layout

/-- The indentation of the current block; that of the module is zero. -/
def indent (layout : Layout) : Nat := layout.indents.headD 0

/-- The memory as it is kept between tokens. -/
def compact (layout : Layout) : Layout :=
  let strings := layout.strings.drop (layout.strings.length - 255)
  let room := 1022 - strings.length
  { insideFormat := layout.insideFormat
    strings
    indents := (layout.indents.drop (layout.indents.length - room)).map (· % 256) }

end Layout

/-- The tokens of the scanner, numbered as the grammar lists them. -/
inductive LayoutToken where
  | newline
  | indent
  | dedent
  | stringStart
  | stringContent
  | escapeInterpolation
  | stringEnd
deriving DecidableEq, Repr

def LayoutToken.number : LayoutToken → Nat
  | .newline => 0
  | .indent => 1
  | .dedent => 2
  | .stringStart => 3
  | .stringContent => 4
  | .escapeInterpolation => 5
  | .stringEnd => 6

/-- A token with the reader after it and the memory after it. -/
structure LayoutResult where
  token : LayoutToken
  cursor : Cursor
  layout : Layout

/-- What may come next, as far as the scanner is concerned. -/
structure Expectation where
  newline : Bool
  indent : Bool
  dedent : Bool
  stringStart : Bool
  stringContent : Bool
  escapeInterpolation : Bool
  /-- A closing bracket of any kind. -/
  closing : Bool
  exceptClause : Bool

def Expectation.ofTokens (tokens : TokenSet) : Expectation :=
  { newline := tokens.contains 0
    indent := tokens.contains 1
    dedent := tokens.contains 2
    stringStart := tokens.contains 3
    stringContent := tokens.contains 4
    escapeInterpolation := tokens.contains 5
    closing := tokens.contains 8 || tokens.contains 9 || tokens.contains 10
    exceptClause := tokens.contains 11 }

/-- Content of a string and an indentation are never both possible, except when everything is
admitted because the parser recovers from an error. -/
def Expectation.isRecovering (expected : Expectation) : Bool :=
  expected.stringContent && expected.indent

/-! ## Strings -/

/-- Steps over a backslash in a raw string, with an escaped quote, backslash or line end. -/
def skipRawEscape (quote : Char) (cursor : Cursor) : Cursor :=
  let cursor := cursor.advance
  let cursor :=
    if cursor.lookahead = quote || cursor.lookahead = '\\' then cursor.advance else cursor
  if cursor.lookahead = '\r' then
    let cursor := cursor.advance
    if cursor.lookahead = '\n' then cursor.advance else cursor
  else if cursor.lookahead = '\n' then cursor.advance
  else cursor

/-- What reading the content of a string comes to. -/
inductive ContentResult where
  | found (result : LayoutResult)
  /-- No token begins here. -/
  | refused
  /-- The text ends inside the string; the reader is where it ended. -/
  | exhausted (cursor : Cursor)

/-- The closing quotes of the innermost string, or content before them. -/
def closeString (layout : Layout) (string : OpenString) (hasContent : Bool) (cursor : Cursor) :
    LayoutResult :=
  let closed : Layout := ⟨false, layout.strings.drop 1, layout.indents⟩
  if string.isTriple then
    let cursor := cursor.mark.advance
    if cursor.lookahead = string.quote then
      let cursor := cursor.advance
      if cursor.lookahead = string.quote then
        if hasContent then ⟨.stringContent, cursor, layout⟩
        else ⟨.stringEnd, cursor.advance.mark, closed⟩
      else ⟨.stringContent, cursor.mark, layout⟩
    else ⟨.stringContent, cursor.mark, layout⟩
  else if hasContent then ⟨.stringContent, cursor.mark, layout⟩
  else ⟨.stringEnd, cursor.advance.mark, closed⟩

/-- Reads content of the innermost string up to an escape, a brace of a format string, or the
closing quote. -/
def scanContent (layout : Layout) (string : OpenString) : Nat → Bool → Cursor → ContentResult
  | 0, _, cursor => .exhausted cursor
  | fuel + 1, hasContent, cursor =>
      let character := cursor.lookahead
      let content (cursor : Cursor) : ContentResult :=
        if hasContent then .found ⟨.stringContent, cursor, layout⟩ else .refused
      if character = '\x00' then .exhausted cursor
      else if (character = '\x7b' || character = '\x7d') && string.isFormat then
        content cursor.mark
      else if character = '\\' then
        if string.isRaw then
          scanContent layout string fuel hasContent (skipRawEscape string.quote cursor)
        else if string.isBytes then
          let next := cursor.mark.advance
          if next.lookahead = 'N' || next.lookahead = 'u' || next.lookahead = 'U' then
            -- These escapes mean nothing in bytes: step over the letter and the one after it.
            scanContent layout string fuel true next.advance.advance
          else content next
        else content cursor.mark
      else if character = string.quote then
        .found (closeString layout string hasContent cursor)
      else if character = '\n' && hasContent && !string.isTriple then .refused
      else scanContent layout string fuel true cursor.advance

/-- Reads the letters before a quote; the result says whether the string is a format string, raw
or bytes. -/
def scanFlags : Nat → OpenString → Cursor → OpenString × Cursor
  | 0, string, cursor => (string, cursor)
  | fuel + 1, string, cursor =>
      match cursor.lookahead with
      | 'f' | 'F' => scanFlags fuel { string with isFormat := true } cursor.advance
      | 'r' | 'R' => scanFlags fuel { string with isRaw := true } cursor.advance
      | 'b' | 'B' => scanFlags fuel { string with isBytes := true } cursor.advance
      | 'u' | 'U' => scanFlags fuel string cursor.advance
      | _ => (string, cursor)

/-- Reads an opening quote, single or triple. -/
def scanOpening (layout : Layout) (cursor : Cursor) : Option LayoutResult :=
  let (string, cursor) :=
    scanFlags (cursor.source.size + 1) ⟨'\x00', false, false, false, false⟩ cursor
  let quote := cursor.lookahead
  let opened (string : OpenString) (cursor : Cursor) : Option LayoutResult :=
    some ⟨.stringStart, cursor,
      ⟨string.isFormat, { string with quote } :: layout.strings, layout.indents⟩⟩
  if quote = '`' then opened string cursor.advance.mark
  else if quote = '\'' || quote = '"' then
    let cursor := cursor.advance.mark
    if cursor.lookahead = quote then
      let next := cursor.advance
      if next.lookahead = quote then opened { string with isTriple := true } next.advance.mark
      else opened string next
    else opened string cursor
  else none

/-! ## Lines -/

/-- What the blanks, line ends and comments before a token come to. -/
structure LineScan where
  cursor : Cursor
  foundLineEnd : Bool
  indent : Nat
  /-- Indentation of the first comment on a line of its own. -/
  commentIndent : Option Nat

/-- Steps over the rest of a line and its end. -/
def skipLine : Nat → Cursor → Cursor
  | 0, cursor => cursor
  | fuel + 1, cursor =>
      if cursor.lookahead = '\x00' || cursor.lookahead = '\n' then cursor.skip
      else skipLine fuel cursor.skip

/-- Steps over blanks, line ends, joined lines and comments. The result is absent where the rules
of the scanner do not apply: at a comment after code, or at a stray backslash. -/
def scanLines (seesComments : Bool) : Nat → LineScan → Option LineScan
  | 0, scan => some scan
  | fuel + 1, scan =>
      let cursor := scan.cursor
      match cursor.lookahead with
      | '\n' =>
          scanLines seesComments fuel
            { scan with cursor := cursor.skip, foundLineEnd := true, indent := 0 }
      | ' ' =>
          scanLines seesComments fuel
            { scan with cursor := cursor.skip, indent := scan.indent + 1 }
      | '\r' | '\x0c' =>
          scanLines seesComments fuel { scan with cursor := cursor.skip, indent := 0 }
      | '\t' =>
          scanLines seesComments fuel
            { scan with cursor := cursor.skip, indent := scan.indent + 8 }
      | '#' =>
          if !seesComments then some scan
          else if !scan.foundLineEnd then none
          else
            scanLines seesComments fuel
              { scan with
                cursor := skipLine (cursor.source.size + 1) cursor
                indent := 0
                commentIndent := scan.commentIndent.or (some scan.indent) }
      | '\\' =>
          let cursor := cursor.skip
          let cursor := if cursor.lookahead = '\r' then cursor.skip else cursor
          if cursor.lookahead = '\n' || cursor.atEnd then
            scanLines seesComments fuel { scan with cursor := cursor.skip }
          else none
      | _ =>
          if cursor.atEnd then some { scan with foundLineEnd := true, indent := 0 }
          else some scan

/-- The token that a line end brings, if any. -/
def lineToken (expected : Expectation) (layout : Layout) (scan : LineScan) :
    Option LayoutResult :=
  let current := layout.indent
  let startsString :=
    let character := scan.cursor.lookahead
    character = '"' || character = '\'' || character = '`'
  if expected.indent && current < scan.indent then
    some ⟨.indent, scan.cursor,
      { layout with indents := (scan.indent % 65536) :: layout.indents }⟩
  else if
      (expected.dedent ||
        (!expected.newline && !(expected.stringStart && startsString) && !expected.closing)) &&
      scan.indent < current && !layout.insideFormat &&
      scan.commentIndent.all (· < current) then
    some ⟨.dedent, scan.cursor, { layout with indents := layout.indents.drop 1 }⟩
  else if expected.newline && !expected.isRecovering then
    some ⟨.newline, scan.cursor, layout⟩
  else none

/-- Tokens at line ends and at the beginning of strings. -/
def scanBetween (expected : Expectation) (layout : Layout) (cursor : Cursor) :
    Option LayoutResult :=
  let seesComments :=
    expected.indent || expected.dedent || expected.newline || expected.exceptClause
  match scanLines seesComments (cursor.source.size + 2) ⟨cursor.mark, false, 0, none⟩ with
  | none => none
  | some scan =>
      let atLineEnd := if scan.foundLineEnd then lineToken expected layout scan else none
      match atLineEnd with
      | some result => some result
      | none =>
          if scan.commentIndent.isNone && expected.stringStart then
            scanOpening layout scan.cursor
          else none

/-- The scanner: the next token at the reader's place, if it is one of the scanner's. -/
def scanLayout (expected : Expectation) (layout : Layout) (cursor : Cursor) :
    Option LayoutResult :=
  match layout.strings with
  | [] => scanBetween expected layout cursor
  | string :: _ =>
      let character := cursor.lookahead
      if expected.isRecovering then scanBetween expected layout cursor
      else if expected.escapeInterpolation &&
          (character = '\x7b' || character = '\x7d') && string.isFormat then
        let next := cursor.mark.advance
        if next.lookahead = character then
          some ⟨.escapeInterpolation, next.advance.mark, layout⟩
        else none
      else if expected.stringContent then
        match scanContent layout string (cursor.source.size + 1) false cursor with
        | .found result => some result
        | .refused => none
        | .exhausted cursor => scanBetween expected layout cursor
      else scanBetween expected layout cursor

end FunctionAtlas.Parse
