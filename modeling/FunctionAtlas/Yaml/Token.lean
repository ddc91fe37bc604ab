/-!
Contract: the tokens of YAML streams, and what can be wrong with a stream.

A fault names a problem and the place of the problem, and often what was being read and where that
began. A place at the very beginning of the stream is not shown.

Owns: places, tokens, faults and their wording.

Does not own: how tokens are found.
-/

namespace FunctionAtlas.Yaml

/-- A place in a stream: characters from the beginning, line and column, all from zero. -/
structure Mark where
  index : Nat := 0
  line : Nat := 0
  column : Nat := 0
deriving DecidableEq, Repr

namespace Mark

/-- Whether a place is not at the very beginning. -/
def isShown (mark : Mark) : Bool := mark.line ≠ 0 || mark.column ≠ 0

/-- Line and column, counted from one. -/
def display (mark : Mark) : String :=
  "line " ++ toString (mark.line + 1) ++ " column " ++ toString (mark.column + 1)

/-- A note on a place, unless it is at the very beginning. -/
def note (mark : Mark) : String := if mark.isShown then " at " ++ mark.display else ""

end Mark

/-! ## Tokens -/

/-- How a scalar is written. -/
inductive ScalarStyle where
  | plain
  | singleQuoted
  | doubleQuoted
  | literal
  | folded
deriving DecidableEq, Repr

/-- What a token is. -/
inductive TokenKind where
  | streamStart
  | streamEnd
  | versionDirective (major minor : Nat)
  | tagDirective (handle tagPrefix : String)
  | documentStart
  | documentEnd
  | blockSequenceStart
  | blockMappingStart
  | blockEnd
  | flowSequenceStart
  | flowSequenceEnd
  | flowMappingStart
  | flowMappingEnd
  | blockEntry
  | flowEntry
  | key
  | value
  | reference (name : String)
  | anchor (name : String)
  | tag (handle suffix : String)
  | scalar (text : String) (style : ScalarStyle)
deriving DecidableEq, Repr

/-- A token and where it stands. -/
structure Token where
  kind : TokenKind
  start : Mark
  stop : Mark
deriving DecidableEq, Repr

/-! ## Faults -/

/-- What is wrong. -/
inductive Problem where
  | unexpectedCharacter
  | keyWithoutColon
  | entryNotAllowed
  | keyNotAllowed
  | valueNotAllowed
  | unknownDirective
  | expectedLineEnd
  | expectedDirectiveName
  | nonAlphabeticName
  | expectedDigitOrDot
  | versionTooLong
  | expectedVersion
  | expectedBlank
  | expectedBlankOrLineEnd
  | expectedAnchorName
  | expectedExclamation
  | expectedTagEnd
  | expectedTagText
  | expectedEscapedByte
  | wrongLeadingByte
  | wrongTrailingByte
  | zeroIndentation
  | tabInIndentation
  | tabViolatesIndentation
  | documentInScalar
  | unexpectedEnd
  | unknownEscape
  | expectedHexNumber
  | invalidCodePoint
  | unexpectedColon
  | expectedDocumentStart
  | expectedNodeContent
  | undefinedTagHandle
  | expectedDash
  | expectedKey
  | expectedSequenceEnd
  | expectedMappingEnd
  | repeatedVersion
  | incompatibleVersion
  | repeatedTagDirective
deriving DecidableEq, Repr

def Problem.message : Problem → String
  | .unexpectedCharacter => "found character that cannot start any token"
  | .keyWithoutColon => "could not find expected ':'"
  | .entryNotAllowed => "block sequence entries are not allowed in this context"
  | .keyNotAllowed => "mapping keys are not allowed in this context"
  | .valueNotAllowed => "mapping values are not allowed in this context"
  | .unknownDirective => "found unknown directive name"
  | .expectedLineEnd => "did not find expected comment or line break"
  | .expectedDirectiveName => "could not find expected directive name"
  | .nonAlphabeticName => "found unexpected non-alphabetical character"
  | .expectedDigitOrDot => "did not find expected digit or '.' character"
  | .versionTooLong => "found extremely long version number"
  | .expectedVersion => "did not find expected version number"
  | .expectedBlank => "did not find expected whitespace"
  | .expectedBlankOrLineEnd => "did not find expected whitespace or line break"
  | .expectedAnchorName => "did not find expected alphabetic or numeric character"
  | .expectedExclamation => "did not find expected '!'"
  | .expectedTagEnd => "did not find the expected '>'"
  | .expectedTagText => "did not find expected tag URI"
  | .expectedEscapedByte => "did not find URI escaped octet"
  | .wrongLeadingByte => "found an incorrect leading UTF-8 octet"
  | .wrongTrailingByte => "found an incorrect trailing UTF-8 octet"
  | .zeroIndentation => "found an indentation indicator equal to 0"
  | .tabInIndentation => "found a tab character where an indentation space is expected"
  | .tabViolatesIndentation => "found a tab character that violates indentation"
  | .documentInScalar => "found unexpected document indicator"
  | .unexpectedEnd => "found unexpected end of stream"
  | .unknownEscape => "found unknown escape character"
  | .expectedHexNumber => "did not find expected hexdecimal number"
  | .invalidCodePoint => "found invalid Unicode character escape code"
  | .unexpectedColon => "found unexpected ':'"
  | .expectedDocumentStart => "did not find expected <document start>"
  | .expectedNodeContent => "did not find expected node content"
  | .undefinedTagHandle => "found undefined tag handle"
  | .expectedDash => "did not find expected '-' indicator"
  | .expectedKey => "did not find expected key"
  | .expectedSequenceEnd => "did not find expected ',' or ']'"
  | .expectedMappingEnd => "did not find expected ',' or '\x7d'"
  | .repeatedVersion => "found duplicate %YAML directive"
  | .incompatibleVersion => "found incompatible YAML document"
  | .repeatedTagDirective => "found duplicate %TAG directive"

/-- What was being read. -/
inductive Context where
  | nextToken
  | simpleKey
  | directive
  | versionDirective
  | tagDirective
  | tagDirectiveHandle
  | tagDirectivePrefix
  | anchor
  | reference
  | tag
  | tagText
  | blockScalar
  | quotedScalar
  | quotedEscape
  | plainScalar
  | node
  | blockNode
  | flowNode
  | blockCollection
  | blockMapping
  | flowSequence
  | flowMapping
deriving DecidableEq, Repr

def Context.message : Context → String
  | .nextToken => "while scanning for the next token"
  | .simpleKey => "while scanning a simple key"
  | .directive => "while scanning a directive"
  | .versionDirective => "while scanning a %YAML directive"
  | .tagDirective => "while scanning a %TAG directive"
  | .tagDirectiveHandle => "while parsing a tag directive"
  | .tagDirectivePrefix => "while parsing a %TAG directive"
  | .anchor => "while scanning an anchor"
  | .reference => "while scanning an alias"
  | .tag => "while scanning a tag"
  | .tagText => "while parsing a tag"
  | .blockScalar => "while scanning a block scalar"
  | .quotedScalar => "while scanning a quoted scalar"
  | .quotedEscape => "while parsing a quoted scalar"
  | .plainScalar => "while scanning a plain scalar"
  | .node => "while parsing a node"
  | .blockNode => "while parsing a block node"
  | .flowNode => "while parsing a flow node"
  | .blockCollection => "while parsing a block collection"
  | .blockMapping => "while parsing a block mapping"
  | .flowSequence => "while parsing a flow sequence"
  | .flowMapping => "while parsing a flow mapping"

/-- Why a stream cannot be read. -/
inductive Fault where
  /-- A character that no stream may hold, at a byte offset. -/
  | controlCharacter (offset : Nat)
  | syntaxError (problem : Problem) (place : Mark) (context : Option (Context × Mark))
deriving DecidableEq, Repr

def Fault.message : Fault → String
  | .controlCharacter offset =>
      "control characters are not allowed" ++
        if offset = 0 then "" else " at position " ++ toString offset
  | .syntaxError problem place context =>
      let rest := match context with
        | none => ""
        | some (reading, start) =>
            let isElsewhere := start.line ≠ place.line || start.column ≠ place.column
            ", " ++ reading.message ++ if isElsewhere then start.note else ""
      problem.message ++ place.note ++ rest

end FunctionAtlas.Yaml
