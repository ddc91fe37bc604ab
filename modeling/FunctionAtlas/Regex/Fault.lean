import FunctionAtlas.Regex.Syntax

/-!
Contract: what can be wrong with a pattern, and how it is shown.

A report quotes the pattern and marks the parts that a fault points to. A pattern of several lines
is shown with line numbers between rules; a part that spans lines is described in words.

Owns: the kinds of faults, their wording, and the report.
-/

namespace FunctionAtlas.Regex

/-- The kinds of faults. -/
inductive FaultKind where
  | groupUnclosed
  | groupUnopened
  | groupNameEmpty
  | groupNameInvalid
  | groupNameUnclosed
  | groupNameDuplicate
  | lookAround
  | flagUnrecognized
  | flagDuplicate
  | flagNegationRepeated
  | flagNegationDangling
  | flagUnfinished
  | repetitionMissing
  | repetitionUnclosed
  | repetitionCountEmpty
  | repetitionCountInvalid
  | decimalInvalid
  | escapeUnfinished
  | escapeUnrecognized
  | backreference
  | hexEmpty
  | hexInvalid
  | hexDigitInvalid
  | propertyInvalid
  | classUnclosed
  | classEscapeInvalid
  | classRangeInvalid
  | classRangeNoLiteral
  | wordBoundaryUnclosed
  | wordBoundaryUnrecognized
  | wordBoundaryUnfinished
  | nestedTooDeep
  | unicodeNotAllowed
  | invalidEncoding
  | propertyNotFound
  | propertyValueNotFound
deriving DecidableEq, Repr

/-- The deepest nesting of groups, sets and repetitions that is read. -/
def nestingLimit : Nat := 250

def FaultKind.message : FaultKind → String
  | .groupUnclosed => "unclosed group"
  | .groupUnopened => "unopened group"
  | .groupNameEmpty => "empty capture group name"
  | .groupNameInvalid => "invalid capture group character"
  | .groupNameUnclosed => "unclosed capture group name"
  | .groupNameDuplicate => "duplicate capture group name"
  | .lookAround => "look-around, including look-ahead and look-behind, is not supported"
  | .flagUnrecognized => "unrecognized flag"
  | .flagDuplicate => "duplicate flag"
  | .flagNegationRepeated => "flag negation operator repeated"
  | .flagNegationDangling => "dangling flag negation operator"
  | .flagUnfinished => "expected flag but got end of regex"
  | .repetitionMissing => "repetition operator missing expression"
  | .repetitionUnclosed => "unclosed counted repetition"
  | .repetitionCountEmpty => "repetition quantifier expects a valid decimal"
  | .repetitionCountInvalid =>
      "invalid repetition count range, the start must be <= the end"
  | .decimalInvalid => "decimal literal invalid"
  | .escapeUnfinished => "incomplete escape sequence, reached end of pattern prematurely"
  | .escapeUnrecognized => "unrecognized escape sequence"
  | .backreference => "backreferences are not supported"
  | .hexEmpty => "hexadecimal literal empty"
  | .hexInvalid => "hexadecimal literal is not a Unicode scalar value"
  | .hexDigitInvalid => "invalid hexadecimal digit"
  | .propertyInvalid => "invalid Unicode character class"
  | .classUnclosed => "unclosed character class"
  | .classEscapeInvalid => "invalid escape sequence found in character class"
  | .classRangeInvalid =>
      "invalid character class range, the start must be <= the end"
  | .classRangeNoLiteral => "invalid range boundary, must be a literal"
  | .wordBoundaryUnclosed =>
      "special word boundary assertion is either unclosed or contains an invalid character"
  | .wordBoundaryUnrecognized =>
      "unrecognized special word boundary assertion, valid choices are: start, end, " ++
        "start-half or end-half"
  | .wordBoundaryUnfinished =>
      "found either the beginning of a special word boundary or a bounded repetition on a \\b " ++
        "with an opening brace, but no closing brace"
  | .nestedTooDeep =>
      "exceed the maximum number of nested parentheses/brackets (" ++ toString nestingLimit ++ ")"
  | .unicodeNotAllowed => "Unicode not allowed here"
  | .invalidEncoding => "pattern can match invalid UTF-8"
  | .propertyNotFound => "Unicode property not found"
  | .propertyValueNotFound => "Unicode property value not found"

/-- A fault, where it is, and an earlier part that it refers to. -/
structure Fault where
  kind : FaultKind
  span : Span
  earlier : Option Span := none
deriving DecidableEq, Repr

/-! ## Positions -/

/-- A line and a column, both from one. -/
structure Position where
  line : Nat
  column : Nat
deriving DecidableEq, Repr

/-- The position before the character with an index. -/
def positionOf (pattern : List Char) (index : Nat) : Position :=
  (pattern.take index).foldl
    (fun (position : Position) character =>
      if character = '\n' then ⟨position.line + 1, 1⟩ else ⟨position.line, position.column + 1⟩)
    ⟨1, 1⟩

/-- The lines of a text, without their line ends. -/
def linesOf (pattern : List Char) : List String :=
  let dropReturn := fun (reversed : List Char) =>
    match reversed with
    | '\r' :: rest => rest
    | line => line
  let step := fun (state : List String × List Char) (character : Char) =>
    if character = '\n' then (String.ofList (dropReturn state.2).reverse :: state.1, [])
    else (state.1, character :: state.2)
  let (lines, last) := pattern.foldl step ([], [])
  (if last.isEmpty then lines else String.ofList last.reverse :: lines).reverse

/-! ## Reports -/

/-- Marks below a line, for parts in order that start and end at columns. -/
def marks (column : Nat) : List (Nat × Nat) → String
  | [] => ""
  | (start, stop) :: rest =>
      let width := max 1 (stop - start)
      "".pushn ' ' (start - column) ++ "".pushn '^' width ++
        marks (max start column + width) rest

/-- Where the parts that a fault points to begin and end, in order. -/
def Fault.places (pattern : List Char) (fault : Fault) : List (Position × Position) :=
  let spans := match fault.earlier with
    | none => [fault.span]
    | some earlier =>
        if earlier.start < fault.span.start then [earlier, fault.span]
        else [fault.span, earlier]
  spans.map fun span => (positionOf pattern span.start, positionOf pattern span.stop)

/-- A line of the pattern with the marks below it. -/
def markedLine (indent : String) (margin : Nat) (places : List (Position × Position))
    (number : Nat) (line : String) : String :=
  let here := places.filter fun place => place.1.line = number && place.2.line = number
  let below := if here.isEmpty then ""
    else "".pushn ' ' margin ++
      marks 1 (here.map fun place => (place.1.column, place.2.column)) ++ "\n"
  indent ++ line ++ "\n" ++ below

/-- The lines of a pattern with marks and with numbers padded to a width. -/
def numberedLines (width : Nat) (places : List (Position × Position)) :
    Nat → List String → String
  | _, [] => ""
  | number, line :: lines =>
      let digits := toString number
      let indent := "".pushn ' ' (width - digits.length) ++ digits ++ ": "
      markedLine indent (width + 2) places number line ++
        numberedLines width places (number + 1) lines

/-- A part that spans lines, in words. -/
def describeLines (place : Position × Position) : String :=
  "on line " ++ toString place.1.line ++ " (column " ++ toString place.1.column ++
    ") through line " ++ toString place.2.line ++
    " (column " ++ toString (place.2.column - 1) ++ ")"

/-- The report of a fault in a pattern. -/
def Fault.report (pattern : String) (fault : Fault) : String :=
  let characters := pattern.toList
  let lines := linesOf characters
  let places := fault.places characters
  let shown :=
    if characters.contains '\n' then
      let count := lines.length + if characters.getLast? = some '\n' then 1 else 0
      let rule := "".pushn '~' 79 ++ "\n"
      let spanning := places.filter fun place => place.1.line ≠ place.2.line
      let words := if spanning.isEmpty then ""
        else "\n".intercalate (spanning.map describeLines) ++ "\n"
      rule ++ numberedLines (toString count).length places 1 lines ++ rule ++ words
    else String.join (lines.map (markedLine "    " 4 places 1))
  "regex parse error:\n" ++ shown ++ "error: " ++ fault.kind.message

end FunctionAtlas.Regex
