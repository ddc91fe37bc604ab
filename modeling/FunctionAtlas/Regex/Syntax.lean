/-!
Contract: patterns as they are written.

Every part of a pattern knows where it stands, as character indices from its start up to its end,
so that a fault can point to it.

Owns: the syntax trees of patterns.

Does not own: how they are read, and what they match.
-/

namespace FunctionAtlas.Regex

/-- A part of a pattern: the index of its first character, and of the one after its last. -/
structure Span where
  start : Nat
  stop : Nat
deriving DecidableEq, Repr

/-- Switches that change the meaning of what follows them. -/
inductive Flag where
  | ignoreCase
  | multiLine
  | dotMatchesLineEnd
  | swapGreed
  | unicode
  | carriageReturn
  | skipBlanks
deriving DecidableEq, Repr

/-- The letters of switches. -/
def Flag.ofLetter? : Char → Option Flag
  | 'i' => some .ignoreCase
  | 'm' => some .multiLine
  | 's' => some .dotMatchesLineEnd
  | 'U' => some .swapGreed
  | 'u' => some .unicode
  | 'R' => some .carriageReturn
  | 'x' => some .skipBlanks
  | _ => none

/-- Switches with whether they are turned on. -/
abbrev FlagSetting := List (Flag × Bool)

/-- A character that stands for itself. -/
structure Literal where
  span : Span
  character : Char
  /-- Whether it is written as two hexadecimal digits, which can also mean a byte. -/
  isByte : Bool
deriving DecidableEq, Repr

/-- Positions that a pattern can ask for. -/
inductive Assertion where
  | lineStart
  | lineEnd
  | textStart
  | textEnd
  | wordBoundary
  | notWordBoundary
  | wordStart
  | wordEnd
  | wordStartHalf
  | wordEndHalf
deriving DecidableEq, Repr

/-- Sets of characters that have a letter of their own. -/
inductive Shorthand where
  | digit
  | space
  | word
deriving DecidableEq, Repr

/-- A question about a Unicode property. -/
inductive PropertyQuery where
  /-- A property, category or script by its name. -/
  | named (name : String)
  /-- Whether a property has a value, or another one. -/
  | valued (isOther : Bool) (name value : String)
deriving DecidableEq, Repr

/-- Operations between the parts of a bracketed set. -/
inductive SetOperation where
  | intersection
  | difference
  | symmetricDifference
deriving DecidableEq, Repr

/-- What stands between brackets. -/
inductive SetSyntax where
  | literal (literal : Literal)
  | range (span : Span) (first last : Literal)
  | ascii (span : Span) (ranges : List (Nat × Nat)) (isNegated : Bool)
  | shorthand (span : Span) (kind : Shorthand) (isNegated : Bool)
  | property (span : Span) (query : PropertyQuery) (isNegated : Bool)
  | bracketed (span : Span) (isNegated : Bool) (content : SetSyntax)
  | union (span : Span) (items : List SetSyntax)
  | operation (span : Span) (operation : SetOperation) (left right : SetSyntax)

/-- A pattern. -/
inductive Syntax where
  | empty
  | flags (setting : FlagSetting)
  | literal (literal : Literal)
  | dot (span : Span)
  | assertion (assertion : Assertion)
  | shorthand (span : Span) (kind : Shorthand) (isNegated : Bool)
  | property (span : Span) (query : PropertyQuery) (isNegated : Bool)
  | bracketed (span : Span) (isNegated : Bool) (content : SetSyntax)
  | repetition (span : Span) (least : Nat) (most : Option Nat) (isGreedy : Bool) (body : Syntax)
  | group (span : Span) (isCaptured : Bool) (setting : FlagSetting) (body : Syntax)
  | alternation (span : Span) (branches : List Syntax)
  | concatenation (span : Span) (items : List Syntax)

end FunctionAtlas.Regex
