import FunctionAtlas.Regex.Parser

/-!
Contract: patterns by what they match.

Owns: expressions, and the expression that a written pattern means under the switches in force at
each of its parts. Switches hold from where they stand to the end of their group.

Does not own: how expressions are matched.
-/

namespace FunctionAtlas.Regex

/-- Conditions on the characters before and after a position. -/
inductive Look where
  | textStart
  | textEnd
  | lineStart
  | lineEnd
  /-- A line start or end where a carriage return counts to the line end. -/
  | anyLineStart
  | anyLineEnd
  /-- Conditions on word characters, in all of Unicode or among ASCII. -/
  | wordBoundary (isUnicode : Bool)
  | notWordBoundary (isUnicode : Bool)
  | wordStart (isUnicode : Bool)
  | wordEnd (isUnicode : Bool)
  | wordStartHalf (isUnicode : Bool)
  | wordEndHalf (isUnicode : Bool)
deriving DecidableEq, Repr

/-- What a pattern matches. Earlier alternatives and, if greedy, more repetitions are preferred. -/
inductive Expr where
  | empty
  | one (set : CharClass)
  | look (condition : Look)
  | sequence (first second : Expr)
  | either (preferred other : Expr)
  | repeated (body : Expr) (least : Nat) (most : Option Nat) (isGreedy : Bool)
  | captured (body : Expr)
deriving DecidableEq, Repr

namespace Expr

/-- Expressions in a row. -/
def sequenceAll : List Expr → Expr
  | [] => .empty
  | [item] => item
  | item :: items => .sequence item (sequenceAll items)

/-- Alternatives, the preferred ones first. -/
def eitherAll : List Expr → Expr
  | [] => .empty
  | [branch] => branch
  | branch :: branches => .either branch (eitherAll branches)

/-- Whether an expression matches nothing but the empty text. -/
def isAlwaysEmpty : Expr → Bool
  | .empty => true
  | .one _ => false
  | .look _ => true
  | .sequence first second => first.isAlwaysEmpty && second.isAlwaysEmpty
  | .either preferred other => preferred.isAlwaysEmpty && other.isAlwaysEmpty
  | .repeated body _ most _ => body.isAlwaysEmpty || most = some 0
  | .captured body => body.isAlwaysEmpty

/-- A repetition. Once is enough of what is always empty. -/
def times (body : Expr) (least : Nat) (most : Option Nat) (isGreedy : Bool) : Expr :=
  if body.isAlwaysEmpty then
    .repeated body (min least 1) (some (min (most.getD 1) 1)) isGreedy
  else .repeated body least most isGreedy

end Expr

/-! ## Switches -/

/-- The switches in force. -/
structure Mode where
  ignoreCase : Bool := false
  multiLine : Bool := false
  dotMatchesLineEnd : Bool := false
  swapGreed : Bool := false
  unicode : Bool := true
  carriageReturn : Bool := false

namespace Mode

def set (mode : Mode) : Flag × Bool → Mode
  | (.ignoreCase, isOn) => { mode with ignoreCase := isOn }
  | (.multiLine, isOn) => { mode with multiLine := isOn }
  | (.dotMatchesLineEnd, isOn) => { mode with dotMatchesLineEnd := isOn }
  | (.swapGreed, isOn) => { mode with swapGreed := isOn }
  | (.unicode, isOn) => { mode with unicode := isOn }
  | (.carriageReturn, isOn) => { mode with carriageReturn := isOn }
  | (.skipBlanks, _) => mode

def apply (mode : Mode) (setting : FlagSetting) : Mode := setting.foldl set mode

/-- A set with what differs from it only in case, where case does not count. -/
def fold (mode : Mode) (set : CharClass) : CharClass :=
  if !mode.ignoreCase then set
  else if mode.unicode then set.foldCase
  else set.foldAsciiCase

/-- A set or its complement. Without Unicode, a complement has bytes that are no characters. -/
def negate (mode : Mode) (span : Span) (isNegated : Bool) (set : CharClass) :
    Except Fault CharClass :=
  if isNegated && !mode.unicode then .error { kind := .invalidEncoding, span }
  else .ok (set.negateIf isNegated)

/-- The character of a literal. Without Unicode, it can be a byte that is no character. -/
def characterOf (mode : Mode) (literal : Literal) : Except Fault Char :=
  if !mode.unicode && literal.isByte && 0x80 ≤ literal.character.toNat then
    .error { kind := .invalidEncoding, span := literal.span }
  else .ok literal.character

/-- The character of a literal in a set. Without Unicode, sets hold ASCII only. -/
def memberOf (mode : Mode) (literal : Literal) : Except Fault Char := do
  let character ← mode.characterOf literal
  if !mode.unicode && 0x80 ≤ character.toNat then
    .error { kind := .unicodeNotAllowed, span := literal.span }
  else return character

def ofShorthand (mode : Mode) (span : Span) (kind : Shorthand) (isNegated : Bool) :
    Except Fault CharClass :=
  mode.negate span isNegated
    (if mode.unicode then Property.ofShorthand kind else Property.asciiShorthand kind)

def ofProperty (mode : Mode) (span : Span) (query : PropertyQuery) (isNegated : Bool) :
    Except Fault CharClass :=
  if !mode.unicode then .error { kind := .unicodeNotAllowed, span }
  else
    match query.resolve with
    | .error .noProperty => .error { kind := .propertyNotFound, span }
    | .error .noValue => .error { kind := .propertyValueNotFound, span }
    | .ok set => mode.negate span (isNegated != query.isOther) (mode.fold set)

mutual

/-- The set that stands in brackets. -/
def ofSet (mode : Mode) : SetSyntax → Except Fault CharClass
  | .literal literal => return CharClass.single (← mode.memberOf literal)
  | .range _ first last => do
      let low ← mode.memberOf first
      let high ← mode.memberOf last
      return ⟨[(low.toNat, high.toNat)]⟩
  | .ascii span ranges isNegated => mode.negate span isNegated (mode.fold ⟨ranges⟩)
  | .shorthand span kind isNegated => mode.ofShorthand span kind isNegated
  | .property span query isNegated => mode.ofProperty span query isNegated
  | .bracketed span isNegated content => do
      mode.negate span isNegated (mode.fold (← ofSet mode content))
  | .union _ items => ofSets mode items
  | .operation _ operation left right => do
      let left := mode.fold (← ofSet mode left)
      let right := mode.fold (← ofSet mode right)
      return match operation with
        | .intersection => left.intersection right
        | .difference => left.difference right
        | .symmetricDifference => left.symmetricDifference right

/-- The set of the members of several sets. -/
def ofSets (mode : Mode) : List SetSyntax → Except Fault CharClass
  | [] => return CharClass.empty
  | item :: items => do
      let first ← ofSet mode item
      return first.union (← ofSets mode items)

end

/-- The condition that a position asks for. -/
def lookOf (mode : Mode) : Assertion → Look
  | .lineStart =>
      if !mode.multiLine then .textStart
      else if mode.carriageReturn then .anyLineStart
      else .lineStart
  | .lineEnd =>
      if !mode.multiLine then .textEnd
      else if mode.carriageReturn then .anyLineEnd
      else .lineEnd
  | .textStart => .textStart
  | .textEnd => .textEnd
  | .wordBoundary => .wordBoundary mode.unicode
  | .notWordBoundary => .notWordBoundary mode.unicode
  | .wordStart => .wordStart mode.unicode
  | .wordEnd => .wordEnd mode.unicode
  | .wordStartHalf => .wordStartHalf mode.unicode
  | .wordEndHalf => .wordEndHalf mode.unicode

/-- The characters that a dot matches. -/
def dot (mode : Mode) (span : Span) : Except Fault CharClass :=
  if !mode.unicode then .error { kind := .invalidEncoding, span }
  else if mode.dotMatchesLineEnd then return ⟨[(0, CharClass.lastCode)]⟩
  else if mode.carriageReturn then return CharClass.complement ⟨[(0x0A, 0x0A), (0x0D, 0x0D)]⟩
  else return CharClass.complement ⟨[(0x0A, 0x0A)]⟩

end Mode

/-! ## Meaning -/

/-- Expressions while switches change. -/
abbrev Meaning := StateT Mode (Except Fault)

/-- The set of a part, as an expression. -/
def Meaning.one (set : Mode → Except Fault CharClass) : Meaning Expr := fun mode => do
  return (.one (← set mode), mode)

mutual

/-- What a written pattern means. -/
def Syntax.meaning : Syntax → Meaning Expr
  | .empty => return .empty
  | .flags setting => do
      modify fun mode => mode.apply setting
      return .empty
  | .literal written => Meaning.one fun mode => do
      return mode.fold (CharClass.single (← mode.characterOf written))
  | .dot span => Meaning.one fun mode => mode.dot span
  | .assertion asked => do
      let mode ← get
      return .look (mode.lookOf asked)
  | .shorthand span kind isNegated => Meaning.one fun mode => mode.ofShorthand span kind isNegated
  | .property span query isNegated => Meaning.one fun mode => mode.ofProperty span query isNegated
  | .bracketed span isNegated content => Meaning.one fun mode => do
      mode.negate span isNegated (mode.fold (← mode.ofSet content))
  | .repetition _ least most isGreedy body => do
      let body ← body.meaning
      let mode ← get
      return body.times least most (isGreedy != mode.swapGreed)
  | .group _ isCaptured setting body => do
      let mode ← get
      set (mode.apply setting)
      let body ← body.meaning
      set mode
      return if isCaptured then .captured body else body
  | .alternation _ branches => return Expr.eitherAll (← Syntax.meanings branches)
  | .concatenation _ items => return Expr.sequenceAll (← Syntax.meanings items)

/-- What the parts of a pattern mean, from left to right. -/
def Syntax.meanings : List Syntax → Meaning (List Expr)
  | [] => return []
  | item :: items => do
      let first ← item.meaning
      return first :: (← Syntax.meanings items)

end

/-- The expression that a pattern means. -/
def Expr.read (ignoreCase : Bool) (pattern : String) : Except Fault Expr := do
  let parts ← Syntax.read pattern
  let (expression, _) ← parts.meaning { ignoreCase }
  return expression

end FunctionAtlas.Regex
