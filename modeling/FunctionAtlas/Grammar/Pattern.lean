import FunctionAtlas.Grammar.CharSet

/-!
Contract: regular patterns that describe single tokens.

Owns: the pattern type and the combinators that token descriptions use.

Does not own: recognition; `FunctionAtlas.Automaton.Nfa` compiles patterns.
-/

namespace FunctionAtlas.Grammar

/-- A regular language over characters. -/
inductive Pattern where
  | empty
  | set (characters : CharSet)
  | seq (first second : Pattern)
  | alt (first second : Pattern)
  | plus (body : Pattern)
deriving DecidableEq, Repr

namespace Pattern

/-- Exactly this text. -/
def text (literal : String) : Pattern :=
  literal.toList.foldr
    (fun character rest => seq (set (CharSet.ofCode (LetterCode.ofChar character))) rest) empty

/-- One of the characters of this text. -/
def anyOf (characters : String) : Pattern := set (CharSet.ofString characters)

/-- A character that is not in this text. -/
def noneOf (characters : String) : Pattern := set (CharSet.ofString characters).complement

def optional (body : Pattern) : Pattern := alt body empty

def star (body : Pattern) : Pattern := alt (plus body) empty

/-- Patterns one after the other. -/
def sequence : List Pattern → Pattern
  | [] => empty
  | [last] => last
  | first :: rest => seq first (sequence rest)

/-- The first pattern that matches, with the empty list standing for the empty text. -/
def choice : List Pattern → Pattern
  | [] => empty
  | [last] => last
  | first :: rest => alt first (choice rest)

/-- The same pattern `count` times. -/
def times (count : Nat) (body : Pattern) : Pattern := sequence (List.replicate count body)

end Pattern

end FunctionAtlas.Grammar
