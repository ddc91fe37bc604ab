/-!
Contract: counts written in decimal digits, perhaps after a plus sign.

Owns: the largest count, the reading of a text as a count, and what is wrong with other texts.
-/

namespace FunctionAtlas.Decimal

inductive CountFault where
  | empty
  | invalidDigit
  | tooLarge
deriving DecidableEq, Repr

def CountFault.message : CountFault → String
  | .empty => "cannot parse integer from empty string"
  | .invalidDigit => "invalid digit found in string"
  | .tooLarge => "number too large to fit in target type"

/-- The largest count, which fills a word of 64 bits. -/
def largestCount : Nat := Nat.pow 2 64 - 1

/-- The count of digits that follow on digits read before. The first digit at fault decides. -/
def readDigits : Nat → List Char → Except CountFault Nat
  | total, [] => .ok total
  | total, character :: rest =>
      if character.isDigit then
        let next := total * 10 + (character.toNat - '0'.toNat)
        if largestCount < next then .error .tooLarge else readDigits next rest
      else .error .invalidDigit

/-- The count that a text writes. -/
def readCount (text : String) : Except CountFault Nat :=
  match text.toList with
  | [] => .error .empty
  | ['+'] => .error .invalidDigit
  | '+' :: digits => readDigits 0 digits
  | digits => readDigits 0 digits

end FunctionAtlas.Decimal
