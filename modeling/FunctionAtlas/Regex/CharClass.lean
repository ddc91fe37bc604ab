import FunctionAtlas.Text.CaseFold
import FunctionAtlas.Text.RangeTable

/-!
Contract: sets of characters that patterns are built from.

A set is a list of inclusive ranges of code points, in increasing order and with gaps between
them, so that equal sets are equal lists.

Owns: the operations on sets, and their closure under change of case.

Does not own: how sets are written.
-/

namespace FunctionAtlas.Regex

/-- A set of characters as ordered, disjoint ranges that do not touch. -/
structure CharClass where
  ranges : List (Nat × Nat)
deriving DecidableEq, Repr

namespace CharClass

/-- The largest code point. -/
def lastCode : Nat := 0x10FFFF

/-- Joins a range with those after it that overlap or touch it. -/
def mergeFrom (low high : Nat) : List (Nat × Nat) → List (Nat × Nat)
  | [] => [(low, high)]
  | (nextLow, nextHigh) :: rest =>
      if nextLow ≤ high + 1 then mergeFrom low (max high nextHigh) rest
      else (low, high) :: mergeFrom nextLow nextHigh rest

/-- The set of the characters in any of the ranges. -/
def ofRanges (ranges : List (Nat × Nat)) : CharClass :=
  match ranges.mergeSort fun left right => left.1 ≤ right.1 with
  | [] => ⟨[]⟩
  | (low, high) :: rest => ⟨mergeFrom low high rest⟩

def empty : CharClass := ⟨[]⟩

def single (character : Char) : CharClass := ⟨[(character.toNat, character.toNat)]⟩

/-- Membership of a code point. -/
def contains (set : CharClass) (code : Nat) : Bool :=
  set.ranges.any fun range => range.1 ≤ code && code ≤ range.2

def union (left right : CharClass) : CharClass := ofRanges (left.ranges ++ right.ranges)

/-- The gaps from a code point on. -/
def gapsFrom (next : Nat) : List (Nat × Nat) → List (Nat × Nat)
  | [] => if next ≤ lastCode then [(next, lastCode)] else []
  | (low, high) :: rest =>
      if next < low then (next, low - 1) :: gapsFrom (high + 1) rest else gapsFrom (high + 1) rest

def complement (set : CharClass) : CharClass := ⟨gapsFrom 0 set.ranges⟩

def intersection (left right : CharClass) : CharClass :=
  (left.complement.union right.complement).complement

def difference (left right : CharClass) : CharClass := left.intersection right.complement

def symmetricDifference (left right : CharClass) : CharClass :=
  (left.difference right).union (right.difference left)

/-- The set itself or its complement. -/
def negateIf (isNegated : Bool) (set : CharClass) : CharClass :=
  if isNegated then set.complement else set

/-- Adds the whole of each class that has a member in the set. -/
def closeUnder (classes : List (List Nat)) (set : CharClass) : CharClass :=
  let table := Text.RangeTable.ofRanges set.ranges
  let touched := classes.filter fun members => members.any table.contains
  ofRanges (set.ranges ++ touched.flatten.map fun code => (code, code))

/-- Adds the characters that differ from a member only in case. -/
def foldCase (set : CharClass) : CharClass := set.closeUnder Text.CaseFold.classes

/-- Adds the ASCII letters that differ from a member only in case. -/
def foldAsciiCase (set : CharClass) : CharClass :=
  set.closeUnder ((List.range 26).map fun index => [0x41 + index, 0x61 + index])

end CharClass

end FunctionAtlas.Regex
