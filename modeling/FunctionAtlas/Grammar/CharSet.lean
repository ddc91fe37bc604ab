import FunctionAtlas.Text.Identifier

/-!
Contract: the finite alphabet that token patterns are written over.

Token patterns tell characters apart only by a few properties. A *letter code* is a class of
characters that no pattern distinguishes: every ASCII character is a class of its own, and the
rest of Unicode falls into four classes. Sets of characters are then bit masks of letter codes,
and lexical automata have finite tables.

Owns: letter codes and sets of them.
-/

namespace FunctionAtlas.Grammar

namespace LetterCode

/-- The number of letter codes. -/
def count : Nat := 132

/-- Marks without width that separate tokens: U+FEFF, U+2060 and U+200B. -/
def zeroWidth : Nat := 128

/-- Characters beyond ASCII that begin a name. -/
def nameStart : Nat := 129

/-- Characters beyond ASCII that continue a name without beginning one. -/
def nameContinue : Nat := 130

/-- Every other character beyond ASCII. -/
def other : Nat := 131

/-- The class of a character. -/
def ofChar (character : Char) : Nat :=
  let code := character.toNat
  if code < 128 then code
  else if code = 0xFEFF || code = 0x2060 || code = 0x200B then zeroWidth
  else if Text.Identifier.startTable.contains code then nameStart
  else if Text.Identifier.continueOnlyTable.contains code then nameContinue
  else other

end LetterCode

/-- A set of characters, as a bit mask over letter codes. -/
structure CharSet where
  mask : Nat
deriving DecidableEq, Repr

namespace CharSet

def empty : CharSet := ⟨0⟩

/-- All characters. -/
def full : CharSet := ⟨Nat.pow 2 LetterCode.count - 1⟩

def contains (set : CharSet) (code : Nat) : Bool := set.mask.testBit code

def ofCode (code : Nat) : CharSet := ⟨1 <<< code⟩

def union (left right : CharSet) : CharSet := ⟨left.mask ||| right.mask⟩

def intersects (left right : CharSet) : Bool := left.mask &&& right.mask != 0

def complement (set : CharSet) : CharSet := ⟨full.mask ^^^ set.mask⟩

/-- The characters of a text. -/
def ofString (text : String) : CharSet :=
  text.toList.foldl (fun set character => set.union (ofCode (LetterCode.ofChar character))) empty

/-- An inclusive range of ASCII characters. -/
def range (first last : Char) : CharSet :=
  (List.range (last.toNat + 1 - first.toNat)).foldl
    (fun set offset => set.union (ofCode (first.toNat + offset))) empty

/-- The codes in a set, in increasing order. -/
def codes (set : CharSet) : List Nat := (List.range LetterCode.count).filter set.contains

/-- ASCII digits. -/
def digit : CharSet := range '0' '9'

/-- ASCII hexadecimal digits. -/
def hexDigit : CharSet := (digit.union (range 'a' 'f')).union (range 'A' 'F')

/-- Characters that begin a name: an underscore or a letter of any script. -/
def nameStart : CharSet :=
  ((range 'a' 'z').union (range 'A' 'Z')).union
    ((ofCode '_'.toNat).union (ofCode LetterCode.nameStart))

/-- Characters that continue a name. -/
def nameContinue : CharSet :=
  nameStart.union (digit.union (ofCode LetterCode.nameContinue))

/-- Blanks between tokens: ASCII white space and the zero-width marks. -/
def blank : CharSet :=
  ((range '\t' '\r').union (ofCode ' '.toNat)).union (ofCode LetterCode.zeroWidth)

end CharSet

end FunctionAtlas.Grammar
