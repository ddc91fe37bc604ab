/-!
Contract: finite tables of Unicode code points, written as text and searched by halving.

A table is written as hexadecimal code points and inclusive ranges separated by blanks, for
instance `aa b5 c0-d6`, in increasing order. Every character property of this library that no
short rule describes is such a table.

Owns: the reader of the written form and membership.

Does not own: the properties themselves; each has a module of its own.
-/

namespace FunctionAtlas.Text

/-- Ordered, disjoint, inclusive ranges of code points. -/
structure RangeTable where
  lows : Array Nat
  highs : Array Nat

namespace RangeTable

/-- Value of a lower-case hexadecimal digit. -/
def hexValue (digit : Char) : Nat :=
  if digit.isDigit then digit.toNat - '0'.toNat else digit.toNat - 'a'.toNat + 10

/-- Reader state: finished ranges, the pending lower bound and the digits read so far. -/
structure Reading where
  table : RangeTable
  low : Option Nat
  value : Option Nat

/-- Closes the range that is being read, if there is one. -/
def Reading.close (reading : Reading) : Reading :=
  match reading.value with
  | none => reading
  | some value =>
      { table :=
          { lows := reading.table.lows.push (reading.low.getD value)
            highs := reading.table.highs.push value }
        low := none
        value := none }

/-- One character of the written form. -/
def Reading.step (reading : Reading) (character : Char) : Reading :=
  if character = ' ' then reading.close
  else if character = '-' then { reading with low := reading.value, value := none }
  else { reading with value := some (reading.value.getD 0 * 16 + hexValue character) }

/-- The table that a list of written lines describes. -/
def ofLines (lines : List String) : RangeTable :=
  let start : Reading := { table := { lows := #[], highs := #[] }, low := none, value := none }
  (lines.foldl
    (fun (reading : Reading) (line : String) => (line.toList.foldl Reading.step reading).close)
    start).table

/-- The table of ranges in increasing order. -/
def ofRanges (ranges : List (Nat × Nat)) : RangeTable :=
  { lows := (ranges.map Prod.fst).toArray, highs := (ranges.map Prod.snd).toArray }

/-- The ranges of a table. -/
def ranges (table : RangeTable) : List (Nat × Nat) := table.lows.toList.zip table.highs.toList

/-- Searches the ranges with indices in `[low, high)` for one that contains `code`. -/
def search (table : RangeTable) (code : Nat) : Nat → Nat → Nat → Bool
  | 0, _, _ => false
  | fuel + 1, low, high =>
      if low < high then
        let middle := (low + high) / 2
        if code < table.lows.getD middle 0 then search table code fuel low middle
        else if table.highs.getD middle 0 < code then search table code fuel (middle + 1) high
        else true
      else false

/-- Membership of a code point. Forty halvings exhaust any table of code points. -/
def contains (table : RangeTable) (code : Nat) : Bool :=
  table.search code 40 0 table.lows.size

end RangeTable

end FunctionAtlas.Text
