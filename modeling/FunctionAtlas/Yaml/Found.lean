import FunctionAtlas.Decimal.Binary64
import FunctionAtlas.Text.Quoted
import FunctionAtlas.Yaml.Document

/-!
Contract: what a scalar means.

A plain scalar is nothing, a truth value, a whole number, a floating point number or a text; a tag
can ask for one of these, and a quoted scalar is a text.

Owns: the meaning of scalars, and how values are named in faults.
-/

namespace FunctionAtlas.Yaml

/-- A value as faults describe it. -/
inductive Found where
  | unit
  | boolean (value : Bool)
  | integer (value : Int)
  | float (value : Decimal.Binary64)
  /-- A floating point number that is not finite. -/
  | infinite (name : String)
  | text (value : String)
  | sequence
  | mapping
deriving DecidableEq, Repr

/-- Whole numbers from these bounds on are described with the wider type that holds them. -/
def integerNote (value : Int) : String :=
  if 0x10000000000000000 ≤ value then " as u128"
  else if value < -0x8000000000000000 then " as i128" else ""

def Found.describe : Found → String
  | .unit => "unit value"
  | .boolean value => "boolean \x60" ++ (if value then "true" else "false") ++ "\x60"
  | .integer value => "integer \x60" ++ toString value ++ "\x60" ++ integerNote value
  | .float value => "floating point \x60" ++ value.display ++ "\x60"
  | .infinite name => "floating point \x60" ++ name ++ "\x60"
  | .text value => "string " ++ Text.Quoted.quote value
  | .sequence => "sequence"
  | .mapping => "map"

/-! ## Plain scalars -/

def isNull (text : String) : Bool :=
  text = "null" || text = "Null" || text = "NULL" || text = "~"

def boolean? (text : String) : Option Bool :=
  if text = "true" || text = "True" || text = "TRUE" then some true
  else if text = "false" || text = "False" || text = "FALSE" then some false
  else none

/-- The value of a digit in a base. -/
def digitValue? (base : Nat) (digit : Char) : Option Nat :=
  (hexValue? (some digit)).filter (· < base)

/-- The number that digits write in a base. -/
def number? (base : Nat) : List Char → Option Nat
  | [] => none
  | digits =>
      digits.foldl (fun value digit => do return (← value) * base + (← digitValue? base digit))
        (some 0)

/-- Several digits with a zero in front are no number. -/
def hasLeadingZero (characters : List Char) : Bool :=
  let digits := match characters with
    | '-' :: rest | '+' :: rest => rest
    | all => all
  match digits with
  | '0' :: rest => !rest.isEmpty && rest.all Char.isDigit
  | _ => false

/-- The number that comes after a mark of its base, or a decimal number. -/
def magnitude? (characters : List Char) (digits : List Char) : Option Nat :=
  let based := match digits with
    | '0' :: 'x' :: rest => number? 16 rest
    | '0' :: 'o' :: rest => number? 8 rest
    | '0' :: 'b' :: rest => number? 2 rest
    | _ => none
  match based with
  | some value => some value
  | none => if hasLeadingZero characters then none else number? 10 digits

/-- A whole number that is not negative. -/
def natural? (text : String) : Option Nat :=
  let characters := text.toList
  match characters with
  | '+' :: digits => magnitude? characters digits
  | digits => magnitude? characters digits

/-- A whole number of at most 128 bits. -/
def integer? (text : String) : Option Int :=
  match natural? text with
  | some value => if value < Nat.pow 2 128 then some value else none
  | none =>
      let characters := text.toList
      match characters with
      | '-' :: digits =>
          match magnitude? characters digits with
          | some value => if value ≤ Nat.pow 2 127 then some (-(value : Int)) else none
          | none => none
      | _ => none

/-- The value of an exponent mark with its digits, or nothing if there is no more. -/
def exponent? : List Char → Option Int
  | [] => some 0
  | mark :: rest =>
      if mark = 'e' || mark = 'E' then
        match rest with
        | '-' :: digits => (number? 10 digits).map fun value => -(value : Int)
        | '+' :: digits => (number? 10 digits).map fun value => (value : Int)
        | digits => (number? 10 digits).map fun value => (value : Int)
      else none

/-- A decimal number with an optional point and exponent, without a sign. -/
def unsignedFloat? (isNegative : Bool) (characters : List Char) : Option Decimal.Binary64 :=
  let whole := characters.takeWhile Char.isDigit
  let rest := characters.drop whole.length
  let (fraction, rest) := match rest with
    | '.' :: rest =>
        let fraction := rest.takeWhile Char.isDigit
        (fraction, rest.drop fraction.length)
    | rest => ([], rest)
  match number? 10 (whole ++ fraction), exponent? rest with
  | some digits, some exponent =>
      Decimal.Binary64.ofDecimal isNegative digits (exponent - fraction.length)
  | _, _ => none

/-- A finite floating point number. -/
def float? (text : String) : Option Decimal.Binary64 :=
  match text.toList with
  | '+' :: digits => unsignedFloat? false digits
  | '-' :: digits => unsignedFloat? true digits
  | digits => unsignedFloat? false digits

/-- The names of floating point numbers that are not finite. -/
def infinite? (text : String) : Option String :=
  if [".inf", ".Inf", ".INF", "+.inf", "+.Inf", "+.INF"].contains text then some "inf"
  else if ["-.inf", "-.Inf", "-.INF"].contains text then some "-inf"
  else if [".nan", ".NaN", ".NAN"].contains text then some "NaN"
  else none

/-- A floating point number. -/
def floating? (text : String) : Option Found :=
  match infinite? text with
  | some name => some (.infinite name)
  | none => (float? text).map .float

/-- What a plain scalar means. -/
def plainMeaning (text : String) : Found :=
  if text = "" || isNull text then .unit
  else
    match boolean? text, integer? text with
    | some value, _ => .boolean value
    | none, some value => .integer value
    | none, none =>
        if hasLeadingZero text.toList then .text text else (floating? text).getD (.text text)

/-! ## Tags -/

def nullTag : String := "tag:yaml.org,2002:null"
def booleanTag : String := "tag:yaml.org,2002:bool"
def integerTag : String := "tag:yaml.org,2002:int"
def floatTag : String := "tag:yaml.org,2002:float"

/-- What a scalar means, or what its tag asks for in vain. -/
def Scalar.meaning (scalar : Scalar) : Except String Found :=
  let text := scalar.text
  let need := fun (value : Option Found) (expected : String) =>
    match value with
    | some found => .ok found
    | none => .error expected
  match scalar.tag with
  | none => .ok (if scalar.style = .plain then plainMeaning text else .text text)
  | some tag =>
      if tag = booleanTag then need ((boolean? text).map .boolean) "a boolean"
      else if tag = integerTag then need ((integer? text).map .integer) "an integer"
      else if tag = floatTag then need (floating? text) "a float"
      else if tag = nullTag then need (if isNull text then some .unit else none) "null"
      else if tag.startsWith "!" && scalar.style = .plain then .ok (plainMeaning text)
      else .ok (.text text)

end FunctionAtlas.Yaml
