/-!
Contract: JSON values and their indented form.

Owns: values without fractions, escaping, and the layout with one member a line.
-/

namespace FunctionAtlas.Report

/-- A JSON value; the members of an object keep their order. -/
inductive Json where
  | null
  | boolean (value : Bool)
  | number (value : Nat)
  | text (value : String)
  | list (items : List Json)
  | object (members : List (String × Json))

namespace Json

def optionalText : Option String → Json
  | some value => .text value
  | none => .null

def texts (values : List String) : Json := .list (values.map .text)

/-- Two hexadecimal digits. -/
def hexPair (value : Nat) : String :=
  let digits := Nat.toDigits 16 value
  String.ofList (if digits.length < 2 then '0' :: digits else digits)

/-- A character inside a string. -/
def escape (character : Char) : String :=
  match character with
  | '"' => "\\\""
  | '\\' => "\\\\"
  | '\n' => "\\n"
  | '\r' => "\\r"
  | '\t' => "\\t"
  | '\x08' => "\\b"
  | '\x0c' => "\\f"
  | other => if other.toNat < 0x20 then "\\u00" ++ hexPair other.toNat else other.toString

def quote (text : String) : String := "\"" ++ String.join (text.toList.map escape) ++ "\""

/-- The blanks at the start of a line. -/
def margin (depth : Nat) : String := String.ofList (List.replicate (2 * depth) ' ')

/-- Items one a line between brackets. -/
def bracketed (opening closing : String) (depth : Nat) (items : List String) : String :=
  if items.isEmpty then opening ++ closing
  else
    opening ++ "\n" ++
      String.intercalate ",\n" (items.map fun item => margin (depth + 1) ++ item) ++
      "\n" ++ margin depth ++ closing

mutual

/-- The indented form of a value at a depth. -/
def prettyAt (depth : Nat) : Json → String
  | .null => "null"
  | .boolean value => if value then "true" else "false"
  | .number value => toString value
  | .text value => quote value
  | .list items => bracketed "[" "]" depth (prettyItems (depth + 1) items)
  | .object members => bracketed "\x7b" "\x7d" depth (prettyMembers (depth + 1) members)

def prettyItems (depth : Nat) : List Json → List String
  | [] => []
  | item :: items => prettyAt depth item :: prettyItems depth items

def prettyMembers (depth : Nat) : List (String × Json) → List String
  | [] => []
  | (name, value) :: members =>
      (quote name ++ ": " ++ prettyAt depth value) :: prettyMembers depth members

end

/-- The indented form of a value. -/
def pretty (value : Json) : String := prettyAt 0 value

end Json

end FunctionAtlas.Report
