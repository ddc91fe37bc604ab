import FunctionAtlas.Syntax.Node
import FunctionAtlas.Text.Quoted

/-!
Contract: syntax trees as text.

A node is written as its kind with its fields, its flags, its other named children and its
position. The order of fields comes from a table, not from the tree, so that trees of the same
shape are written alike. Extras are left out, and so is punctuation, which the kind implies.

Owns: the field table, the flag table and the written form.
-/

namespace FunctionAtlas.Syntax.Dump

open FunctionAtlas.Text

/-- The version of the written form. -/
def formatVersion : Nat := 2

/-- A place for children in the written form of a kind. -/
structure Slot where
  name : String
  /-- Written as a list even with one node or none. -/
  isRepeated : Bool
deriving DecidableEq, Repr

private def one (name : String) : Slot := ⟨name, false⟩

private def many (name : String) : Slot := ⟨name, true⟩

/-- The fields of the kinds that always write all of them. -/
def slotTable : List (String × List Slot) :=
  [ ("function_definition",
      [one "name", one "type_parameters", one "parameters", one "return_type", one "body"])
  , ("class_definition",
      [one "name", one "type_parameters", one "superclasses", one "body"])
  , ("decorated_definition", [one "definition"])
  , ("default_parameter", [one "name", one "value"])
  , ("typed_parameter", [one "type"])
  , ("typed_default_parameter", [one "name", one "type", one "value"])
  , ("lambda", [one "parameters", one "body"])
  , ("if_statement", [one "condition", one "consequence", many "alternative"])
  , ("elif_clause", [one "condition", one "consequence"])
  , ("else_clause", [one "body"])
  , ("for_statement", [one "left", one "right", one "body", one "alternative"])
  , ("while_statement", [one "condition", one "body", one "alternative"])
  , ("try_statement", [one "body"])
  , ("with_statement", [one "body"])
  , ("assignment", [one "left", one "type", one "right"])
  , ("augmented_assignment", [one "left", one "operator", one "right"])
  , ("binary_operator", [one "left", one "operator", one "right"])
  , ("boolean_operator", [one "left", one "operator", one "right"])
  , ("comparison_operator", [many "operators"])
  , ("unary_operator", [one "operator", one "argument"])
  , ("not_operator", [one "argument"])
  , ("named_expression", [one "name", one "value"])
  , ("call", [one "function", one "arguments"])
  , ("attribute", [one "object", one "attribute"])
  , ("subscript", [one "value", many "subscript"])
  , ("keyword_argument", [one "name", one "value"])
  , ("pair", [one "key", one "value"])
  , ("import_statement", [many "name"])
  , ("import_from_statement", [one "module_name", many "name"]) ]

/-- Keywords that change what a node means, by kind. -/
def flagTable : List (String × List String) :=
  [ ("function_definition", ["async"])
  , ("for_statement", ["async"])
  , ("with_statement", ["async"])
  , ("for_in_clause", ["async"])
  , ("yield", ["from"]) ]

/-- The fields of a kind, if the table has it. -/
def slotsOf (kind : String) : Option (List Slot) :=
  (slotTable.find? (·.1 = kind)).map (·.2)

/-- The keywords that are written as flags of a kind. -/
def flagsOf (kind : String) : List String :=
  ((flagTable.find? (·.1 = kind)).map (·.2)).getD []

/-- A child with its written form. -/
structure Written where
  label : Label
  text : String

/-- The children of a node, sorted by their role. -/
structure Roles where
  /-- Fields in order of first appearance. -/
  fields : List (String × List String)
  /-- Named children without a field. -/
  others : List String
  /-- Kinds of tokens without a field. -/
  keywords : List String

/-- Adds a written child to its field. -/
def addToField (name text : String) : List (String × List String) → List (String × List String)
  | [] => [(name, [text])]
  | (known, texts) :: rest =>
      if known = name then (known, texts ++ [text]) :: rest
      else (known, texts) :: addToField name text rest

/-- Sorts one child. Extras have no role. -/
def Roles.add (roles : Roles) (child : Written) : Roles :=
  if child.label.isExtra then roles
  else
    match child.label.field with
    | some name => { roles with fields := addToField name child.text roles.fields }
    | none =>
        if child.label.isNamed then { roles with others := roles.others ++ [child.text] }
        else { roles with keywords := roles.keywords ++ [child.label.kind] }

def rolesOf (children : List Written) : Roles := children.foldl Roles.add ⟨[], [], []⟩

/-- Where a node stands: lines count from one, columns from zero. -/
def position (label : Label) : String :=
  "lineno=" ++ toString (label.start.rows + 1) ++
  ", col_offset=" ++ toString label.start.column ++
  ", end_lineno=" ++ toString (label.stop.rows + 1) ++
  ", end_col_offset=" ++ toString label.stop.column

/-- Texts between brackets with commas. -/
def writeList (texts : List String) : String := "[" ++ String.intercalate ", " texts ++ "]"

/-- A field with its name. -/
def writeField (name : String) (texts : List String) (isRepeated : Bool) : String :=
  name ++ "=" ++
  (match texts with
  | [] => if isRepeated then "[]" else "None"
  | [single] => if isRepeated then writeList [single] else single
  | several => writeList several) ++ ", "

/-- What stands between the parentheses of a node with children or flags, before its position. -/
def writeRoles (kind : String) (roles : Roles) : String :=
  let slots := (slotsOf kind).getD []
  let listed := slots.map fun slot =>
    writeField slot.name ((roles.fields.lookup slot.name).getD []) slot.isRepeated
  let unlisted := (roles.fields.filter fun field => slots.all (·.name ≠ field.1)).map
    fun field => writeField field.1 field.2 false
  let flags := (flagsOf kind).map fun keyword =>
    keyword ++ "=" ++ (if roles.keywords.contains keyword then "True" else "False") ++ ", "
  let others :=
    if roles.others.isEmpty then [] else ["children=", writeList roles.others, ", "]
  String.join (listed ++ unlisted ++ flags ++ others)

/-- The written form of a node, given those of its children. Tokens are written as their text. -/
def assemble (source : Array Char) (label : Label) (children : List Written) : String :=
  let text := Quoted.quote (textOf source label)
  if !label.isNamed then text
  else
    let roles := rolesOf children
    let inside :=
      if roles.fields.isEmpty && roles.others.isEmpty && (flagsOf label.kind).isEmpty then
        text ++ ", "
      else writeRoles label.kind roles
    label.kind ++ "(" ++ inside ++ position label ++ ")"

mutual

/-- The written form of a tree. -/
def dump (source : Array Char) : Node → String
  | .mk label children => assemble source label (dumpAll source children)

/-- The written forms of several trees. -/
def dumpAll (source : Array Char) : List Node → List Written
  | [] => []
  | node :: rest => ⟨node.label, dump source node⟩ :: dumpAll source rest

end

end FunctionAtlas.Syntax.Dump
