import FunctionAtlas.Docstring.Clean
import FunctionAtlas.Docstring.Literal
import FunctionAtlas.Syntax.Node

/-!
Contract: the docstring of a function body.

A body has a docstring if its first statement is an expression that consists of one plain string
literal, possibly of several literals in a row and possibly in parentheses.

Owns: the search for the literal.
-/

namespace FunctionAtlas.Docstring

open FunctionAtlas.Syntax

/-- The expression inside any number of parentheses. -/
def unwrapParentheses : Node → Node
  | .mk label children =>
      if label.kind = "parenthesized_expression" then
        match children.attach.filter fun child => child.val.isNamed && !child.val.isExtra with
        | [only] =>
            have : sizeOf only.val < 1 + sizeOf label + sizeOf children :=
              Nat.lt_of_lt_of_le (List.sizeOf_lt_of_mem only.property) (Nat.le_add_left _ _)
            unwrapParentheses only.val
        | _ => .mk label children
      else .mk label children

/-- The value of a row of literals, if all of them are plain strings. -/
def joinedValue (source : Array Char) : List Node → Except LiteralFault (Option String)
  | [] => .ok (some "")
  | part :: rest =>
      if part.kind ≠ "string" then .ok none
      else
        match decode (textOf source part.label) with
        | .error fault => .error fault
        | .ok none => .ok none
        | .ok (some value) =>
            (joinedValue source rest).map fun joined => joined.map fun tail => value ++ tail

/-- The value of an expression that is a string literal. -/
def literalValue (source : Array Char) (node : Node) : Except LiteralFault (Option String) :=
  if node.kind = "string" then decode (textOf source node.label)
  else if node.kind = "concatenated_string" then joinedValue source node.parts
  else .ok none

/-- The docstring of a body, cleaned. -/
def ofBody (source : Array Char) (body : Node) : Except LiteralFault (Option String) :=
  match body.parts.head? with
  | none => .ok none
  | some first =>
      if first.kind ≠ "expression_statement" then .ok none
      else
        match first.parts with
        | [expression] =>
            (literalValue source (unwrapParentheses expression)).map fun value =>
              value.map clean
        | _ => .ok none

end FunctionAtlas.Docstring
