import FunctionAtlas.Text.Extent

/-!
Contract: syntax trees.

A node has a kind, the field of its parent that it fills, the part of the text that it covers,
and children. Anonymous nodes are tokens such as operators; their kind is their text. Extras
(comments and joined lines) can stand between any two children.

Owns: the tree type and the ways to look at children.

Does not own: how trees come about; see `FunctionAtlas.Parse`.
-/

namespace FunctionAtlas.Syntax

open FunctionAtlas.Text

/-- What is wrong with a node. -/
inductive Defect where
  /-- The text lacks this token. -/
  | missing
  /-- The text here could not be parsed. -/
  | unparsed
deriving DecidableEq, Repr

/-- A node without its children. -/
structure Label where
  kind : String
  isNamed : Bool
  isExtra : Bool
  field : Option String
  defect : Option Defect
  /-- Whether the text of the node needed a repair anywhere. -/
  hasError : Bool
  start : Extent
  stop : Extent
deriving DecidableEq, Repr

/-- A syntax tree. -/
inductive Node where
  | mk (label : Label) (children : List Node)

namespace Node

def label : Node → Label
  | mk label _ => label

def children : Node → List Node
  | mk _ children => children

def kind (node : Node) : String := node.label.kind

def isNamed (node : Node) : Bool := node.label.isNamed

def isExtra (node : Node) : Bool := node.label.isExtra

def namedChildren (node : Node) : List Node := node.children.filter isNamed

/-- The first child that fills a field. -/
def childByField (node : Node) (name : String) : Option Node :=
  node.children.find? fun child => child.label.field = some name

/-- The named children that are no extras. -/
def parts (node : Node) : List Node := node.namedChildren.filter fun child => !child.isExtra

end Node

/-- The text that a node covers. -/
def textOf (source : Array Char) (label : Label) : String :=
  String.ofList (source.extract label.start.chars label.stop.chars).toList

end FunctionAtlas.Syntax
