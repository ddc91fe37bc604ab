import FunctionAtlas.Parse.Parser
import FunctionAtlas.Syntax.Node

/-!
Contract: the syntax tree of a parse.

Hidden nodes give way to their children. A child takes the name and the field that the
production of its parent gives it; a child of a hidden node without a field of its own takes the
field of the hidden node.

Owns: the passage from parse trees to syntax trees.
-/

namespace FunctionAtlas.Parse

open FunctionAtlas.Text
open FunctionAtlas.Grammar (NodeName)
open FunctionAtlas.Automaton (Table)
open FunctionAtlas.Syntax

/-- The kind of a node, and whether it is a named one. -/
def shownName (table : Table) (summary : Summary) (rename : Option NodeName) : String × Bool :=
  match rename with
  | some name => (name.text, name.isNamed)
  | none =>
      if summary.symbol = Table.errorSymbol then ("ERROR", true)
      else
        match table.symbols[summary.symbol]? with
        | some info => (info.name, summary.isNamed)
        | none => ("", false)

def shownLabel (table : Table) (summary : Summary) (rename : Option NodeName)
    (field : Option String) (errorCost : Nat) (start : Extent) : Label :=
  let (kind, isNamed) := shownName table summary rename
  { kind, isNamed
    isExtra := summary.isExtra
    field
    defect :=
      if summary.isMissing then some .missing
      else if summary.symbol = Table.errorSymbol then some .unparsed
      else none
    hasError := 0 < errorCost
    start
    stop := start.add summary.size }

mutual

/-- The visible nodes of a tree that begins at a place. -/
def visibleNodes (table : Table) (rename : Option NodeName) (field : Option String)
    (start : Extent) : Subtree → List Node
  | .node summary children =>
      if summary.isVisible || rename.isSome then
        let label := shownLabel table summary rename field
          (Subtree.errorCost (.node summary [])) start
        [.mk label (visibleChildren table summary.shape none true 0 start children)]
      else visibleChildren table summary.shape field true 0 start children

/-- The visible nodes of the children of a node; `place` is where the last child ended and
`position` counts the children that are no extras. -/
def visibleChildren (table : Table) (shape : Nat) (outer : Option String) (isFirst : Bool)
    (position : Nat) (place : Extent) : List Subtree → List Node
  | [] => []
  | child :: rest =>
      let summary := child.summary
      let start := if isFirst then place else place.add summary.padding
      let stop := start.add summary.size
      let found := table.shapes[shape]?
      let rename :=
        if summary.isExtra then none else found.bind fun shape => shape.renames.getD position none
      let field :=
        if summary.isExtra then none
        else (found.bind fun shape => shape.fields.getD position none).or outer
      visibleNodes table rename field start child ++
        visibleChildren table shape outer false
          (if summary.isExtra then position else position + 1) stop rest

end

/-- The syntax tree of a text, if the parser made one. -/
def syntaxTree (table : Table) (source : Array Char) : Option Node :=
  (parse table source).bind fun tree =>
    (visibleNodes table none none tree.summary.padding tree).head?

end FunctionAtlas.Parse
