import FunctionAtlas.Automaton.Table
import FunctionAtlas.Parse.Layout

/-!
Contract: parse trees as the parser builds them, hidden nodes included.

Every node carries a summary of its subtree: its extents, what it costs as a repair of a wrong
text, how many visible nodes it holds, and which scanner memory its last token left.

Owns: leaves, inner nodes, summaries, and the comparison of trees for the same text.

Does not own: the visible tree; see `FunctionAtlas.Parse.Visible`.
-/

namespace FunctionAtlas.Parse

open FunctionAtlas.Text
open FunctionAtlas.Automaton (Table)

/-! ## Costs of repairs -/

/-- Every place where the text is repaired. -/
def costPerRecovery : Nat := 500

/-- Every token that is put in. -/
def costPerMissing : Nat := 110

/-- Every node that is left out. -/
def costPerSkippedNode : Nat := 100

/-- Every line of text that is left out; every byte costs one. -/
def costPerSkippedLine : Nat := 30

/-! ## Trees -/

/-- The summary of a subtree. -/
structure Summary where
  symbol : Nat
  /-- The extent of the blanks before the node. -/
  padding : Extent
  size : Extent
  isVisible : Bool
  isNamed : Bool
  isExtra : Bool
  isMissing : Bool
  /-- Whether the token is spelled like a keyword. -/
  isKeyword : Bool
  /-- The state in which a token was read. -/
  parseState : Nat
  childCount : Nat
  visibleChildCount : Nat
  visibleDescendantCount : Nat
  errorCost : Nat
  dynamicPrecedence : Int
  /-- The shape of the production that made the node. -/
  shape : Nat
  /-- Scanner memory after a token that the layout scanner read. -/
  layout : Option Layout
  /-- Scanner memory after the last such token of the subtree. -/
  lastLayout : Option Layout
  changesLayout : Bool

/-- A parse tree. -/
inductive Subtree where
  | node (summary : Summary) (children : List Subtree)

namespace Subtree

def summary : Subtree → Summary
  | node summary _ => summary

def children : Subtree → List Subtree
  | node _ children => children

def symbol (tree : Subtree) : Nat := tree.summary.symbol

def isExtra (tree : Subtree) : Bool := tree.summary.isExtra

/-- Padding and size together. -/
def totalSize (tree : Subtree) : Extent := tree.summary.padding.add tree.summary.size

def isError (tree : Subtree) : Bool := tree.symbol = Table.errorSymbol

def isEnd (tree : Subtree) : Bool := tree.symbol = Table.endSymbol

/-- What the repairs in a subtree cost. -/
def errorCost (tree : Subtree) : Nat :=
  if tree.summary.isMissing then costPerMissing + costPerRecovery else tree.summary.errorCost

def dynamicPrecedence (tree : Subtree) : Int := tree.summary.dynamicPrecedence

/-- The same tree, marked as an extra or not. -/
def setExtra (tree : Subtree) (isExtra : Bool) : Subtree :=
  node { tree.summary with isExtra } tree.children

/-! ## Making trees -/

/-- Whether a symbol leaves a node in the tree, and whether this node has a name. -/
def visibility (table : Table) (symbol : Nat) : Bool × Bool :=
  if symbol = Table.errorSymbol then (true, true)
  else if symbol = Table.skippedSymbol then (false, false)
  else
    match table.symbols[symbol]? with
    | some info => (info.isVisible, info.isNamed)
    | none => (false, false)

/-- A token. -/
def leaf (table : Table) (symbol : Nat) (padding size : Extent) (parseState : Nat)
    (isKeyword : Bool) (layout : Option Layout) (changesLayout : Bool) : Subtree :=
  let (isVisible, isNamed) := visibility table symbol
  node
    { symbol, padding, size, isVisible, isNamed
      isExtra := symbol = Table.endSymbol
      isMissing := false
      isKeyword, parseState
      childCount := 0
      visibleChildCount := 0
      visibleDescendantCount := 0
      errorCost := 0
      dynamicPrecedence := 0
      shape := 0
      layout
      lastLayout := layout
      changesLayout }
    []

/-- A token that the text lacks. -/
def missingLeaf (table : Table) (symbol : Nat) : Subtree :=
  let made := leaf table symbol .zero .zero 0 false none false
  node { made.summary with isMissing := true } []

/-- The same token as another symbol. -/
def withSymbol (table : Table) (tree : Subtree) (symbol : Nat) : Subtree :=
  let (isVisible, isNamed) := visibility table symbol
  node { tree.summary with symbol, isVisible, isNamed } tree.children

/-- A summary under construction, with the position of the next child that is no extra. -/
structure Summing where
  summary : Summary
  position : Nat
  isFirst : Bool

/-- What one child contributes to the cost of a node that holds wrong text. -/
def skippedCost (child : Subtree) : Nat :=
  if child.isExtra || (child.isError && child.summary.childCount = 0) then 0
  else if child.summary.isVisible then costPerSkippedNode
  else if 0 < child.summary.childCount then costPerSkippedNode * child.summary.visibleChildCount
  else 0

/-- Adds one child to the summary of its parent. -/
def Summing.add (table : Table) (holdsError : Bool) (summing : Summing) (child : Subtree) :
    Summing :=
  let parent := summing.summary
  let inner := child.summary
  let isRenamed := !inner.isExtra && inner.symbol ≠ Table.endSymbol &&
    match table.shapes[parent.shape]? with
    | some shape => (shape.renames.getD summing.position none).isSome
    | none => false
  let (visibleChildren, visibleDescendants) :=
    if isRenamed || inner.isVisible then (1, 1)
    else if 0 < inner.childCount then (inner.visibleChildCount, 0)
    else (0, 0)
  let ownCost := if inner.symbol = Table.skippedSymbol then 0 else child.errorCost
  { summary :=
      { parent with
        padding := if summing.isFirst then inner.padding else parent.padding
        size := if summing.isFirst then inner.size else parent.size.add child.totalSize
        childCount := parent.childCount + 1
        errorCost := parent.errorCost + ownCost + (if holdsError then skippedCost child else 0)
        dynamicPrecedence := parent.dynamicPrecedence + inner.dynamicPrecedence
        visibleChildCount := parent.visibleChildCount + visibleChildren
        visibleDescendantCount :=
          parent.visibleDescendantCount + inner.visibleDescendantCount + visibleDescendants
        lastLayout := inner.lastLayout.or parent.lastLayout
        changesLayout := parent.changesLayout || inner.changesLayout }
    position := if inner.isExtra then summing.position else summing.position + 1
    isFirst := false }

/-- An inner node. -/
def make (table : Table) (symbol : Nat) (children : List Subtree) (shape : Nat) : Subtree :=
  let (isVisible, isNamed) := visibility table symbol
  let holdsError := symbol = Table.errorSymbol || symbol = Table.skippedSymbol
  let start : Summary :=
    { symbol
      padding := .zero
      size := .zero
      isVisible, isNamed
      isExtra := false
      isMissing := false
      isKeyword := false
      parseState := 0
      childCount := 0
      visibleChildCount := 0
      visibleDescendantCount := 0
      errorCost := 0
      dynamicPrecedence := 0
      shape
      layout := none
      lastLayout := none
      changesLayout := false }
  let summed := (children.foldl (Summing.add table holdsError) ⟨start, 0, true⟩).summary
  let summed :=
    if holdsError then
      { summed with
        errorCost := summed.errorCost + costPerRecovery + summed.size.bytes +
          costPerSkippedLine * summed.size.rows }
    else summed
  node summed children

/-- A node around wrong text. -/
def errorNode (table : Table) (children : List Subtree) (isExtra : Bool) : Subtree :=
  (make table Table.errorSymbol children 0).setExtra isExtra

/-- Adds the precedence of the production that made a node. -/
def addDynamicPrecedence (tree : Subtree) (value : Int) : Subtree :=
  node { tree.summary with dynamicPrecedence := tree.summary.dynamicPrecedence + value }
    tree.children

/-! ## Comparing trees -/

mutual

/-- Orders trees by symbol, then by number of children, then by the children in order. -/
def compareTrees : Subtree → Subtree → Ordering
  | node left lefts, node right rights =>
      match compare left.symbol right.symbol with
      | .eq =>
          match compare left.childCount right.childCount with
          | .eq => compareAll lefts rights
          | decided => decided
      | decided => decided

def compareAll : List Subtree → List Subtree → Ordering
  | [], _ => .eq
  | _ :: _, [] => .eq
  | left :: lefts, right :: rights =>
      match compareTrees left right with
      | .eq => compareAll lefts rights
      | decided => decided

end

/-- Whether the second of two trees for the same text is the better one: fewer repairs, then
higher precedence, then, if both are repaired, the later one, else the greater one. -/
def isWorseThan (left right : Subtree) : Bool :=
  if right.errorCost < left.errorCost then true
  else if left.errorCost < right.errorCost then false
  else if left.dynamicPrecedence < right.dynamicPrecedence then true
  else if right.dynamicPrecedence < left.dynamicPrecedence then false
  else if 0 < left.errorCost then true
  else compareTrees left right == .gt

/-- Splits off the extras at the end of a list of trees. -/
def splitTrailingExtras (trees : List Subtree) : List Subtree × List Subtree :=
  let reversed := trees.reverse
  ((reversed.dropWhile isExtra).reverse, (reversed.takeWhile isExtra).reverse)

end Subtree

end FunctionAtlas.Parse
