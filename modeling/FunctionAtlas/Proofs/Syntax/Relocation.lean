import FunctionAtlas.Proofs.Syntax.Placement

/-!
Contract: the tree of a node in the text that is the node's own.

Where all before a node and after it is cut off, the places in its tree move by where it began, and
nothing else changes: the nodes have the same kinds, the same fields and the same texts.

Owns: moved trees, and how children and texts are found in them.
-/

namespace FunctionAtlas.Syntax

open FunctionAtlas.Text

/-- The label in a text that begins at a place of the old one. -/
def Label.relocate (origin : Extent) (label : Label) : Label :=
  { label with start := label.start.sub origin, stop := label.stop.sub origin }

namespace Node

mutual

/-- The tree in a text that begins at a place of the old one. -/
def relocate (origin : Extent) : Node → Node
  | .mk label children => .mk (label.relocate origin) (relocateAll origin children)

def relocateAll (origin : Extent) : List Node → List Node
  | [] => []
  | node :: rest => node.relocate origin :: relocateAll origin rest

end

/-- The second node has the place of the first one in a moved tree. The root of such a tree can be
in another field than before. -/
structure Follows (origin : Extent) (node moved : Node) : Prop where
  kind : moved.kind = node.kind
  isNamed : moved.isNamed = node.isNamed
  start : moved.label.start = node.label.start.sub origin
  stop : moved.label.stop = node.label.stop.sub origin
  children : moved.children = node.children.map (relocate origin)

/-- A node at the beginning of a text, in no field. -/
def alone (node : Node) : Node :=
  .mk { node.label.relocate node.label.start with field := none }
    (node.children.map (relocate node.label.start))

/-- The tree of a module that holds a node and nothing else. -/
def standalone (node : Node) : Node :=
  .mk
    { kind := "module"
      isNamed := true
      isExtra := false
      field := none
      defect := none
      hasError := false
      start := node.alone.label.start
      stop := node.alone.label.stop }
    [node.alone]

theorem follows_alone (node : Node) : Follows node.label.start node node.alone :=
  ⟨rfl, rfl, rfl, rfl, rfl⟩

section Children

variable {origin : Extent}

theorem relocateAll_eq_map (nodes : List Node) :
    relocateAll origin nodes = nodes.map (relocate origin) := by
  induction nodes with
  | nil => rfl
  | cons node rest inductionHypothesis => rw [relocateAll, inductionHypothesis, List.map_cons]

@[simp] theorem relocate_mk (label : Label) (children : List Node) :
    (Node.mk label children).relocate origin =
      .mk (label.relocate origin) (children.map (relocate origin)) := by
  rw [relocate, relocateAll_eq_map]

@[simp] theorem label_relocate (node : Node) :
    (node.relocate origin).label = node.label.relocate origin := by
  cases node
  rw [relocate]
  rfl

@[simp] theorem kind_relocate (node : Node) : (node.relocate origin).kind = node.kind := by
  rw [kind, label_relocate]
  rfl

@[simp] theorem isNamed_relocate (node : Node) : (node.relocate origin).isNamed = node.isNamed := by
  rw [isNamed, label_relocate]
  rfl

@[simp] theorem isExtra_relocate (node : Node) : (node.relocate origin).isExtra = node.isExtra := by
  rw [isExtra, label_relocate]
  rfl

theorem follows_relocate (node : Node) : Follows origin node (node.relocate origin) := by
  cases node
  rw [relocate_mk]
  exact ⟨rfl, rfl, rfl, rfl, rfl⟩

theorem preorder_relocate (node : Node) :
    (node.relocate origin).preorder = node.preorder.map (relocate origin) := by
  induction node using Node.induction with
  | step label children inductionHypothesis =>
      rw [relocate_mk, preorder_mk, preorder_mk, List.map_cons, relocate_mk, List.flatMap_map,
        List.map_flatMap]
      congr 1
      exact List.flatMap_congr inductionHypothesis

variable {node moved : Node} (follows : Follows origin node moved)

include follows

theorem Follows.namedChildren : moved.namedChildren = node.namedChildren.map (relocate origin) := by
  rw [Node.namedChildren, follows.children, List.filter_map, Node.namedChildren]
  congr 2
  exact funext fun child => isNamed_relocate child

theorem Follows.parts : moved.parts = node.parts.map (relocate origin) := by
  rw [Node.parts, follows.namedChildren, List.filter_map, Node.parts]
  congr 2
  exact funext fun child => congrArg _ (isExtra_relocate child)

theorem Follows.childByField (name : String) :
    moved.childByField name = (node.childByField name).map (relocate origin) := by
  rw [Node.childByField, follows.children, List.find?_map, Node.childByField]
  congr 2
  funext child
  rw [Function.comp_apply, label_relocate]
  rfl

/-- Every node of a moved tree has the place of a node. -/
theorem Follows.exists_of_mem {inner : Node} (member : inner ∈ moved.preorder) :
    ∃ original ∈ node.preorder, Follows origin original inner := by
  obtain ⟨label, children⟩ := moved
  rw [preorder_mk] at member
  rcases List.mem_cons.mp member with rfl | isBelow
  · exact ⟨node, node.self_mem_preorder, follows⟩
  · have isMoved : children = node.children.map (relocate origin) := follows.children
    rw [isMoved, List.flatMap_map] at isBelow
    obtain ⟨child, isChild, isInside⟩ := List.mem_flatMap.mp isBelow
    rw [preorder_relocate] at isInside
    obtain ⟨original, isOriginal, rfl⟩ := List.mem_map.mp isInside
    have inTree := mem_preorder_of_mem_children node.self_mem_preorder isChild
    exact ⟨original, mem_preorder_trans inTree isOriginal, follows_relocate original⟩

theorem KindStandsNamed.relocate {kind : String} (standsNamed : KindStandsNamed kind node) :
    KindStandsNamed kind moved := by
  intro token isToken anonymous inner isInside
  obtain ⟨original, isOriginal, ofToken⟩ := follows.exists_of_mem isToken
  obtain ⟨originalInner, isInner, ofInner⟩ := ofToken.exists_of_mem isInside
  rw [ofInner.kind]
  exact standsNamed original isOriginal (ofToken.isNamed ▸ anonymous) originalInner isInner

end Children

end Node

/-! ## Texts -/

open Node

variable {source : Array Char} {root node : Node}

/-- What is read of a node in the text of a node around it is what is read of it in place. -/
theorem textOf_relocate (placed : Placed source root) (member : node ∈ root.preorder)
    {inner : Node} (isInside : inner ∈ node.preorder) {label : Label}
    (start : label.start = inner.label.start.sub node.label.start)
    (stop : label.stop = inner.label.stop.sub node.label.start) :
    textOf (textOf source node.label).toList.toArray label = textOf source inner.label := by
  obtain ⟨after, before⟩ := (placed.nested.of_mem member).bounds isInside
  obtain ⟨-, -, ordered⟩ := placed.places inner (mem_preorder_trans member isInside)
  have cut : (textOf source node.label).toList.toArray =
      source.extract node.label.start.chars node.label.stop.chars := by
    rw [textOf, String.toList_ofList]
  rw [cut, textOf, textOf, start, stop, Array.extract_extract]
  have beginsAt : node.label.start.chars + (inner.label.start.sub node.label.start).chars =
      inner.label.start.chars := Nat.add_sub_cancel' after
  have endsAt : min (node.label.start.chars + (inner.label.stop.sub node.label.start).chars)
      node.label.stop.chars = inner.label.stop.chars := by
    rw [Nat.min_eq_left] <;> simp only [Extent.sub] <;> omega
  rw [beginsAt, endsAt]

end FunctionAtlas.Syntax
