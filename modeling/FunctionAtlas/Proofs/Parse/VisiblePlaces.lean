import FunctionAtlas.Parse.Visible
import FunctionAtlas.Proofs.Parse.Covering
import FunctionAtlas.Proofs.Syntax.Placement

/-!
Contract: the syntax tree of a parse tree lies where the parse tree lies.

Hidden nodes give way to their children, which cover the same part of the text. So what is shown of
a row of trees that cover a part of the text is a row of placed nodes in that part.

Owns: the places of shown nodes.
-/

namespace FunctionAtlas.Parse

open FunctionAtlas.Automaton (Table)
open FunctionAtlas.Grammar (NodeName)
open FunctionAtlas.Parse.Subtree
open FunctionAtlas.Syntax
open FunctionAtlas.Syntax.Node
open FunctionAtlas.Text

/-- Placed nodes between two places, one after the other. -/
structure PlacedBetween (source : Array Char) (start stop : Extent) (nodes : List Node) :
    Prop where
  placed : ∀ node ∈ nodes, Placed source node
  within : ∀ node ∈ nodes, start.chars ≤ node.label.start.chars ∧
    node.label.stop.chars ≤ stop.chars
  ordered : nodes.Pairwise fun first second =>
    first.label.stop.chars ≤ second.label.start.chars

section Rows

variable {source : Array Char} {start middle stop : Extent}

theorem placedBetween_nil : PlacedBetween source start stop [] := ⟨by simp, by simp, .nil⟩

theorem PlacedBetween.append {front back : List Node}
    (placedFront : PlacedBetween source start middle front)
    (placedBack : PlacedBetween source middle stop back) (startsFirst : start.chars ≤ middle.chars)
    (stopsLast : middle.chars ≤ stop.chars) :
    PlacedBetween source start stop (front ++ back) where
  placed node member := by
    rcases List.mem_append.mp member with isFront | isBack
    · exact placedFront.placed node isFront
    · exact placedBack.placed node isBack
  within node member := by
    rcases List.mem_append.mp member with isFront | isBack
    · have bounds := placedFront.within node isFront
      omega
    · have bounds := placedBack.within node isBack
      omega
  ordered := by
    refine List.pairwise_append.mpr ⟨placedFront.ordered, placedBack.ordered, ?_⟩
    intro first isFirst second isSecond
    have firstBounds := placedFront.within first isFirst
    have secondBounds := placedBack.within second isSecond
    omega

theorem PlacedBetween.mono {nodes : List Node} (placed : PlacedBetween source middle stop nodes)
    (startsFirst : start.chars ≤ middle.chars) : PlacedBetween source start stop nodes where
  placed := placed.placed
  within node member := ⟨Nat.le_trans startsFirst (placed.within node member).1,
    (placed.within node member).2⟩
  ordered := placed.ordered

/-- A node around placed nodes. -/
theorem placed_mk {label : Label} {children : List Node} (isStart : IsPlace source label.start)
    (isStop : IsPlace source label.stop) (ordered : label.start.chars ≤ label.stop.chars)
    (row : PlacedBetween source label.start label.stop children) :
    Placed source (.mk label children) where
  places node member := by
    rw [preorder_mk] at member
    rcases List.mem_cons.mp member with rfl | isBelow
    · exact ⟨isStart, isStop, ordered⟩
    · obtain ⟨child, isChild, isInside⟩ := List.mem_flatMap.mp isBelow
      exact (row.placed child isChild).places node isInside
  nested :=
    { within := by
        intro node member
        rw [preorder_mk] at member
        rcases List.mem_cons.mp member with rfl | isBelow
        · exact row.within
        · obtain ⟨child, isChild, isInside⟩ := List.mem_flatMap.mp isBelow
          exact (row.placed child isChild).nested.within node isInside
      ordered := by
        intro node member
        rw [preorder_mk] at member
        rcases List.mem_cons.mp member with rfl | isBelow
        · exact row.ordered
        · obtain ⟨child, isChild, isInside⟩ := List.mem_flatMap.mp isBelow
          exact (row.placed child isChild).nested.ordered node isInside }

theorem placedBetween_singleton {label : Label} {children : List Node}
    (starts : label.start = start) (stops : label.stop = stop) (isStart : IsPlace source start)
    (isStop : IsPlace source stop) (ordered : start.chars ≤ stop.chars)
    (row : PlacedBetween source start stop children) :
    PlacedBetween source start stop [.mk label children] := by
  subst starts stops
  exact
    { placed := List.forall_mem_singleton.mpr (placed_mk isStart isStop ordered row)
      within := List.forall_mem_singleton.mpr ⟨Nat.le_refl _, Nat.le_refl _⟩
      ordered := List.pairwise_singleton _ _ }

end Rows

section Shown

variable {source : Array Char} {table : Table} {origin stop : Extent}

theorem chars_le_add (place more : Extent) : place.chars ≤ (place.add more).chars :=
  Nat.le_add_right _ _

/-- A tree shows what lies between its beginning and its end. -/
def ShowsPlaced (source : Array Char) (table : Table) (tree : Subtree) : Prop :=
  ∀ (origin : Extent) (rename : Option NodeName) (field : Option String),
    Covers source origin tree →
      PlacedBetween source (origin.add tree.summary.padding) (origin.add tree.totalSize)
        (visibleNodes table rename field (origin.add tree.summary.padding) tree)

/-- What is shown of trees in a row lies between their beginning and their end. -/
theorem placedBetween_visibleChildren {children : List Subtree}
    (shows : ∀ child ∈ children, ShowsPlaced source table child) {shape : Nat}
    {outer : Option String} {position : Nat}
    (cover : CoverBetween source origin stop children) :
    PlacedBetween source origin stop
      (visibleChildren table shape outer false position origin children) := by
  induction children generalizing origin position with
  | nil =>
      rw [visibleChildren]
      exact placedBetween_nil
  | cons child rest inductionHypothesis =>
      obtain ⟨showsFirst, showsRest⟩ := List.forall_mem_cons.mp shows
      have toStop : (origin.add child.summary.padding).add child.summary.size =
          origin.add child.totalSize := Extent.add_assoc _ _ _
      rw [visibleChildren]
      simp only [Bool.false_eq_true, if_false, toStop]
      exact ((showsFirst origin _ _ cover.1).mono (chars_le_add _ _)).append
        (inductionHypothesis showsRest cover.2) (chars_le_add _ _) cover.2.chars_le

/-- A tree shows what lies between its beginning and its end. -/
theorem showsPlaced (source : Array Char) (table : Table) (tree : Subtree) :
    ShowsPlaced source table tree := by
  induction tree using Subtree.induction with
  | step summary children inductionHypothesis =>
      intro origin rename field covers
      obtain ⟨-, isStart, isStop, inner⟩ := covers
      have inside : ∀ outer, PlacedBetween source (origin.add summary.padding)
          (origin.add (node summary children).totalSize)
          (visibleChildren table summary.shape outer true 0 (origin.add summary.padding)
            children) := by
        intro outer
        rcases inner with isLeaf | ⟨samePadding, cover⟩
        · rw [isLeaf, visibleChildren]
          exact placedBetween_nil
        · cases children with
          | nil =>
              rw [visibleChildren]
              exact placedBetween_nil
          | cons child rest =>
              -- The first child begins where its parent begins.
              have isPadding : child.summary.padding = summary.padding := by
                simpa using samePadding
              have toStop : (origin.add summary.padding).add child.summary.size =
                  origin.add child.totalSize := by
                rw [← isPadding]
                exact Extent.add_assoc _ _ _
              obtain ⟨showsFirst, showsRest⟩ := List.forall_mem_cons.mp inductionHypothesis
              rw [visibleChildren]
              simp only [if_true, toStop]
              rw [← isPadding]
              refine (showsFirst origin _ _ cover.1).append
                (placedBetween_visibleChildren showsRest cover.2) ?_ cover.2.chars_le
              rw [totalSize, ← Extent.add_assoc]
              exact chars_le_add _ _
      rw [visibleNodes]
      split_ifs
      · have toStop : (origin.add summary.padding).add summary.size =
            origin.add (node summary children).totalSize := Extent.add_assoc _ _ _
        have ordered : (origin.add summary.padding).chars ≤
            (origin.add (node summary children).totalSize).chars := by
          rw [← toStop]
          exact chars_le_add _ _
        exact placedBetween_singleton rfl toStop isStart isStop ordered (inside none)
      · exact inside field

/-- The syntax tree of a parse tree that covers the text from its beginning is placed. -/
theorem placed_of_covers {tree : Subtree} (covers : Covers source .zero tree) {root : Node}
    (shown : (visibleNodes table none none tree.summary.padding tree).head? = some root) :
    Placed source root := by
  have row := showsPlaced source table tree .zero none none covers
  rw [Extent.zero_add] at row
  exact row.placed root (List.mem_of_head? shown)

end Shown

end FunctionAtlas.Parse
