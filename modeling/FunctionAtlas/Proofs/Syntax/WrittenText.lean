import FunctionAtlas.Proofs.Syntax.UniqueReading

/-!
Contract: which parts of the text the written form of a tree takes in.

The written form copies the text of a token in a field and of a node without shown children, and
nothing else of the text. So over two texts a tree is written alike if and only if these nodes
cover the same in both. Where children lie inside their parents, one after the other, two nodes
that cover the same place lie one inside the other.

Owns: the nodes that are written by their text, and the places of nodes.
-/

namespace FunctionAtlas.Syntax

open FunctionAtlas.Syntax.Dump

/-! ## Nodes that are written by their text -/

namespace Node

/-- The children that have a place in the written form. -/
def shown (node : Node) : List Node :=
  node.solid.filter fun child => child.label.field.isSome || child.isNamed

theorem mem_shown_iff {node child : Node} :
    child ∈ node.shown ↔ child ∈ node.loose ∨ ∃ name, child ∈ node.filling name := by
  simp only [shown, mem_loose_iff, mem_filling_iff, List.mem_filter]
  cases child.label.field with
  | none => simp
  | some name => simp

mutual

/-- The nodes inside a tree whose text is part of the written form. -/
def writtenByText : Node → List Node
  | .mk label children =>
      if !label.isNamed || (Node.mk label children).isShownByText then [.mk label children]
      else writtenByTextIn children

def writtenByTextIn : List Node → List Node
  | [] => []
  | child :: rest =>
      if !child.isExtra && (child.label.field.isSome || child.isNamed) then
        child.writtenByText ++ writtenByTextIn rest
      else writtenByTextIn rest

end

theorem writtenByTextIn_eq_flatMap (children : List Node) :
    writtenByTextIn children =
      (children.filter fun child =>
        !child.isExtra && (child.label.field.isSome || child.isNamed)).flatMap writtenByText := by
  induction children with
  | nil => simp [writtenByTextIn]
  | cons child rest inductionHypothesis =>
      rw [writtenByTextIn, List.filter_cons, inductionHypothesis]
      split <;> simp

theorem writtenByText_of_anonymous {node : Node} (anonymous : node.isNamed = false) :
    node.writtenByText = [node] := by
  obtain ⟨label, children⟩ := node
  have isToken : label.isNamed = false := anonymous
  simp [writtenByText, isToken]

theorem writtenByText_of_named {node : Node} (named : node.isNamed = true) :
    node.writtenByText =
      if node.isShownByText then [node] else node.shown.flatMap writtenByText := by
  obtain ⟨label, children⟩ := node
  have isNamed : label.isNamed = true := named
  rw [writtenByText, writtenByTextIn_eq_flatMap, shown, solid, List.filter_filter]
  simp only [isNamed, Bool.not_true, Bool.false_or, Bool.and_comm]
  rfl

/-- A node that is shown by its text has tokens without a field only. -/
theorem tokens_of_isShownByText {node : Node} (byText : node.isShownByText = true) :
    ∀ child ∈ node.solid, child.label.field = none ∧ child.isNamed = false := by
  obtain ⟨noField, noLoose, -⟩ := isShownByText_iff.mp byText
  intro child isSolid
  cases inField : child.label.field with
  | some name =>
      have isName := mem_fieldNames_iff.mpr ⟨child, isSolid, inField⟩
      rw [noField] at isName
      exact absurd isName List.not_mem_nil
  | none =>
      refine ⟨rfl, ?_⟩
      cases named : child.isNamed with
      | false => rfl
      | true =>
          have isLoose := mem_loose_iff.mpr ⟨isSolid, inField, named⟩
          rw [noLoose] at isLoose
          exact absurd isLoose List.not_mem_nil

/-- Nodes that are written by their text are inside the tree, they are no extras, and they are
tokens or shown by their text. -/
theorem of_mem_writtenByText {node leaf : Node} (member : leaf ∈ node.writtenByText) :
    leaf ∈ node.preorder ∧ (leaf = node ∨ leaf.isExtra = false) ∧
      (leaf.isNamed = false ∨ leaf.isShownByText = true) := by
  induction node using Node.induction with
  | step label children inductionHypothesis =>
      generalize whole : Node.mk label children = node at *
      cases named : node.isNamed with
      | false =>
          rw [writtenByText_of_anonymous named, List.mem_singleton] at member
          subst member
          exact ⟨leaf.self_mem_preorder, .inl rfl, .inl named⟩
      | true =>
          rw [writtenByText_of_named named] at member
          split at member
          next byText =>
            rw [List.mem_singleton] at member
            subst member
            exact ⟨leaf.self_mem_preorder, .inl rfl, .inr byText⟩
          next =>
            obtain ⟨child, isShown, inside⟩ := List.mem_flatMap.mp member
            obtain ⟨isChild, notExtra⟩ := mem_solid_iff.mp (List.mem_filter.mp isShown).1
            have isMember : child ∈ children := by
              rw [← whole] at isChild
              exact isChild
            obtain ⟨isInside, isChildOrSolid, ofForm⟩ :=
              inductionHypothesis child isMember inside
            refine ⟨whole ▸ mem_preorder_of_child isMember isInside, .inr ?_, ofForm⟩
            rcases isChildOrSolid with rfl | isSolid
            · exact notExtra
            · exact isSolid

end Node

open Node

/-- Over two texts, a tree shows the same if the nodes that are written by their text cover the
same in both. -/
theorem sameShown_self_iff {source otherSource : Array Char} {node : Node} :
    SameShown source otherSource node node ↔
      ∀ leaf ∈ node.writtenByText,
        textOf source leaf.label = textOf otherSource leaf.label := by
  induction node using Node.induction with
  | step label children inductionHypothesis =>
      generalize whole : Node.mk label children = node at *
      have isChild : ∀ child ∈ node.solid, child ∈ children := by
        intro child isSolid
        rw [← whole] at isSolid
        exact (mem_solid_iff.mp isSolid).1
      cases named : node.isNamed with
      | false =>
          rw [writtenByText_of_anonymous named, List.forall_mem_singleton]
          constructor
          · intro same
            cases same with
            | token _ _ sameText => exact sameText
            | text isNamed => exact absurd (named.symm.trans isNamed) Bool.false_ne_true
            | inner isNamed => exact absurd (named.symm.trans isNamed) Bool.false_ne_true
          · exact .token named named
      | true =>
          rw [writtenByText_of_named named]
          cases byText : node.isShownByText with
          | true =>
              rw [if_pos rfl, List.forall_mem_singleton]
              exact ⟨fun same => same.text_eq byText,
                .text named named byText byText rfl rfl⟩
          | false =>
              rw [if_neg Bool.false_ne_true]
              have below : ∀ child ∈ node.shown, SameShown source otherSource child child ↔
                  ∀ leaf ∈ child.writtenByText,
                    textOf source leaf.label = textOf otherSource leaf.label := by
                intro child isShown
                exact inductionHypothesis child (isChild child (List.mem_filter.mp isShown).1)
              have flat : (∀ leaf ∈ node.shown.flatMap writtenByText,
                    textOf source leaf.label = textOf otherSource leaf.label) ↔
                  ∀ child ∈ node.shown, SameShown source otherSource child child := by
                simp only [List.mem_flatMap]
                constructor
                · intro each child isShown
                  exact (below child isShown).mpr fun leaf inside =>
                    each leaf ⟨child, isShown, inside⟩
                · rintro each leaf ⟨child, isShown, inside⟩
                  exact (below child isShown).mp (each child isShown) leaf inside
              rw [flat]
              constructor
              · intro same child isShown
                rcases mem_shown_iff.mp isShown with isLoose | ⟨name, fills⟩
                · exact List.forall₂_same.mp (same.loose named) child isLoose
                · exact List.forall₂_same.mp (same.filling named name) child fills
              · intro each
                refine .inner named named byText byText rfl rfl ?_ rfl (fun _ _ => Iff.rfl) ?_
                · intro name
                  exact List.forall₂_same.mpr fun child fills =>
                    each child (mem_shown_iff.mpr (.inr ⟨name, fills⟩))
                · exact List.forall₂_same.mpr fun child isLoose =>
                    each child (mem_shown_iff.mpr (.inl isLoose))

/-- Over two texts, a tree is written alike if and only if its nodes that are written by their
text cover the same in both. -/
theorem dump_eq_dump_iff {source otherSource : Array Char} {node : Node}
    (readable : HasReadableNames node) :
    dump source node = dump otherSource node ↔
      ∀ leaf ∈ node.writtenByText,
        textOf source leaf.label = textOf otherSource leaf.label := by
  rw [← sameShown_self_iff]
  exact ⟨sameShown_of_dump_eq readable readable, dump_eq_of_sameShown⟩

/-! ## Places -/

/-- A node covers a place in the text. -/
def Label.Covers (label : Label) (index : Nat) : Prop :=
  label.start.chars ≤ index ∧ index < label.stop.chars

/-- In texts of the same length, a node covers the same text if no character differs there. -/
theorem textOf_eq_textOf_iff {source other : Array Char} (size : other.size = source.size)
    {label : Label} :
    textOf source label = textOf other label ↔
      ∀ index, label.Covers index → source[index]? = other[index]? := by
  have asArrays : textOf source label = textOf other label ↔
      source.extract label.start.chars label.stop.chars =
        other.extract label.start.chars label.stop.chars := by
    rw [textOf, textOf, String.ofList_inj, Array.toList_inj]
  rw [asArrays]
  constructor
  · rintro equal index ⟨above, below⟩
    have found := congrArg (·[index - label.start.chars]?) equal
    simp only [Array.getElem?_extract, size] at found
    have back : label.start.chars + (index - label.start.chars) = index := by omega
    rw [back] at found
    by_cases inText : index < source.size
    · rwa [if_pos (by omega), if_pos (by omega)] at found
    · rw [Array.getElem?_eq_none (by omega), Array.getElem?_eq_none (by omega)]
  · intro each
    apply Array.ext_getElem?
    intro offset
    simp only [Array.getElem?_extract, size]
    split
    next inside => exact each _ ⟨by omega, by omega⟩
    next => rfl

/-- Children lie inside their parents, one after the other. -/
structure Nested (root : Node) : Prop where
  within : ∀ node ∈ root.preorder, ∀ child ∈ node.children,
    node.label.start.chars ≤ child.label.start.chars ∧
      child.label.stop.chars ≤ node.label.stop.chars
  ordered : ∀ node ∈ root.preorder, node.children.Pairwise fun first second =>
    first.label.stop.chars ≤ second.label.start.chars

section Nested

variable {label : Label} {children : List Node} {root first second : Node} {index : Nat}

theorem Nested.child (nested : Nested (.mk label children)) {child : Node}
    (member : child ∈ children) : Nested child where
  within node isInside := nested.within node (mem_preorder_of_child member isInside)
  ordered node isInside := nested.ordered node (mem_preorder_of_child member isInside)

/-- A place that a node covers is covered by all nodes around it. -/
theorem Nested.covers (nested : Nested root) (member : first ∈ root.preorder)
    (covered : first.label.Covers index) : root.label.Covers index := by
  induction root using Node.induction with
  | step label children inductionHypothesis =>
      rw [preorder_mk] at member
      rcases List.mem_cons.mp member with rfl | isBelow
      · exact covered
      · obtain ⟨child, isChild, isInside⟩ := List.mem_flatMap.mp isBelow
        have inChild := inductionHypothesis child isChild (nested.child isChild) isInside
        have bounds := nested.within _ (self_mem_preorder _) child isChild
        exact ⟨Nat.le_trans bounds.1 inChild.1, Nat.lt_of_lt_of_le inChild.2 bounds.2⟩

/-- No two children of a node cover the same place. -/
theorem Nested.child_eq (nested : Nested root) (isFirst : first ∈ root.children)
    (isSecond : second ∈ root.children) (covered : first.label.Covers index)
    (alsoCovered : second.label.Covers index) : first = second := by
  have apart := List.pairwise_iff_getElem.mp (nested.ordered root root.self_mem_preorder)
  obtain ⟨place, below, rfl⟩ := List.getElem_of_mem isFirst
  obtain ⟨otherPlace, otherBelow, rfl⟩ := List.getElem_of_mem isSecond
  rcases Nat.lt_trichotomy place otherPlace with before | rfl | after
  · have stops := apart place otherPlace below otherBelow before
    exact absurd covered.2 (Nat.not_lt.mpr (Nat.le_trans stops alsoCovered.1))
  · rfl
  · have stops := apart otherPlace place otherBelow below after
    exact absurd alsoCovered.2 (Nat.not_lt.mpr (Nat.le_trans stops covered.1))

/-- Of two nodes that cover the same place, one is inside the other. -/
theorem Nested.mem_preorder_of_covers (nested : Nested root) (isFirst : first ∈ root.preorder)
    (isSecond : second ∈ root.preorder) (covered : first.label.Covers index)
    (alsoCovered : second.label.Covers index) :
    first ∈ second.preorder ∨ second ∈ first.preorder := by
  induction root using Node.induction with
  | step label children inductionHypothesis =>
      have inFirst := isFirst
      have inSecond := isSecond
      rw [preorder_mk] at inFirst inSecond
      rcases List.mem_cons.mp inFirst with rfl | firstBelow
      · exact .inr isSecond
      · rcases List.mem_cons.mp inSecond with rfl | secondBelow
        · exact .inl isFirst
        · obtain ⟨child, isChild, firstInside⟩ := List.mem_flatMap.mp firstBelow
          obtain ⟨other, isOther, secondInside⟩ := List.mem_flatMap.mp secondBelow
          obtain rfl : child = other := nested.child_eq isChild isOther
            ((nested.child isChild).covers firstInside covered)
            ((nested.child isOther).covers secondInside alsoCovered)
          exact inductionHypothesis child isChild (nested.child isChild) firstInside secondInside

end Nested

end FunctionAtlas.Syntax
