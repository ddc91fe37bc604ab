import FunctionAtlas.Proofs.Syntax.WrittenText
import FunctionAtlas.Proofs.Text.Places

/-!
Contract: trees that lie in their text.

In such a tree every node begins and ends at a place of the text, and children lie inside their
parents, one after the other. So of two sites either one is on the way to the other and around it,
or the one that comes first in preorder ends before the other begins.

Owns: placed trees, and how the sites of a tree lie to each other.
-/

namespace FunctionAtlas.Syntax

open FunctionAtlas.Syntax.Node
open FunctionAtlas.Text

/-- Every node begins and ends at a place of the text, and lies inside its parent, after its
siblings. -/
structure Placed (source : Array Char) (root : Node) : Prop where
  places : ∀ node ∈ root.preorder, IsPlace source node.label.start ∧
    IsPlace source node.label.stop ∧ node.label.start.chars ≤ node.label.stop.chars
  nested : Nested root

section Sites

variable {root : Node}

theorem Nested.of_mem (nested : Nested root) {node : Node} (member : node ∈ root.preorder) :
    Nested node where
  within inner isInside := nested.within inner (mem_preorder_trans member isInside)
  ordered inner isInside := nested.ordered inner (mem_preorder_trans member isInside)

/-- A node lies inside all nodes around it. -/
theorem Nested.bounds (nested : Nested root) {node : Node} (member : node ∈ root.preorder) :
    root.label.start.chars ≤ node.label.start.chars ∧
      node.label.stop.chars ≤ root.label.stop.chars := by
  induction root using Node.induction with
  | step label children inductionHypothesis =>
      rw [preorder_mk] at member
      rcases List.mem_cons.mp member with rfl | isBelow
      · exact ⟨Nat.le_refl _, Nat.le_refl _⟩
      · obtain ⟨child, isChild, isInside⟩ := List.mem_flatMap.mp isBelow
        have inChild := inductionHypothesis child isChild (nested.child isChild) isInside
        have ofChild := nested.within _ (self_mem_preorder _) child isChild
        exact ⟨Nat.le_trans ofChild.1 inChild.1, Nat.le_trans inChild.2 ofChild.2⟩

theorem mem_preorder_of_site {site : Site} (member : site ∈ root.sites) :
    site.node ∈ root.preorder := List.mem_map_of_mem member

/-- A path goes on from where its beginning leads. -/
theorem walk?_append (before after : List Nat) :
    root.walk? (before ++ after) =
      (root.walk? before).bind fun found =>
        (found.2.walk? after).map fun inner => (found.1 ++ inner.1, inner.2) := by
  induction before generalizing root with
  | nil => simp [walk?]
  | cons index rest inductionHypothesis =>
      rw [List.cons_append, walk?, walk?]
      cases root.children[index]? with
      | none => rfl
      | some child =>
          simp only [Option.bind_some, inductionHypothesis]
          cases child.walk? rest with
          | none => rfl
          | some found =>
              simp only [Option.bind_some, Option.map_some, Option.map_map]
              rfl

/-- A site further along the way of another one is inside a child of it. -/
theorem exists_child_of_isPrefix {outer inner : Site} (isOuter : outer ∈ root.sites)
    (isInner : inner ∈ root.sites) (onTheWay : outer.path <+: inner.path)
    (differ : outer.path ≠ inner.path) :
    ∃ (index : Nat) (child : Node), outer.node.children[index]? = some child ∧
      inner.node ∈ child.preorder := by
  obtain ⟨rest, isPath⟩ := onTheWay
  rw [mem_sites_iff] at isOuter isInner
  rw [← isPath, walk?_append, isOuter] at isInner
  cases rest with
  | nil => exact absurd (by simpa using isPath) differ
  | cons index rest =>
      simp only [Option.bind_some, walk?, Option.map_eq_some_iff, Option.bind_eq_some_iff] at isInner
      obtain ⟨found, ⟨child, isChild, ⟨ancestors, last⟩, walked, rfl⟩, isLast⟩ := isInner
      refine ⟨index, child, isChild, ?_⟩
      have isSite : (⟨rest, ancestors, last⟩ : Site) ∈ child.sites := (mem_sites_iff _ _).mpr walked
      rw [← (Prod.mk.inj isLast).2]
      exact mem_preorder_of_site isSite

/-- Two sites that are not on the same way lie one after the other. -/
theorem Nested.isPrefix_or_before (nested : Nested root) {first second : Site}
    (isFirst : first ∈ root.sites) (isSecond : second ∈ root.sites)
    (ordered : PathBefore first.path second.path) :
    first.path <+: second.path ∨
      first.node.label.stop.chars ≤ second.node.label.start.chars := by
  induction root using Node.induction generalizing first second with
  | step label children inductionHypothesis =>
      rw [sites, List.mem_cons, mem_sitesBelow_iff] at isFirst isSecond
      rcases isFirst with rfl | ⟨index, child, inner, isChild, isInner, rfl⟩
      · exact .inl List.nil_prefix
      · rcases isSecond with rfl | ⟨otherIndex, otherChild, otherInner, isOther, isOtherInner, rfl⟩
        · cases ordered
        · simp only [Site.under, Nat.zero_add] at ordered ⊢
          have member := List.mem_of_getElem? isChild
          have otherMember := List.mem_of_getElem? isOther
          cases ordered with
          | rel isLess =>
              -- The sites are in different children.
              have inChild := (nested.child member).bounds (mem_preorder_of_site isInner)
              have inOther := (nested.child otherMember).bounds (mem_preorder_of_site isOtherInner)
              obtain ⟨below, rfl⟩ := List.getElem?_eq_some_iff.mp isChild
              obtain ⟨otherBelow, rfl⟩ := List.getElem?_eq_some_iff.mp isOther
              have apart := List.pairwise_iff_getElem.mp
                (nested.ordered _ (self_mem_preorder _)) index otherIndex below otherBelow isLess
              exact .inr (Nat.le_trans inChild.2 (Nat.le_trans apart inOther.1))
          | cons isBefore =>
              rw [isChild] at isOther
              cases isOther
              refine (inductionHypothesis child member (nested.child member) isInner isOtherInner
                isBefore).imp_left fun isPrefix => ?_
              exact (List.prefix_cons_inj _).mpr isPrefix

end Sites

end FunctionAtlas.Syntax
