import FunctionAtlas.Parse.Subtree
import FunctionAtlas.Proofs.Text.Places

/-!
Contract: parse trees that cover a part of the text without gaps.

A tree begins where the one before it ended, with the blanks before its first token as its
padding. Trees in a row cover what their parent covers, so making a parent of a row of trees, or
taking a parent apart, leaves all of them where they are.

Owns: trees and rows of trees that cover a part of a text.
-/

namespace FunctionAtlas.Parse

open FunctionAtlas.Automaton (Table)
open FunctionAtlas.Text

namespace Subtree

/-- What holds of a tree if it holds of its children holds of every tree. -/
theorem induction {motive : Subtree → Prop}
    (step : ∀ summary children, (∀ child ∈ children, motive child) →
      motive (.node summary children))
    (tree : Subtree) : motive tree :=
  @Subtree.rec motive (fun trees => ∀ child ∈ trees, motive child)
    step
    (fun _ member => absurd member List.not_mem_nil)
    (fun _ _ first others child member => by
      rcases List.mem_cons.mp member with isFirst | isOther
      · rw [isFirst]
        exact first
      · exact others child isOther)
    tree

mutual

/-- A tree covers the text from a place on: its padding leads to where it begins, its size to where
it ends, and its children cover the same. -/
def Covers (source : Array Char) (origin : Extent) : Subtree → Prop
  | .node summary children =>
      IsPlace source origin ∧ IsPlace source (origin.add summary.padding) ∧
      IsPlace source (origin.add (summary.padding.add summary.size)) ∧
      (children = [] ∨
        children.head?.map (fun child => child.summary.padding) = some summary.padding ∧
          CoverBetween source origin (origin.add (summary.padding.add summary.size)) children)

/-- Trees in a row cover the text between two places. -/
def CoverBetween (source : Array Char) (origin stop : Extent) : List Subtree → Prop
  | [] => origin = stop
  | child :: rest =>
      Covers source origin child ∧ CoverBetween source (origin.add child.totalSize) stop rest

end

section Rows

variable {source : Array Char} {origin middle stop : Extent}

theorem Covers.isPlace {tree : Subtree} (covers : Covers source origin tree) :
    IsPlace source origin := by
  cases tree
  exact covers.1

theorem Covers.isPlace_stop {tree : Subtree} (covers : Covers source origin tree) :
    IsPlace source (origin.add tree.totalSize) := by
  cases tree
  exact covers.2.2.1

theorem coverBetween_append {before after : List Subtree} :
    CoverBetween source origin stop (before ++ after) ↔
      ∃ middle, CoverBetween source origin middle before ∧
        CoverBetween source middle stop after := by
  induction before generalizing origin with
  | nil => simp [CoverBetween]
  | cons child rest inductionHypothesis =>
      simp only [List.cons_append, CoverBetween, inductionHypothesis]
      constructor
      · rintro ⟨covers, middle, front, back⟩
        exact ⟨middle, ⟨covers, front⟩, back⟩
      · rintro ⟨middle, ⟨covers, front⟩, back⟩
        exact ⟨covers, middle, front, back⟩

theorem coverBetween_singleton {tree : Subtree} :
    CoverBetween source origin stop [tree] ↔
      Covers source origin tree ∧ origin.add tree.totalSize = stop := by
  simp [CoverBetween]

theorem CoverBetween.isPlace (isOrigin : IsPlace source origin) {trees : List Subtree}
    (cover : CoverBetween source origin stop trees) : IsPlace source stop := by
  induction trees generalizing origin with
  | nil => exact cover ▸ isOrigin
  | cons child rest inductionHypothesis =>
      exact inductionHypothesis cover.1.isPlace_stop cover.2

theorem CoverBetween.chars_le {trees : List Subtree}
    (cover : CoverBetween source origin stop trees) : origin.chars ≤ stop.chars := by
  induction trees generalizing origin with
  | nil => exact Nat.le_of_eq (congrArg Extent.chars cover)
  | cons child rest inductionHypothesis =>
      exact Nat.le_trans (Nat.le_add_right _ _) (inductionHypothesis cover.2)

/-- The children of a tree cover what the tree covers. -/
theorem Covers.children {tree : Subtree} (covers : Covers source origin tree)
    (isInner : tree.children ≠ [] ∨ tree.totalSize.bytes = 0) :
    CoverBetween source origin (origin.add tree.totalSize) tree.children := by
  obtain ⟨summary, children⟩ := tree
  rcases covers.2.2.2 with isLeaf | ⟨-, row⟩
  · have isLeaf : children = [] := isLeaf
    have isEmpty : (node summary children).totalSize.bytes = 0 :=
      isInner.resolve_left fun inner => inner isLeaf
    have stays : origin = origin.add (node summary children).totalSize := by
      refine covers.isPlace.eq_of_bytes covers.isPlace_stop ?_
      change origin.bytes = origin.bytes + (node summary children).totalSize.bytes
      rw [isEmpty, Nat.add_zero]
    rw [isLeaf] at stays ⊢
    exact stays
  · exact row

/-- What a tree covers depends on its extents and its children only. -/
theorem Covers.congr {tree other : Subtree} (covers : Covers source origin tree)
    (samePadding : other.summary.padding = tree.summary.padding)
    (sameSize : other.summary.size = tree.summary.size)
    (sameChildren : other.children = tree.children) : Covers source origin other := by
  obtain ⟨summary, children⟩ := tree
  obtain ⟨otherSummary, otherChildren⟩ := other
  simp only [Subtree.summary, Subtree.children] at samePadding sameSize sameChildren
  rw [Covers, samePadding, sameSize, sameChildren]
  exact covers

/-! ## Making trees -/

theorem Covers.setExtra {tree : Subtree} (covers : Covers source origin tree) (isExtra : Bool) :
    Covers source origin (tree.setExtra isExtra) :=
  covers.congr rfl rfl rfl

theorem Covers.withSymbol {tree : Subtree} (covers : Covers source origin tree) (table : Table)
    (symbol : Nat) : Covers source origin (tree.withSymbol table symbol) :=
  covers.congr rfl rfl rfl

/-- A token between two places, which the parser read from an earlier place on. -/
theorem covers_leaf {table : Table} {symbol parseState : Nat} {isKeyword changesLayout : Bool}
    {layout : Option Layout} (isOrigin : IsPlace source origin) (isStart : IsPlace source middle)
    (isStop : IsPlace source stop) (startsAfter : origin.chars ≤ middle.chars)
    (stopsAfter : middle.chars ≤ stop.chars) :
    Covers source origin (leaf table symbol (middle.sub origin) (stop.sub middle) parseState
      isKeyword layout changesLayout) := by
  have toStart : origin.add (middle.sub origin) = middle :=
    isOrigin.add_sub isStart startsAfter
  have toStop : origin.add ((middle.sub origin).add (stop.sub middle)) = stop := by
    rw [← Extent.add_assoc, toStart, isStart.add_sub isStop stopsAfter]
  refine ⟨isOrigin, ?_, ?_, .inl rfl⟩
  · change IsPlace source (origin.add (middle.sub origin))
    rwa [toStart]
  · change IsPlace source (origin.add ((middle.sub origin).add (stop.sub middle)))
    rwa [toStop]

theorem covers_missingLeaf {table : Table} {symbol : Nat} (isOrigin : IsPlace source origin) :
    Covers source origin (missingLeaf table symbol) :=
  ⟨isOrigin, isOrigin, isOrigin, .inl rfl⟩

/-- The extents of a node after the first children: the padding is that of the first one, and
both extents together lead to where the last one ended. -/
theorem foldl_add_extents {table : Table} {holdsError : Bool} {children : List Subtree}
    {summing : Summing} (isLater : summing.isFirst = false)
    (cover : CoverBetween source
      (origin.add (summing.summary.padding.add summing.summary.size)) stop children) :
    let summed := (children.foldl (Summing.add table holdsError) summing).summary
    summed.padding = summing.summary.padding ∧
      origin.add (summed.padding.add summed.size) = stop := by
  induction children generalizing summing with
  | nil => exact ⟨rfl, cover⟩
  | cons child rest inductionHypothesis =>
      have samePadding :
          (Summing.add table holdsError summing child).summary.padding =
            summing.summary.padding := by
        simp [Summing.add, isLater]
      have grown : (Summing.add table holdsError summing child).summary.size =
          summing.summary.size.add child.totalSize := by
        simp [Summing.add, isLater]
      rw [← samePadding, List.foldl_cons]
      refine inductionHypothesis rfl ?_
      rw [samePadding, grown, ← Extent.add_assoc summing.summary.padding, ← Extent.add_assoc origin]
      exact cover.2

theorem foldl_add_extents_first {table : Table} {holdsError : Bool} {child : Subtree}
    {rest : List Subtree} {start : Summary} {position : Nat}
    (cover : CoverBetween source origin stop (child :: rest)) :
    let summed :=
      ((child :: rest).foldl (Summing.add table holdsError) ⟨start, position, true⟩).summary
    summed.padding = child.summary.padding ∧
      origin.add (summed.padding.add summed.size) = stop := by
  rw [List.foldl_cons]
  have isFirst : (Summing.add table holdsError ⟨start, position, true⟩ child).isFirst = false := rfl
  exact foldl_add_extents isFirst cover.2

theorem extents_make_nil (table : Table) (symbol shape : Nat) :
    (make table symbol [] shape).summary.padding = .zero ∧
      (make table symbol [] shape).summary.size = .zero := by
  simp only [make, Subtree.summary]
  split_ifs <;> exact ⟨rfl, rfl⟩

/-- A node that is made of trees in a row covers what they cover. -/
theorem covers_make (isOrigin : IsPlace source origin) {children : List Subtree}
    (cover : CoverBetween source origin stop children) (table : Table) (symbol shape : Nat) :
    Covers source origin (make table symbol children shape) ∧
      origin.add (make table symbol children shape).totalSize = stop := by
  have isStop := cover.isPlace isOrigin
  have isNode : make table symbol children shape =
      node (make table symbol children shape).summary children := rfl
  cases children with
  | nil =>
      have stays : origin = stop := cover
      have isEmpty := extents_make_nil table symbol shape
      constructor
      · rw [isNode, Covers, isEmpty.1, isEmpty.2]
        exact ⟨isOrigin, isOrigin, isOrigin, .inl rfl⟩
      · rw [totalSize, isEmpty.1, isEmpty.2]
        exact stays
  | cons child rest =>
      have extents : (make table symbol (child :: rest) shape).summary.padding =
            child.summary.padding ∧
          origin.add ((make table symbol (child :: rest) shape).summary.padding.add
            (make table symbol (child :: rest) shape).summary.size) = stop := by
        simp only [make, Subtree.summary]
        split_ifs <;> exact foldl_add_extents_first cover
      refine ⟨?_, extents.2⟩
      rw [isNode, Covers, extents.2, extents.1]
      obtain ⟨summary, children⟩ := child
      exact ⟨isOrigin, cover.1.2.1, isStop, .inr ⟨rfl, cover⟩⟩

theorem splitTrailingExtras_append (trees : List Subtree) :
    (splitTrailingExtras trees).1 ++ (splitTrailingExtras trees).2 = trees := by
  rw [splitTrailingExtras, ← List.reverse_append, List.takeWhile_append_dropWhile,
    List.reverse_reverse]

end Rows

/-! ## Rows that can be taken apart -/

/-- If a tree is wrong text, its parts make it up, and so on with the parts. -/
inductive Opens : Subtree → Prop
  | ofSymbol {tree : Subtree} (isRight : tree.isError = false) : Opens tree
  | ofParts {tree : Subtree} (isWhole : tree.children ≠ [] ∨ tree.totalSize.bytes = 0)
      (parts : ∀ child ∈ tree.children, Opens child) : Opens tree

theorem Opens.parts {tree : Subtree} (opens : tree.Opens) (isError : tree.isError = true) :
    (tree.children ≠ [] ∨ tree.totalSize.bytes = 0) ∧ ∀ child ∈ tree.children, child.Opens := by
  cases opens with
  | ofSymbol isRight => simp [isRight] at isError
  | ofParts isWhole parts => exact ⟨isWhole, parts⟩

theorem Opens.congr {tree other : Subtree} (opens : tree.Opens)
    (sameSymbol : other.symbol = tree.symbol) (sameSize : other.totalSize = tree.totalSize)
    (sameChildren : other.children = tree.children) : other.Opens := by
  cases opens with
  | ofSymbol isRight => exact .ofSymbol (by rwa [isError, sameSymbol])
  | ofParts isWhole parts =>
      refine .ofParts ?_ ?_
      · rwa [sameChildren, sameSize]
      · rwa [sameChildren]

theorem opens_make (table : Table) (symbol shape : Nat) {children : List Subtree}
    (parts : ∀ child ∈ children, child.Opens) : (make table symbol children shape).Opens := by
  refine .ofParts ?_ parts
  cases children with
  | nil =>
      have isEmpty := extents_make_nil table symbol shape
      rw [totalSize, isEmpty.1, isEmpty.2]
      exact .inr rfl
  | cons child rest => exact .inl (List.cons_ne_nil child rest)

theorem opens_missingLeaf (table : Table) (symbol : Nat) : (missingLeaf table symbol).Opens :=
  .ofParts (.inr rfl) (fun _ member => absurd member List.not_mem_nil)

/-- Trees in a row that cover the text between two places and can be taken apart. -/
structure Row (source : Array Char) (origin stop : Extent) (trees : List Subtree) : Prop where
  covers : CoverBetween source origin stop trees
  opens : ∀ tree ∈ trees, tree.Opens

section OpenRows

variable {source : Array Char} {origin middle stop : Extent}

theorem row_nil (source : Array Char) (origin : Extent) : Row source origin origin [] :=
  ⟨rfl, fun _ member => absurd member List.not_mem_nil⟩

theorem row_singleton {tree : Subtree} (covers : Covers source origin tree) (opens : tree.Opens) :
    Row source origin (origin.add tree.totalSize) [tree] :=
  ⟨coverBetween_singleton.mpr ⟨covers, rfl⟩, by simpa using opens⟩

theorem row_append {before after : List Subtree} :
    Row source origin stop (before ++ after) ↔
      ∃ middle, Row source origin middle before ∧ Row source middle stop after := by
  constructor
  · rintro ⟨covers, opens⟩
    obtain ⟨middle, front, back⟩ := coverBetween_append.mp covers
    exact ⟨middle, ⟨front, fun tree member => opens tree (List.mem_append_left _ member)⟩,
      ⟨back, fun tree member => opens tree (List.mem_append_right _ member)⟩⟩
  · rintro ⟨middle, front, back⟩
    refine ⟨coverBetween_append.mpr ⟨middle, front.covers, back.covers⟩, fun tree member => ?_⟩
    exact (List.mem_append.mp member).elim (front.opens tree) (back.opens tree)

theorem row_cons {tree : Subtree} {rest : List Subtree} :
    Row source origin stop (tree :: rest) ↔
      ∃ middle, Row source origin middle [tree] ∧ Row source middle stop rest :=
  @row_append source origin stop [tree] rest

/-- A node that is made of trees in a row stands in their place. -/
theorem Row.make {children : List Subtree} (row : Row source origin stop children)
    (isOrigin : IsPlace source origin) (table : Table) (symbol shape : Nat) :
    Row source origin stop [make table symbol children shape] := by
  refine ⟨coverBetween_singleton.mpr (covers_make isOrigin row.covers table symbol shape), ?_⟩
  simpa using opens_make table symbol shape row.opens

/-- A change of what else a tree says about itself leaves it in its place. -/
theorem Row.congr {tree other : Subtree} (row : Row source origin stop [tree])
    (sameSymbol : other.symbol = tree.symbol)
    (samePadding : other.summary.padding = tree.summary.padding)
    (sameSize : other.summary.size = tree.summary.size)
    (sameChildren : other.children = tree.children) : Row source origin stop [other] := by
  have sameTotal : other.totalSize = tree.totalSize := by
    rw [totalSize, totalSize, samePadding, sameSize]
  obtain ⟨covers, toStop⟩ := coverBetween_singleton.mp row.covers
  refine ⟨coverBetween_singleton.mpr ⟨covers.congr samePadding sameSize sameChildren, ?_⟩, ?_⟩
  · rw [sameTotal]
    exact toStop
  · simpa using (row.opens tree List.mem_cons_self).congr sameSymbol sameTotal sameChildren

/-- Wrong text can be replaced by its parts. -/
theorem Row.parts {tree : Subtree} (row : Row source origin stop [tree])
    (isError : tree.isError = true) : Row source origin stop tree.children := by
  obtain ⟨covers, rfl⟩ := coverBetween_singleton.mp row.covers
  obtain ⟨isWhole, parts⟩ := (row.opens tree List.mem_cons_self).parts isError
  exact ⟨covers.children isWhole, parts⟩

end OpenRows

end Subtree

end FunctionAtlas.Parse
