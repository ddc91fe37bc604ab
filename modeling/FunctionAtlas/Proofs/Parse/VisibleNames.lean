import FunctionAtlas.Parse.Visible
import FunctionAtlas.Proofs.Automaton.Names
import FunctionAtlas.Proofs.Parse.Covering
import FunctionAtlas.Proofs.Syntax.Preorder

/-!
Contract: the names in a syntax tree come from the table.

A node is called by its symbol, unless the production of its parent calls it something else, and
its field comes from the production of its parent, or from that of a hidden node between them. This
goes for every parse tree, also for one that the parser would not make.

Owns: the kinds and fields of shown nodes.
-/

namespace FunctionAtlas.Parse

open FunctionAtlas.Automaton (Table)
open FunctionAtlas.Grammar (NodeName forall_mem_or)
open FunctionAtlas.Syntax
open FunctionAtlas.Syntax.Node
open FunctionAtlas.Text (Extent)

variable {holds : String → Prop}

/-- The kinds and the fields in a tree have a property. -/
structure NamesHold (holds : String → Prop) (root : Node) : Prop where
  kinds : ∀ node ∈ root.preorder, holds node.kind
  fields : ∀ node ∈ root.preorder, ∀ name ∈ node.label.field, holds name

theorem namesHold_mk {label : Label} {children : List Node} (ofKind : holds label.kind)
    (ofField : ∀ name ∈ label.field, holds name)
    (ofChildren : ∀ child ∈ children, NamesHold holds child) :
    NamesHold holds (.mk label children) where
  kinds node member := by
    rw [preorder_mk] at member
    rcases List.mem_cons.mp member with rfl | isBelow
    · exact ofKind
    · obtain ⟨child, isChild, isInside⟩ := List.mem_flatMap.mp isBelow
      exact (ofChildren child isChild).kinds node isInside
  fields node member := by
    rw [preorder_mk] at member
    rcases List.mem_cons.mp member with rfl | isBelow
    · exact ofField
    · obtain ⟨child, isChild, isInside⟩ := List.mem_flatMap.mp isBelow
      exact (ofChildren child isChild).fields node isInside

/-! ## Names from the table -/

theorem mem_of_getD_eq_some {Item : Type} {entries : Array (Option Item)} {position : Nat}
    {item : Item} (isThere : entries.getD position none = some item) : some item ∈ entries := by
  rw [Array.getD_eq_getD_getElem?] at isThere
  cases found : entries[position]? with
  | none =>
      rw [found] at isThere
      cases isThere
  | some entry =>
      rw [found, Option.getD_some] at isThere
      rw [← isThere]
      exact Array.mem_of_getElem? found

/-- What is shown of a tree has names with a property if the name and the field that are given to
the tree have it. -/
def ShowsNames (holds : String → Prop) (table : Table) (tree : Subtree) : Prop :=
  ∀ (rename : Option NodeName) (field : Option String) (start : Extent),
    (∀ name ∈ rename, holds name.text) → (∀ name ∈ field, holds name) →
      ∀ node ∈ visibleNodes table rename field start tree, NamesHold holds node

section Shown

variable {table : Table} (names : table.NamesHold holds)

include names

/-- What a shape calls a child. -/
theorem holds_rename (shape position : Nat) :
    ∀ name ∈ table.shapes[shape]?.bind fun found => found.renames.getD position none,
      holds name.text := by
  intro name isGiven
  obtain ⟨found, isFound, atPosition⟩ := Option.bind_eq_some_iff.mp isGiven
  exact names.renames found (Array.mem_of_getElem? isFound) _ (mem_of_getD_eq_some atPosition)
    name rfl

/-- The field that a shape gives a child. -/
theorem holds_fieldName (shape position : Nat) :
    ∀ name ∈ table.shapes[shape]?.bind fun found => found.fields.getD position none,
      holds name := by
  intro name isGiven
  obtain ⟨found, isFound, atPosition⟩ := Option.bind_eq_some_iff.mp isGiven
  exact names.fields found (Array.mem_of_getElem? isFound) _ (mem_of_getD_eq_some atPosition)
    name rfl

/-- Children are given names and fields by the shape, or the field of a hidden node around them. -/
theorem namesHold_visibleChildren {children : List Subtree}
    (shows : ∀ child ∈ children, ShowsNames holds table child) (shape : Nat)
    {outer : Option String} (ofOuter : ∀ name ∈ outer, holds name) (isFirst : Bool)
    (position : Nat) (place : Extent) :
    ∀ node ∈ visibleChildren table shape outer isFirst position place children,
      NamesHold holds node := by
  induction children generalizing isFirst position place with
  | nil =>
      rw [visibleChildren]
      simp
  | cons child rest inductionHypothesis =>
      obtain ⟨showsFirst, showsRest⟩ := List.forall_mem_cons.mp shows
      rw [visibleChildren, List.forall_mem_append]
      refine ⟨showsFirst _ _ _ ?_ ?_, inductionHypothesis showsRest _ _ _⟩
      · split
        next => simp
        next => exact holds_rename names shape position
      · split
        next => simp
        next => exact forall_mem_or (holds_fieldName names shape position) ofOuter

variable (unnamed : holds "") (unparsed : holds "ERROR")

include unnamed unparsed

theorem holds_shownName (summary : Summary) {rename : Option NodeName}
    (renamed : ∀ name ∈ rename, holds name.text) :
    holds (shownName table summary rename).1 := by
  unfold shownName
  split
  next name => exact renamed name rfl
  next =>
    split
    next => exact unparsed
    next =>
      split
      next info isInfo => exact names.symbols info (Array.mem_of_getElem? isInfo)
      next => exact unnamed

theorem showsNames (tree : Subtree) : ShowsNames holds table tree := by
  induction tree using Subtree.induction with
  | step summary children inductionHypothesis =>
      intro rename field start renamed ofField
      rw [visibleNodes]
      split
      next =>
        refine List.forall_mem_singleton.mpr (namesHold_mk ?_ ofField ?_)
        · exact holds_shownName names unnamed unparsed summary renamed
        · exact namesHold_visibleChildren names inductionHypothesis _ (by simp) _ _ _
      next => exact namesHold_visibleChildren names inductionHypothesis _ ofField _ _ _

end Shown

end FunctionAtlas.Parse
