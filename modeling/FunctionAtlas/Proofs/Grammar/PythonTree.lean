import FunctionAtlas.Proofs.Grammar.PythonShapes

/-!
Contract: the trees of texts without mistakes.

What is used of the parser is said once, in `PythonTree`: its trees conform to the grammar, a node
does not begin with an extra, and names are not empty. The shapes of particular nodes follow from
those that are computed from the grammar.

Owns: these trees and the shapes of definitions, parameters, blocks, literals and tokens in them.

Does not own: that the parser makes such trees.
-/

namespace FunctionAtlas.Grammar.Python

open FunctionAtlas.Syntax
open FunctionAtlas.Syntax.Dump
open FunctionAtlas.Syntax.Node

/-- A tree that a parser of the grammar makes of a text without mistakes. -/
structure PythonTree (source : Array Char) (root : Node) : Prop where
  conforms : ∀ node ∈ root.preorder, Conforms grammar node
  /-- Extras come before a node, and inside only after something that leaves no node. -/
  begins : ∀ node ∈ root.preorder, node.kind ∉ hiddenStartKinds →
    ∀ first ∈ node.children.head?, first.isExtra = false
  words : ∀ node ∈ root.preorder, node.kind = "identifier" → textOf source node.label ≠ ""
  standsNamed : KindStandsNamed "function_definition" root

/-- What makes a given tree one of these can be evaluated. -/
theorem PythonTree.of_checked {source : Array Char} {root : Node}
    (checked : ∀ node ∈ root.preorder, checkNode grammar depth node = true)
    (begins : ∀ node ∈ root.preorder, node.kind ∉ hiddenStartKinds →
      ∀ first ∈ node.children.head?, first.isExtra = false)
    (words : ∀ node ∈ root.preorder, node.kind = "identifier" → textOf source node.label ≠ "")
    (named : ∀ node ∈ root.preorder, node.kind = "function_definition" → node.isNamed = true)
    (tokens : ∀ token ∈ root.preorder, token.isNamed = false →
      ∀ inner ∈ token.preorder, inner.isNamed = false) : PythonTree source root where
  conforms node member := conforms_of_checkNode (checked node member)
  begins := begins
  words := words
  standsNamed := kindStandsNamed_of_tokens named tokens

/-! ## Names -/

/-- The names of the grammar keep the written forms of its trees readable. -/
theorem PythonTree.hasReadableNames {source : Array Char} {root node : Node}
    (tree : PythonTree source root) (member : node ∈ root.preorder) : HasReadableNames node where
  kinds inner isInside named := by
    obtain ⟨symbol, isSymbol, -⟩ :=
      (tree.conforms inner (mem_preorder_trans member isInside)).spelled named
    rcases grammar.kind_of_mem_symbolsOf isSymbol with isOwn | ⟨entry, isEntry, shows⟩
    · exact isName_symbolNames _ isOwn
    · have nameIs := isName_renamings entry isEntry
      rw [shows] at nameIs
      exact nameIs rfl
  fields inner isInside named child isChild name inField := by
    have conforms := tree.conforms inner (mem_preorder_trans member isInside)
    obtain ⟨nameIs, notReserved, notFlag⟩ := readable_fieldNames name
      (conforms.mem_fieldNames named isChild inField)
    refine ⟨nameIs, ?_⟩
    intro isReserved
    rcases List.mem_append.mp isReserved with isFixed | isFlag
    · exact notReserved (List.mem_append_left _ isFixed)
    · unfold flagsOf at isFlag
      cases found : flagTable.find? (·.1 = inner.kind) with
      | none => simp [found] at isFlag
      | some entry =>
          simp only [found, Option.map_some, Option.getD_some] at isFlag
          exact notFlag entry (List.mem_of_find?_eq_some found) isFlag

/-! ## Definitions -/

section Nodes

variable {source : Array Char} {root node child : Node}

theorem PythonTree.mem_of_solid (_ : PythonTree source root) (member : node ∈ root.preorder)
    (isChild : child ∈ node.solid) : child ∈ root.preorder :=
  mem_preorder_of_mem_children member (mem_solid_iff.mp isChild).1

/-- What a node begins with is not an extra, so its row begins with it. -/
theorem PythonTree.head?_solid (tree : PythonTree source root) (member : node ∈ root.preorder)
    (shows : node.kind ∉ hiddenStartKinds) : node.solid.head? = node.children.head? := by
  have begins := tree.begins node member shows
  unfold solid
  cases split : node.children with
  | nil => rfl
  | cons first others =>
      rw [split] at begins
      rw [List.filter_cons, begins first rfl]
      rfl

section Definitions

variable (tree : PythonTree source root) (member : node ∈ root.preorder)
  (defines : node.kind = "function_definition")

include tree member defines

theorem PythonTree.isNamed_of_definition : node.isNamed = true := by
  cases named : node.isNamed with
  | true => rfl
  | false => exact absurd defines (tree.standsNamed node member named node node.self_mem_preorder)

theorem PythonTree.exists_name :
    ∃ name ∈ node.solid, node.childByField "name" = some name ∧
      name.kind = "identifier" ∧ name.isNamed = true := by
  obtain ⟨filled, shaped, -⟩ := definition_shape
  exact (tree.conforms node member).exists_childByField
    (tree.isNamed_of_definition member defines) defines filled shaped

theorem PythonTree.exists_parameters :
    ∃ list ∈ node.solid, node.childByField "parameters" = some list ∧
      list.kind = "parameters" ∧ list.isNamed = true := by
  obtain ⟨-, -, filled, shaped, -⟩ := definition_shape
  exact (tree.conforms node member).exists_childByField
    (tree.isNamed_of_definition member defines) defines filled shaped

theorem PythonTree.block_of_body {body : Node} (found : node.childByField "body" = some body) :
    body ∈ node.solid ∧ body.kind = "block" ∧ body.isNamed = true := by
  obtain ⟨-, -, -, -, shaped, -⟩ := definition_shape
  exact (tree.conforms node member).shape_of_childByField
    (tree.isNamed_of_definition member defines) defines shaped found

/-- A definition begins with its keyword if it has it at all. -/
theorem PythonTree.begins_async_iff :
    (∃ first ∈ node.children.head?, first.kind = "async") ↔ "async" ∈ node.keywords := by
  obtain ⟨-, -, -, -, -, tokens, others, -⟩ := definition_shape
  have isNamed := tree.isNamed_of_definition member defines
  have later := (tree.conforms node member).later_child isNamed defines others
  rw [← tree.head?_solid member (by simp [defines, hiddenStartKinds])]
  constructor
  · rintro ⟨first, isFirst, isAsync⟩
    have isSolid : first ∈ node.solid := List.mem_of_head? isFirst
    obtain ⟨isToken, unfielded⟩ :=
      (tree.conforms node member).every_child isNamed defines tokens first isSolid isAsync
    have unnamed : first.isNamed = false := isToken
    have free : first.label.field = none := unfielded
    refine List.mem_map.mpr ⟨first, List.mem_filter.mpr ⟨isSolid, ?_⟩, isAsync⟩
    simp [free, unnamed]
  · intro isKeyword
    obtain ⟨token, isToken, isAsync⟩ := List.mem_map.mp isKeyword
    have isSolid := List.mem_of_mem_filter isToken
    cases split : node.solid with
    | nil =>
        rw [split] at isSolid
        exact absurd isSolid List.not_mem_nil
    | cons first others =>
        rw [split] at isSolid later
        rcases List.mem_cons.mp isSolid with rfl | isLater
        · exact ⟨token, rfl, isAsync⟩
        · exact absurd isAsync (later token isLater)

end Definitions

/-! ## Parameters -/

section Parameters

variable (tree : PythonTree source root) (member : node ∈ root.preorder)
  (named : node.isNamed = true)

include tree member named

theorem PythonTree.parameter (ofKind : node.kind = "parameters") (isPart : child ∈ node.solid)
    (isNamed : child.isNamed = true) :
    child.label.field = none ∧ child.kind ∈ parameterKinds :=
  (tree.conforms node member).every_child named ofKind parameters_shape.1 child isPart isNamed

theorem PythonTree.name_of_default (ofKind : node.kind = "default_parameter") :
    ∃ name ∈ node.solid, node.childByField "name" = some name ∧
      (name.kind = "identifier" ∨ name.kind = "tuple_pattern") ∧ name.isNamed = true := by
  obtain ⟨-, filled, shaped, -⟩ := parameters_shape
  exact (tree.conforms node member).exists_childByField named ofKind filled shaped

theorem PythonTree.name_of_typedDefault (ofKind : node.kind = "typed_default_parameter") :
    ∃ name ∈ node.solid, node.childByField "name" = some name ∧
      name.kind = "identifier" ∧ name.isNamed = true := by
  obtain ⟨-, -, -, filled, shaped, -⟩ := parameters_shape
  exact (tree.conforms node member).exists_childByField named ofKind filled shaped

/-- A parameter with a type begins with what it binds. -/
theorem PythonTree.first_of_typed (ofKind : node.kind = "typed_parameter") :
    ∃ first ∈ node.solid, node.namedChildren.head? = some first ∧
      (first.kind = "identifier" ∨ first.kind ∈ splatKinds) := by
  obtain ⟨-, -, -, -, -, first, -⟩ := parameters_shape
  obtain ⟨child, isFirst, isNamed, kinds⟩ :=
    (tree.conforms node member).first_child named ofKind first
  refine ⟨child, List.mem_of_head? isFirst, ?_, kinds⟩
  have childNamed : child.isNamed = true := isNamed
  rw [tree.head?_solid member (by simp [ofKind, hiddenStartKinds])] at isFirst
  obtain ⟨others, split⟩ := List.head?_eq_some_iff.mp isFirst
  simp [namedChildren, split, childNamed]

theorem PythonTree.child_of_typed (ofKind : node.kind = "typed_parameter")
    (isChild : child ∈ node.solid) : child.label.field = none ∨ child.kind = "type" :=
  (tree.conforms node member).every_child named ofKind
    parameters_shape.2.2.2.2.2.2.1 child isChild

theorem PythonTree.child_of_splat (ofKind : node.kind ∈ splatKinds)
    (isChild : child ∈ node.solid) :
    child.label.field = none ∧ (child.isNamed = true → child.kind ∈ targetKinds) :=
  (tree.conforms node member).every_child named rfl
    (parameters_shape.2.2.2.2.2.2.2.1 node.kind ofKind).1 child isChild

/-- A parameter that collects arguments has a named child. The first one is what stands after the
stars, unless an extra comes before. -/
theorem PythonTree.first_of_splat (ofKind : node.kind ∈ splatKinds) :
    ∃ first, node.namedChildren.head? = some first ∧
      (first.kind ∈ targetKinds ∨ first.kind ∈ grammar.extras) := by
  obtain ⟨child, isSolid, isNamed⟩ := (tree.conforms node member).exists_child named rfl
    (parameters_shape.2.2.2.2.2.2.2.1 node.kind ofKind).2
  have isMember : child ∈ node.namedChildren :=
    List.mem_filter.mpr ⟨(mem_solid_iff.mp isSolid).1, isNamed⟩
  cases split : node.namedChildren with
  | nil =>
      rw [split] at isMember
      exact absurd isMember List.not_mem_nil
  | cons first others =>
      have isFirst : first ∈ node.namedChildren := by simp [split]
      obtain ⟨inside, firstNamed⟩ := List.mem_filter.mp isFirst
      refine ⟨first, rfl, ?_⟩
      cases extra : first.isExtra with
      | true => exact .inr ((tree.conforms node member).extras first inside extra).1
      | false =>
          exact .inl ((tree.child_of_splat member named ofKind
            (mem_solid_iff.mpr ⟨inside, extra⟩)).2 firstNamed)

end Parameters

/-! ## Blocks and literals -/

section Literals

variable (tree : PythonTree source root) (member : node ∈ root.preorder)
  (named : node.isNamed = true)

include tree member named

/-- A block has its statements in no field, or it is made of the cases of a `match`. -/
theorem PythonTree.children_of_block (ofKind : node.kind = "block") :
    (∀ child ∈ node.solid, child.label.field = none) ∨
      ∀ child ∈ node.solid, child.kind ≠ "expression_statement" := by
  obtain ⟨symbol, isSymbol, spelled⟩ := (tree.conforms node member).spelled named
  rw [ofKind] at isSymbol
  refine (literals_shape.1 symbol isSymbol).imp ?_ ?_
  · intro every child isChild
    exact of_decide_eq_true
      ((spelled.judged _ _).every every _ (List.mem_map_of_mem isChild))
  · intro every child isChild
    exact of_decide_eq_true
      ((spelled.judged _ _).every every _ (List.mem_map_of_mem isChild))

theorem PythonTree.unfielded (ofKind : node.kind ∈
      ["expression_statement", "parenthesized_expression", "concatenated_string"])
    (isChild : child ∈ node.solid) : child.label.field = none :=
  (tree.conforms node member).every_child named rfl (literals_shape.2.1 node.kind ofKind) child
    isChild

theorem PythonTree.solid_of_identifier (ofKind : node.kind = "identifier") : node.solid = [] := by
  rw [List.eq_nil_iff_forall_not_mem]
  exact (tree.conforms node member).every_child named ofKind literals_shape.2.2.1

theorem PythonTree.isShownByText_of_identifier (ofKind : node.kind = "identifier") :
    node.isShownByText = true := by
  have noChild := tree.solid_of_identifier member named ofKind
  have noFlags : flagsOf "identifier" = [] := by decide
  exact isShownByText_iff.mpr ⟨by simp [fieldNames, noChild, firstNames], by simp [loose, noChild],
    ofKind ▸ noFlags⟩

end Literals

/-! ## Tokens -/

section Tokens

variable (tree : PythonTree source root) (member : node ∈ root.preorder)
  (named : node.isNamed = true)

include tree member named

theorem PythonTree.field_of_joined (isChild : child ∈ node.solid)
    (isJoined : child.kind ∈ joinedKinds) : child.label.field ≠ none := by
  obtain ⟨symbol, isSymbol, spelled⟩ := (tree.conforms node member).spelled named
  have every := tokens_shape.2.1 _ (grammar.mem_kindsOfSymbols isSymbol)
  exact of_decide_eq_true
    ((spelled.judged _ _).every every _ (List.mem_map_of_mem isChild)) isJoined

/-- Nodes of few kinds have more than one child and none of them in a field or named. -/
theorem PythonTree.kind_of_tokens
    (tokens : ∀ child ∈ node.solid, child.label.field = none ∧ child.isNamed = false)
    (several : 1 < node.solid.length) : node.kind ∈ gappedKinds ∨ node.kind ∈ openKinds := by
  obtain ⟨symbol, isSymbol, spelled⟩ := (tree.conforms node member).spelled named
  rcases tokens_shape.2.2.1 _ (grammar.mem_kindsOfSymbols isSymbol) with
    isGapped | isOpen | judgement
  · exact .inl isGapped
  · exact .inr isOpen
  · rcases (spelled.judged _ _).someOrLone judgement with ⟨appearance, isOne, isShown⟩ | few
    · obtain ⟨child, isChild, rfl⟩ := List.mem_map.mp isOne
      obtain ⟨unfielded, anonymous⟩ := tokens child isChild
      have notShown : ¬ (child.label.field ≠ none ∨ child.isNamed = true) := by
        simp [unfielded, anonymous]
      exact absurd (of_decide_eq_true isShown) notShown
    · rw [List.length_map] at few
      omega

end Tokens

end Nodes

end FunctionAtlas.Grammar.Python
