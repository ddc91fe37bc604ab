import FunctionAtlas.Proofs.Grammar.PythonTree

/-!
Contract: nodes whose children always stand in the same row.

For some kinds of nodes the grammar fixes how many children there are and of what class each of
them is. Whether a rule does so is computed from it, and the rows of particular kinds are read off.

Owns: the places of a row, the rows of parentheses, of parameters and of statements that are
expressions, and the parts of nodes in a tree.
-/

namespace FunctionAtlas.Grammar

open FunctionAtlas.Syntax
open FunctionAtlas.Syntax.Node

/-! ## Places -/

/-- How many of the given places a node takes that may not be there. -/
def placesOfShown : Option Appearance → List (Appearance → Bool) → Option Nat
  | none, _ => some 0
  | some _, [] => none
  | some appearance, accepts :: _ => if accepts appearance then some 1 else none

/-- The number that all of several rules agree on. -/
def agreedPlaces : List (Option Nat) → Option Nat
  | [] => none
  | first :: rest => if rest.all (· = first) then first else none

/-- How many places several rules take one after the other. -/
def placesInTurn (taken : Rule → List (Appearance → Bool) → Option Nat) :
    List Rule → List (Appearance → Bool) → Option Nat
  | [], _ => some 0
  | part :: parts, places =>
      (taken part places).bind fun count =>
        (placesInTurn taken parts (places.drop count)).map fun others => count + others

/-- How many of the given places every row takes that a rule spells, if that is one number and
each node is accepted at its place. The first number bounds how deep rules are looked into. -/
def placesTaken (language : Definition) :
    Nat → Rule → Guise → List (Appearance → Bool) → Option Nat
  | 0, _, _, _ => none
  | _ + 1, .blank, _, _ => some 0
  | _ + 1, .token kind, guise, places => placesOfShown (guise.show? kind.ownName) places
  | depth + 1, .symbol name, guise, places =>
      match guise.show? (language.ownName name) with
      | some appearance => placesOfShown (some appearance) places
      | none => placesTaken language depth (language.ruleOf name) guise places
  | depth + 1, .choice alternatives, guise, places =>
      agreedPlaces (alternatives.map fun alternative =>
        placesTaken language depth alternative guise places)
  | depth + 1, .sequence parts, guise, places =>
      placesInTurn (fun part => placesTaken language depth part guise) parts places
  | _ + 1, .repeat1 _, _, _ => none
  | depth + 1, .decorated decoration body, guise, places =>
      placesTaken language depth body (guise.under decoration) places

/-- Each node of a row is accepted at its place. -/
def Fills (places : List (Appearance → Bool)) (row : List Appearance) : Prop :=
  List.Forall₂ (fun accepts appearance => accepts appearance = true) places row

section Filling

variable {places : List (Appearance → Bool)} {count : Nat}

theorem fills_none (taken : some 0 = some count) : Fills (places.take count) [] := by
  obtain rfl := Option.some.inj taken
  rw [List.take_zero]
  exact .nil

theorem fills_of_placesOfShown {shown : Option Appearance}
    (taken : placesOfShown shown places = some count) :
    Fills (places.take count) shown.toList := by
  cases shown with
  | none => exact fills_none taken
  | some appearance =>
      cases places with
      | nil => cases taken
      | cons accepts others =>
          rw [placesOfShown] at taken
          split at taken
          next accepted =>
            obtain rfl : 1 = count := Option.some.inj taken
            exact .cons accepted .nil
          next => cases taken

/-- What several rules agree on, each of them says. -/
theorem eq_of_agreedPlaces {numbers : List (Option Nat)}
    (agreed : agreedPlaces numbers = some count) : ∀ number ∈ numbers, number = some count := by
  cases numbers with
  | nil => cases agreed
  | cons first rest =>
      rw [agreedPlaces] at agreed
      split at agreed
      next same =>
        intro number member
        rcases List.mem_cons.mp member with isFirst | isLater
        · rw [isFirst, agreed]
        · rw [of_decide_eq_true (List.all_eq_true.mp same number isLater), agreed]
      next => cases agreed

/-- Every row that a rule spells fills the places that the rule takes. The induction is on the
spelling; the depth goes down with the rule, except along a sequence. -/
theorem Spells.fills {language : Definition} {rule : Rule} {guise : Guise}
    {row : List Appearance} (spelled : Spells language rule guise row) {depth : Nat}
    (taken : placesTaken language depth rule guise places = some count) :
    Fills (places.take count) row := by
  induction spelled generalizing depth places count with
  | blank =>
      cases depth with
      | zero => cases taken
      | succ depth => exact fills_none taken
  | token kind =>
      cases depth with
      | zero => cases taken
      | succ depth => exact fills_of_placesOfShown taken
  | shown shows =>
      cases depth with
      | zero => cases taken
      | succ depth =>
          simp only [placesTaken, shows] at taken
          exact fills_of_placesOfShown taken
  | hidden hides _ inductionHypothesis =>
      cases depth with
      | zero => cases taken
      | succ depth =>
          simp only [placesTaken, hides] at taken
          exact inductionHypothesis taken
  | choice member _ inductionHypothesis =>
      cases depth with
      | zero => cases taken
      | succ depth =>
          exact inductionHypothesis (eq_of_agreedPlaces taken _ (List.mem_map_of_mem member))
  | sequenceNil =>
      cases depth with
      | zero => cases taken
      | succ depth => exact fills_none taken
  | sequenceCons _ _ ofFirst ofOthers =>
      cases depth with
      | zero => cases taken
      | succ depth =>
          obtain ⟨front, takesFront, takesBack⟩ := Option.bind_eq_some_iff.mp taken
          obtain ⟨back, isBack, rfl⟩ := Option.map_eq_some_iff.mp takesBack
          rw [List.take_add]
          have takesOthers : placesTaken language (depth + 1) (.sequence _) _ _ = some back := isBack
          exact List.rel_append (ofFirst takesFront) (ofOthers takesOthers)
  | once =>
      cases depth with
      | zero => cases taken
      | succ depth => cases taken
  | again =>
      cases depth with
      | zero => cases taken
      | succ depth => cases taken
  | decorated _ inductionHypothesis =>
      cases depth with
      | zero => cases taken
      | succ depth => exact inductionHypothesis taken

end Filling

/-- Whether the children of every node of a kind fill the given places. -/
def hasFixedRow (language : Definition) (depth : Nat) (kind : String)
    (places : List (Appearance → Bool)) : Bool :=
  (language.symbolsOf kind).all fun symbol =>
    let rule := language.ruleOf symbol
    !rule.isToken && decide (placesTaken language depth rule .plain places = some places.length)

theorem Conforms.fixed_row {language : Definition} {node : Node}
    (conforms : Conforms language node) (named : node.isNamed = true) {kind : String}
    (ofKind : node.kind = kind) {depth : Nat} {places : List (Appearance → Bool)}
    (fixed : hasFixedRow language depth kind places = true) :
    List.Forall₂ (fun accepts child => accepts (appearanceOf child) = true) places node.solid := by
  obtain ⟨symbol, isSymbol, spelled⟩ := conforms.spelled named
  rw [ofKind] at isSymbol
  have ofSymbol := List.all_eq_true.mp fixed symbol isSymbol
  obtain ⟨notToken, taken⟩ := Bool.and_eq_true_iff.mp ofSymbol
  rcases spelled with ⟨isToken, -⟩ | spelled
  · rw [isToken] at notToken
    cases notToken
  · have filled := spelled.fills (of_decide_eq_true taken)
    rw [List.take_length] at filled
    exact List.forall₂_map_right_iff.mp filled

namespace Python

/-! ## The rows of particular nodes -/

/-- A token of fixed text. -/
def isMark (text : String) (appearance : Appearance) : Bool := appearance = ⟨text, false, none⟩

/-- A named node in no field. -/
def isLoosePart (appearance : Appearance) : Bool := appearance.isNamed && appearance.field.isNone

private theorem fixed_rows :
    hasFixedRow grammar depth "parenthesized_expression"
      [isMark "(", isLoosePart, isMark ")"] = true ∧
    hasFixedRow grammar depth "list_splat_pattern" [isMark "*", isLoosePart] = true ∧
    hasFixedRow grammar depth "dictionary_splat_pattern" [isMark "**", isLoosePart] = true := by
  decide +kernel

section Rows

variable {source : Array Char} {root node : Node} (tree : PythonTree source root)
  (member : node ∈ root.preorder) (named : node.isNamed = true)

include tree member named

theorem PythonTree.row_of_parenthesized (ofKind : node.kind = "parenthesized_expression") :
    ∃ opening inner closing, node.solid = [opening, inner, closing] ∧
      appearanceOf opening = ⟨"(", false, none⟩ ∧ inner.isNamed = true ∧
      appearanceOf closing = ⟨")", false, none⟩ := by
  have row := (tree.conforms node member).fixed_row named ofKind fixed_rows.1
  match node.solid, row with
  | [opening, inner, closing], .cons opens (.cons isInner (.cons closes .nil)) =>
      exact ⟨opening, inner, closing, rfl, of_decide_eq_true opens,
        (Bool.and_eq_true_iff.mp isInner).1, of_decide_eq_true closes⟩

/-- The stars of a pattern and what stands after them. -/
theorem PythonTree.row_of_splat (ofKind : node.kind ∈ splatKinds) :
    ∃ stars target, node.solid = [stars, target] ∧ stars.isNamed = false ∧
      target.isNamed = true := by
  have row : ∃ text, List.Forall₂ (fun accepts child => accepts (appearanceOf child) = true)
      [isMark text, isLoosePart] node.solid := by
    obtain ⟨-, single, double⟩ := fixed_rows
    simp only [splatKinds, List.mem_cons, List.not_mem_nil, or_false] at ofKind
    rcases ofKind with isList | isDictionary
    · exact ⟨"*", (tree.conforms node member).fixed_row named isList single⟩
    · exact ⟨"**", (tree.conforms node member).fixed_row named isDictionary double⟩
  obtain ⟨text, row⟩ := row
  match node.solid, row with
  | [stars, target], .cons isStars (.cons isTarget .nil) =>
      have appears : appearanceOf stars = ⟨text, false, none⟩ := of_decide_eq_true isStars
      exact ⟨stars, target, rfl, congrArg Appearance.isNamed appears,
        (Bool.and_eq_true_iff.mp isTarget).1⟩

/-- A parameter with a type begins with what it binds. -/
theorem PythonTree.row_of_typed (ofKind : node.kind = "typed_parameter") :
    ∃ inner others, node.solid = inner :: others ∧ inner.isNamed = true := by
  obtain ⟨-, -, -, -, -, begins, -⟩ := parameters_shape
  obtain ⟨inner, isFirst, isNamed, -⟩ :=
    (tree.conforms node member).first_child named ofKind begins
  obtain ⟨others, inRow⟩ := List.head?_eq_some_iff.mp isFirst
  exact ⟨inner, others, inRow, isNamed⟩

/-- A parameter with a default value begins with its name. -/
theorem PythonTree.row_of_defaulted (ofKind : node.kind ∈ defaultKinds) :
    ∃ name others, node.solid = name :: others ∧ name.isNamed = true ∧
      name.label.field = some "name" := by
  obtain ⟨-, -, -, -, -, -, -, -, begins⟩ := parameters_shape
  obtain ⟨name, isFirst, isNamed, inField⟩ :=
    (tree.conforms node member).first_child named rfl (begins node.kind ofKind)
  obtain ⟨others, inRow⟩ := List.head?_eq_some_iff.mp isFirst
  exact ⟨name, others, inRow, isNamed, inField⟩

theorem PythonTree.child_of_concatenated (ofKind : node.kind = "concatenated_string") :
    ∀ child ∈ node.solid, child.isNamed = true ∧ child.kind = "string" :=
  (tree.conforms node member).every_child named ofKind literals_shape.2.2.2.1

/-- An expression statement begins with an expression, and between and after its expressions
there are commas only. -/
theorem PythonTree.row_of_expressionStatement (ofKind : node.kind = "expression_statement") :
    ∃ first others, node.solid = first :: others ∧ first.isNamed = true ∧
      ∀ child ∈ others, child.isNamed = true ∨ appearanceOf child = ⟨",", false, none⟩ := by
  obtain ⟨-, -, -, -, begins, shaped⟩ := literals_shape
  obtain ⟨first, isFirst, firstNamed⟩ :=
    (tree.conforms node member).first_child named ofKind begins
  have each := (tree.conforms node member).every_child named ofKind shaped
  obtain ⟨others, split⟩ := List.head?_eq_some_iff.mp isFirst
  refine ⟨first, others, split, firstNamed, ?_⟩
  intro child isChild
  exact each child (by simp [split, isChild])

end Rows

/-! ## Parts -/

theorem parts_eq_filter_solid (node : Node) : node.parts = node.solid.filter isNamed := by
  rw [parts, namedChildren, solid, List.filter_filter, List.filter_filter]
  apply List.filter_congr
  intro child _
  exact Bool.and_comm _ _

theorem PythonTree.of_part {source : Array Char} {root node part : Node}
    (tree : PythonTree source root) (member : node ∈ root.preorder) (isPart : part ∈ node.parts) :
    part ∈ root.preorder ∧ part.isNamed = true := by
  rw [parts_eq_filter_solid] at isPart
  obtain ⟨isSolid, isNamed⟩ := List.mem_filter.mp isPart
  exact ⟨tree.mem_of_solid member isSolid, isNamed⟩

end Python

end FunctionAtlas.Grammar
