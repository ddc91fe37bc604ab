import FunctionAtlas.Proofs.Docstring.Reading
import FunctionAtlas.Proofs.Grammar.PythonTree

/-!
Contract: when the written form of a body tells its docstring.

The written form shows which statement comes first, which expression it is made of and which
literals that has. Of a literal it shows the parts. They tell its text if they cover it without
gaps and are shown by their text themselves, and they tell that it has no value if they begin with
the letter of a format, bytes or template string. A part with an escape inside shows only the
escape, and then two literals of different values can be written alike.

Owns: the literals that are told by what is shown, and the agreement of docstrings.
-/

namespace FunctionAtlas.Docstring

open FunctionAtlas.Grammar.Python
open FunctionAtlas.Syntax
open FunctionAtlas.Syntax.Node

/-! ## The expression of a docstring -/

/-- The first statement of a body, if it is an expression. -/
def docStatement (body : Node) : Option Node :=
  body.parts.head?.filter fun first => first.kind = "expression_statement"

/-- The expression that a docstring is read from. -/
def docExpression (body : Node) : Option Node :=
  (docStatement body).bind fun statement =>
    match statement.parts with
    | [expression] => some (unwrapParentheses expression)
    | _ => none

theorem ofBody_eq (source : Array Char) (body : Node) :
    ofBody source body =
      match docExpression body with
      | none => .ok none
      | some expression => (literalValue source expression).map fun value => value.map clean := by
  unfold ofBody docExpression docStatement
  cases body.parts.head? with
  | none => rfl
  | some first =>
      by_cases isExpression : first.kind = "expression_statement"
      · simp only [isExpression, ne_eq, not_true, if_false, Option.filter_some, decide_true,
          if_true, Option.bind_some]
        cases first.parts with
        | nil => rfl
        | cons expression others => cases others <;> rfl
      · simp [isExpression, Option.filter_some]

theorem docstringLiterals_eq (body : Node) :
    docstringLiterals body = ((docExpression body).map literalsOf).getD [] := by
  unfold docstringLiterals docExpression docStatement
  cases body.parts.head? with
  | none => rfl
  | some first =>
      by_cases isExpression : first.kind = "expression_statement"
      · simp only [isExpression, ne_eq, not_true, if_false, Option.filter_some, decide_true,
          if_true, Option.bind_some]
        cases first.parts with
        | nil => rfl
        | cons expression others => cases others <;> rfl
      · simp [isExpression, Option.filter_some]

theorem unwrapParentheses_eq (node : Node) :
    unwrapParentheses node =
      if node.kind = "parenthesized_expression" then
        match node.parts with
        | [only] => unwrapParentheses only
        | _ => node
      else node := by
  obtain ⟨label, children⟩ := node
  have inside : (children.attach.filter fun child =>
      child.val.isNamed && !child.val.isExtra).map Subtype.val = (Node.mk label children).parts := by
    have moved := List.filter_map (f := Subtype.val) (l := children.attach)
      (p := fun child : Node => child.isNamed && !child.isExtra)
    rw [List.attach_map_subtype_val] at moved
    rw [parts, namedChildren, List.filter_filter]
    simp only [Bool.and_comm] at moved ⊢
    exact moved.symm
  rw [unwrapParentheses]
  by_cases wraps : label.kind = "parenthesized_expression"
  · have wrapsNode : (Node.mk label children).kind = "parenthesized_expression" := wraps
    rw [if_pos wraps, if_pos wrapsNode, ← inside]
    cases children.attach.filter fun child => child.val.isNamed && !child.val.isExtra with
    | nil => rfl
    | cons only others => cases others <;> rfl
  · have other : (Node.mk label children).kind ≠ "parenthesized_expression" := wraps
    rw [if_neg wraps, if_neg other]

/-! ## Agreeing expressions -/

private theorem rel_filter {related : Node → Node → Prop} {first second : Option Node}
    (rel : Option.Rel related first second) {keeps : Node → Bool}
    (alike : ∀ node other, related node other → keeps node = keeps other) :
    Option.Rel related (first.filter keeps) (second.filter keeps) := by
  cases rel with
  | none => exact .none
  | @some node other agree =>
      have same := alike node other agree
      cases kept : keeps node with
      | true => simpa [Option.filter_some, ← same, kept] using Option.Rel.some agree
      | false => simp [Option.filter_some, ← same, kept]

private theorem rel_bind {related : Node → Node → Prop} {first second : Option Node}
    (rel : Option.Rel related first second) {step : Node → Option Node}
    (alike : ∀ node ∈ first, ∀ other, related node other →
      Option.Rel related (step node) (step other)) :
    Option.Rel related (first.bind step) (second.bind step) := by
  cases rel with
  | none => exact .none
  | some agree => exact alike _ rfl _ agree

section Expressions

variable {source otherSource : Array Char} {root otherRoot node other : Node}
  (tree : PythonTree source root) (otherTree : PythonTree otherSource otherRoot)

include tree otherTree

/-- Where the grammar puts no child in a field, nodes that agree have agreeing parts. -/
theorem forall₂_parts (agree : AgreeIn source otherSource root otherRoot node other)
    (ofKind : node.kind ∈
      ["expression_statement", "parenthesized_expression", "concatenated_string"]) :
    List.Forall₂ (AgreeIn source otherSource root otherRoot) node.parts other.parts := by
  have otherOfKind := ofKind
  rw [agree.kind_eq] at otherOfKind
  rw [parts_eq_loose fun child isChild _ =>
      tree.unfielded agree.inTree agree.named ofKind isChild,
    parts_eq_loose fun child isChild _ =>
      otherTree.unfielded agree.otherInTree agree.otherNamed otherOfKind isChild]
  exact agree.loose

omit otherTree in
/-- A block that begins with an expression shows it first. -/
theorem docStatement_eq_loose (member : node ∈ root.preorder) (named : node.isNamed = true)
    (isBlock : node.kind = "block") :
    docStatement node =
      node.loose.head?.filter fun first => first.kind = "expression_statement" := by
  unfold docStatement
  rcases tree.children_of_block member named isBlock with unfielded | others
  · rw [parts_eq_loose fun child isChild _ => unfielded child isChild]
  · have none : ∀ {nodes : List Node}, (∀ child ∈ nodes, child ∈ node.solid) →
        nodes.head?.filter (fun first => first.kind = "expression_statement") = none := by
      intro nodes inside
      rw [Option.filter_eq_none_iff]
      intro first isFirst
      simpa using others first (inside first (List.mem_of_head? isFirst))
    rw [none, none]
    · exact fun child isLoose => (mem_loose_iff.mp isLoose).1
    · intro child isPart
      obtain ⟨isNamed, notExtra⟩ := List.mem_filter.mp isPart
      exact mem_solid_iff.mpr ⟨(List.mem_filter.mp isNamed).1, by simpa using notExtra⟩

theorem rel_docStatement (agree : AgreeIn source otherSource root otherRoot node other)
    (isBlock : node.kind = "block") :
    Option.Rel (AgreeIn source otherSource root otherRoot)
      (docStatement node) (docStatement other) := by
  rw [docStatement_eq_loose tree agree.inTree agree.named isBlock,
    docStatement_eq_loose otherTree agree.otherInTree agree.otherNamed (agree.kind_eq ▸ isBlock)]
  apply rel_filter (rel_head?_of_forall₂ agree.loose)
  intro first otherFirst agreeFirst
  rw [agreeFirst.kind_eq]

/-- What is inside parentheses agrees if the parentheses do. -/
theorem agree_unwrapParentheses (agree : AgreeIn source otherSource root otherRoot node other) :
    AgreeIn source otherSource root otherRoot
      (unwrapParentheses node) (unwrapParentheses other) := by
  induction node using Node.induction generalizing other with
  | step label children inductionHypothesis =>
      rw [unwrapParentheses_eq, unwrapParentheses_eq other, ← agree.kind_eq]
      by_cases wraps : (Node.mk label children).kind = "parenthesized_expression"
      · rw [if_pos wraps, if_pos wraps]
        have each := forall₂_parts tree otherTree agree (by simp [wraps])
        have isChild : ∀ part ∈ (Node.mk label children).parts, part ∈ children := by
          intro part isPart
          exact (List.mem_filter.mp (List.mem_filter.mp isPart).1).1
        cases split : (Node.mk label children).parts with
        | nil =>
            rw [split, List.forall₂_nil_left_iff] at each
            simpa [each] using agree
        | cons only others =>
            rw [split, List.forall₂_cons_left_iff] at each
            obtain ⟨otherOnly, rest, agreeOnly, agreeRest, otherSplit⟩ := each
            rw [otherSplit]
            cases agreeRest with
            | nil => exact inductionHypothesis only (isChild only (by simp [split])) agreeOnly
            | cons _ _ => exact agree
      · rw [if_neg wraps, if_neg wraps]
        exact agree

theorem rel_docExpression (agree : AgreeIn source otherSource root otherRoot node other)
    (isBlock : node.kind = "block") :
    Option.Rel (AgreeIn source otherSource root otherRoot)
      (docExpression node) (docExpression other) := by
  apply rel_bind (rel_docStatement tree otherTree agree isBlock)
  intro statement isStatement otherStatement agreeStatement
  have ofKind : statement.kind = "expression_statement" := by
    simpa using (Option.filter_eq_some_iff.mp isStatement).2
  have each := forall₂_parts tree otherTree agreeStatement (by simp [ofKind])
  generalize statement.parts = parts at each ⊢
  generalize otherStatement.parts = otherParts at each ⊢
  cases each with
  | nil => exact .none
  | cons agreeOnly agreeRest =>
      cases agreeRest with
      | nil => exact .some (agree_unwrapParentheses tree otherTree agreeOnly)
      | cons _ _ => exact .none

end Expressions

/-! ## Texts of literals -/

/-- Nodes that cover a part of the text one after the other, without gaps. -/
def Covers : Nat → Nat → List Node → Prop
  | start, stop, [] => start = stop
  | start, stop, node :: rest =>
      node.label.start.chars = start ∧ start ≤ node.label.stop.chars ∧
        Covers node.label.stop.chars stop rest

instance decidableCovers : ∀ start stop nodes, Decidable (Covers start stop nodes)
  | start, stop, [] => inferInstanceAs (Decidable (start = stop))
  | _, stop, node :: rest =>
      have := decidableCovers node.label.stop.chars stop rest
      inferInstanceAs (Decidable (_ ∧ _ ∧ _))

theorem Covers.le {start stop : Nat} {nodes : List Node} (covers : Covers start stop nodes) :
    start ≤ stop := by
  induction nodes generalizing start with
  | nil => exact Nat.le_of_eq covers
  | cons node rest inductionHypothesis =>
      obtain ⟨-, below, others⟩ := covers
      exact Nat.le_trans below (inductionHypothesis others)

/-- The text that nodes cover is made of their texts. -/
theorem Covers.toList_extract (source : Array Char) {start stop : Nat} {nodes : List Node}
    (covers : Covers start stop nodes) :
    (source.extract start stop).toList =
      nodes.flatMap fun node => (textOf source node.label).toList := by
  induction nodes generalizing start with
  | nil =>
      obtain rfl : start = stop := covers
      simp
  | cons node rest inductionHypothesis =>
      obtain ⟨starts, below, others⟩ := covers
      have joined : source.extract start node.label.stop.chars ++
          source.extract node.label.stop.chars stop = source.extract start stop := by
        rw [Array.extract_append_extract, Nat.min_eq_left below, Nat.max_eq_right others.le]
      rw [List.flatMap_cons, ← inductionHypothesis others, ← joined, Array.toList_append, textOf,
        starts, String.toList_ofList]

/-- A text that makes every literal that begins with it a format, bytes or template string. -/
def opensSpecial (text : String) : Bool :=
  text.toList.any isQuote && (lettersOf text.toList).any isSpecialLetter

/-- What comes after the first quote does not change the letters before it. -/
theorem lettersOf_append_of_quote {front back : List Char} (quotes : front.any isQuote = true) :
    lettersOf (front ++ back) = lettersOf front := by
  induction front with
  | nil => cases quotes
  | cons character rest inductionHypothesis =>
      unfold lettersOf at inductionHypothesis ⊢
      rw [List.cons_append, List.takeWhile_cons, List.takeWhile_cons]
      cases isMark : isQuote character with
      | true => rfl
      | false =>
          rw [List.any_cons, isMark, Bool.false_or] at quotes
          rw [inductionHypothesis quotes]

theorem decode_of_opensSpecial {text literal : String} (special : opensSpecial text = true)
    (begins : text.toList <+: literal.toList) : decode literal = .ok none := by
  obtain ⟨quotes, letters⟩ := Bool.and_eq_true_iff.mp special
  obtain ⟨rest, split⟩ := begins
  unfold decode
  rw [← split, lettersOf_append_of_quote quotes, if_pos letters]

/-! ## Literals that are told by what is shown -/

/-- The parts of a literal show all of its text. -/
structure ShowsText (literal : Node) : Prop where
  covered : Covers literal.label.start.chars literal.label.stop.chars literal.loose
  byText : ∀ part ∈ literal.loose, part.isShownByText = true

theorem ShowsText.toList_text {literal : Node} (shows : ShowsText literal)
    (source : Array Char) :
    (textOf source literal.label).toList =
      literal.loose.flatMap fun part => (textOf source part.label).toList := by
  rw [textOf, String.toList_ofList, shows.covered.toList_extract]

/-- The first part of a literal shows that it is a format, bytes or template string. -/
def ShowsSpecial (source : Array Char) (literal : Node) : Prop :=
  ∃ first, literal.loose.head? = some first ∧ first.isShownByText = true ∧
    first.label.start.chars = literal.label.start.chars ∧
    first.label.stop.chars ≤ literal.label.stop.chars ∧
    opensSpecial (textOf source first.label) = true

/-- What is shown of a literal tells its value. -/
def Told (source : Array Char) (literal : Node) : Prop :=
  ShowsText literal ∨ ShowsSpecial source literal

/-- A literal that is told begins with the text of its first part. -/
theorem Told.first {source : Array Char} {literal first : Node} (told : Told source literal)
    (isFirst : literal.loose.head? = some first) :
    first.isShownByText = true ∧
      (textOf source first.label).toList <+: (textOf source literal.label).toList := by
  rcases told with shows | ⟨found, isFound, byText, starts, below, -⟩
  · refine ⟨shows.byText first (List.mem_of_head? isFirst), ?_⟩
    obtain ⟨rest, split⟩ := List.head?_eq_some_iff.mp isFirst
    rw [shows.toList_text, split, List.flatMap_cons]
    exact List.prefix_append _ _
  · obtain rfl := Option.some.inj (isFirst.symm.trans isFound)
    refine ⟨byText, ?_⟩
    simp only [textOf, String.toList_ofList, Array.toList_extract, List.extract_eq_take_drop,
      starts]
    exact List.take_prefix_take_left (by omega)

section Values

variable {source otherSource : Array Char} {root otherRoot node other : Node}

private theorem flatMap_text_eq {nodes others : List Node}
    (each : List.Forall₂ (SameShown source otherSource) nodes others)
    (byText : ∀ node ∈ nodes, node.isShownByText = true) :
    (nodes.flatMap fun node => (textOf source node.label).toList) =
      others.flatMap fun other => (textOf otherSource other.label).toList := by
  induction each with
  | nil => rfl
  | cons same _ inductionHypothesis =>
      obtain ⟨firstByText, othersByText⟩ := List.forall_mem_cons.mp byText
      rw [List.flatMap_cons, List.flatMap_cons, same.text_eq firstByText,
        inductionHypothesis othersByText]

/-- Literals that are told and agree have the same value. -/
theorem decode_eq_of_told (agree : AgreeIn source otherSource root otherRoot node other)
    (told : Told source node) (otherTold : Told otherSource other) :
    decode (textOf source node.label) = decode (textOf otherSource other.label) := by
  have each := agree.same.loose agree.named
  by_cases special : ∃ first, node.loose.head? = some first ∧
      opensSpecial (textOf source first.label) = true
  · obtain ⟨first, isFirst, opens⟩ := special
    obtain ⟨rest, split⟩ := List.head?_eq_some_iff.mp isFirst
    rw [split, List.forall₂_cons_left_iff] at each
    obtain ⟨otherFirst, otherRest, agreeFirst, -, otherSplit⟩ := each
    have isOtherFirst : other.loose.head? = some otherFirst := by rw [otherSplit]; rfl
    obtain ⟨byText, begins⟩ := told.first isFirst
    have otherOpens := opens
    rw [agreeFirst.text_eq byText] at otherOpens
    rw [decode_of_opensSpecial opens begins,
      decode_of_opensSpecial otherOpens (otherTold.first isOtherFirst).2]
  · -- Neither literal shows a special letter, so both show all of their text.
    have shows : ShowsText node := told.resolve_right fun found => by
      obtain ⟨first, isFirst, -, -, -, opens⟩ := found
      exact special ⟨first, isFirst, opens⟩
    have otherShows : ShowsText other := otherTold.resolve_right fun found => by
      obtain ⟨otherFirst, isOtherFirst, -, -, -, opens⟩ := found
      obtain ⟨otherRest, otherSplit⟩ := List.head?_eq_some_iff.mp isOtherFirst
      rw [otherSplit, List.forall₂_cons_right_iff] at each
      obtain ⟨first, rest, agreeFirst, -, split⟩ := each
      have isFirst : node.loose.head? = some first := by rw [split]; rfl
      rw [← agreeFirst.text_eq (shows.byText first (by simp [split]))] at opens
      exact special ⟨first, isFirst, opens⟩
    have sameText : textOf source node.label = textOf otherSource other.label := by
      apply String.toList_inj.mp
      rw [shows.toList_text, otherShows.toList_text]
      exact flatMap_text_eq each shows.byText
    rw [sameText]

/-- Rows of literals that are told and agree have the same value. -/
theorem joinedValue_eq_of_told {parts otherParts : List Node}
    (each : List.Forall₂ (AgreeIn source otherSource root otherRoot) parts otherParts)
    (told : ∀ literal ∈ parts.takeWhile fun part => part.kind = "string", Told source literal)
    (otherTold : ∀ literal ∈ otherParts.takeWhile fun part => part.kind = "string",
      Told otherSource literal) :
    joinedValue source parts = joinedValue otherSource otherParts := by
  induction each with
  | nil => rfl
  | @cons part otherPart rest otherRest agree _ inductionHypothesis =>
      rw [joinedValue, joinedValue, ← agree.kind_eq]
      by_cases isString : part.kind = "string"
      · have otherIsString : otherPart.kind = "string" := agree.kind_eq ▸ isString
        rw [List.takeWhile_cons_of_pos (by simpa using isString), List.forall_mem_cons] at told
        rw [List.takeWhile_cons_of_pos (by simpa using otherIsString),
          List.forall_mem_cons] at otherTold
        rw [if_neg (not_not_intro isString), if_neg (not_not_intro isString),
          decode_eq_of_told agree told.1 otherTold.1, inductionHypothesis told.2 otherTold.2]
      · rw [if_pos isString, if_pos isString]

/-- Expressions whose literals are told and that agree have the same value. -/
theorem literalValue_eq_of_told (tree : PythonTree source root)
    (otherTree : PythonTree otherSource otherRoot)
    (agree : AgreeIn source otherSource root otherRoot node other)
    (told : ∀ literal ∈ literalsOf node, Told source literal)
    (otherTold : ∀ literal ∈ literalsOf other, Told otherSource literal) :
    literalValue source node = literalValue otherSource other := by
  unfold literalValue literalsOf at *
  rw [← agree.kind_eq] at otherTold ⊢
  by_cases isString : node.kind = "string"
  · rw [if_pos isString] at told otherTold
    rw [if_pos isString, if_pos isString]
    exact decode_eq_of_told agree (told node List.mem_cons_self)
      (otherTold other List.mem_cons_self)
  · rw [if_neg isString] at told otherTold
    rw [if_neg isString, if_neg isString]
    by_cases isRow : node.kind = "concatenated_string"
    · rw [if_pos isRow] at told otherTold
      rw [if_pos isRow, if_pos isRow]
      exact joinedValue_eq_of_told (forall₂_parts tree otherTree agree (by simp [isRow]))
        told otherTold
    · rw [if_neg isRow, if_neg isRow]

/-- Bodies whose docstrings are told and that agree have the same docstring. -/
theorem ofBody_eq_of_told (tree : PythonTree source root)
    (otherTree : PythonTree otherSource otherRoot)
    (agree : AgreeIn source otherSource root otherRoot node other)
    (isBlock : node.kind = "block")
    (told : ∀ literal ∈ docstringLiterals node, Told source literal)
    (otherTold : ∀ literal ∈ docstringLiterals other, Told otherSource literal) :
    ofBody source node = ofBody otherSource other := by
  have expressions := rel_docExpression tree otherTree agree isBlock
  rw [ofBody_eq, ofBody_eq]
  rw [docstringLiterals_eq] at told otherTold
  generalize docExpression node = expression at *
  generalize docExpression other = otherExpression at *
  cases expressions with
  | none => rfl
  | some agreeExpression =>
      have sameValue :=
        literalValue_eq_of_told tree otherTree agreeExpression told otherTold
      simp only [sameValue]

end Values

/-- A literal without escapes is told by its three parts. -/
example :
    let source := "'ab'".toList.toArray
    Told source (nodeOver source "string" none 0 4
      [nodeOver source "string_start" none 0 1 [], nodeOver source "string_content" none 1 3 [],
        nodeOver source "string_end" none 3 4 []]) :=
  .inl ⟨by decide, by decide⟩

end FunctionAtlas.Docstring
