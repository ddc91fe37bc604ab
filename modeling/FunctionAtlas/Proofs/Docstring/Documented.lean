import FunctionAtlas.Proofs.Docstring.ShownLiterals
import FunctionAtlas.Proofs.Grammar.FixedRows

/-!
Contract: which bodies have a docstring, and which one.

Extras left aside, a body is documented by literals if its first statement is an expression made of
nothing else: one literal, several in a row, or such an expression in parentheses. The docstring is
then read from these literals. It is read in the same way if commas follow the expression, although
the expression is then a tuple.

A literal in single or double quotes has the value of its body unless a letter makes it a format,
bytes or template string.

Owns: the literals that a body begins with, and the values of written literals.

Does not own: values of literals in back quotes.
-/

namespace FunctionAtlas.Docstring

open FunctionAtlas.FirstFailure
open FunctionAtlas.Grammar
open FunctionAtlas.Grammar.Python
open FunctionAtlas.Syntax
open FunctionAtlas.Syntax.Node

/-! ## Expressions made of literals -/

/-- An expression that is made of the given string literals and, extras aside, of nothing else but
parentheses around them. -/
inductive ConsistsOf : Node → List Node → Prop where
  | one {literal : Node} (isString : literal.kind = "string") : ConsistsOf literal [literal]
  | row {expression : Node}
      (isRow : expression.kind = "concatenated_string")
      (strings : ∀ part ∈ expression.solid, part.kind = "string") :
      ConsistsOf expression expression.solid
  | parenthesized {expression opening inner closing : Node} {literals : List Node}
      (wraps : expression.kind = "parenthesized_expression")
      (inRow : expression.solid = [opening, inner, closing])
      (opens : opening.kind = "(")
      (closes : closing.kind = ")")
      (inside : ConsistsOf inner literals) :
      ConsistsOf expression literals

def IsComma (node : Node) : Prop := node.kind = "," ∧ node.isNamed = false

/-- The first statement of a body is an expression made of the given literals, and the given commas
follow it in the statement. -/
def BeginsWith (body : Node) (literals commas : List Node) : Prop :=
  ∃ statement expression, body.parts.head? = some statement ∧
    statement.kind = "expression_statement" ∧
    statement.solid = expression :: commas ∧ (∀ comma ∈ commas, IsComma comma) ∧
    ConsistsOf expression literals

/-- Kinds of expressions that a docstring is read from. -/
def literalKinds : List String := ["string", "concatenated_string"]

section Expressions

variable {source : Array Char} {root node : Node} {literals : List Node}
  (tree : PythonTree source root)

include tree

/-- Parentheses are taken off one pair at a time. -/
theorem unwrapParentheses_of_wrapped (member : node ∈ root.preorder)
    (named : node.isNamed = true) (wraps : node.kind = "parenthesized_expression") :
    ∃ opening inner closing, node.solid = [opening, inner, closing] ∧ opening.kind = "(" ∧
      closing.kind = ")" ∧ inner.isNamed = true ∧ inner ∈ root.preorder ∧ inner ∈ node.children ∧
      unwrapParentheses node = unwrapParentheses inner := by
  obtain ⟨opening, inner, closing, inRow, opens, innerNamed, closes⟩ :=
    tree.row_of_parenthesized member named wraps
  have isSolid : inner ∈ node.solid := by simp [inRow]
  have openingToken : opening.isNamed = false := congrArg Appearance.isNamed opens
  have closingToken : closing.isNamed = false := congrArg Appearance.isNamed closes
  have onlyPart : node.parts = [inner] := by
    rw [parts_eq_filter_solid, inRow]
    simp [openingToken, innerNamed, closingToken]
  refine ⟨opening, inner, closing, inRow, congrArg Appearance.kind opens,
    congrArg Appearance.kind closes, innerNamed, tree.mem_of_solid member isSolid,
    (mem_solid_iff.mp isSolid).1, ?_⟩
  rw [unwrapParentheses_eq, if_pos wraps, onlyPart]

theorem unwrapParentheses_inTree (member : node ∈ root.preorder) (named : node.isNamed = true) :
    unwrapParentheses node ∈ root.preorder ∧ (unwrapParentheses node).isNamed = true := by
  induction node using Node.induction with
  | step label children inductionHypothesis =>
      by_cases wraps : (Node.mk label children).kind = "parenthesized_expression"
      · obtain ⟨-, inner, -, -, -, -, innerNamed, inTree, isChild, unwrapped⟩ :=
          unwrapParentheses_of_wrapped tree member named wraps
        rw [unwrapped]
        exact inductionHypothesis inner isChild inTree innerNamed
      · rw [unwrapParentheses_eq, if_neg wraps]
        exact ⟨member, named⟩

/-- The literals of a row are all of its children. -/
theorem literalsOf_of_row (member : node ∈ root.preorder) (named : node.isNamed = true)
    (isRow : node.kind = "concatenated_string") :
    (∀ part ∈ node.solid, part.kind = "string") ∧ node.parts = node.solid ∧
      literalsOf node = node.solid := by
  have children := tree.child_of_concatenated member named isRow
  have strings : ∀ part ∈ node.solid, part.kind = "string" :=
    fun part isPart => (children part isPart).2
  have allNamed : node.parts = node.solid := by
    rw [parts_eq_filter_solid, List.filter_eq_self]
    exact fun part isPart => (children part isPart).1
  have notString : node.kind ≠ "string" := by
    rw [isRow]
    decide
  refine ⟨strings, allNamed, ?_⟩
  rw [literalsOf, if_neg notString, if_pos isRow, allNamed, List.takeWhile_eq_self_iff]
  intro part isPart
  exact decide_eq_true (strings part isPart)

/-- What an expression is made of is what is left of it without parentheses. -/
theorem consistsOf_iff (member : node ∈ root.preorder) (named : node.isNamed = true) :
    ConsistsOf node literals ↔
      (unwrapParentheses node).kind ∈ literalKinds ∧
        literalsOf (unwrapParentheses node) = literals := by
  induction node using Node.induction with
  | step label children inductionHypothesis =>
      by_cases wraps : (Node.mk label children).kind = "parenthesized_expression"
      · obtain ⟨opening, inner, closing, inRow, opens, closes, innerNamed, inTree, isChild,
          unwrapped⟩ := unwrapParentheses_of_wrapped tree member named wraps
        rw [unwrapped, ← inductionHypothesis inner isChild inTree innerNamed]
        constructor
        · intro consists
          cases consists with
          | one isString => exact absurd (wraps.symm.trans isString) (by decide)
          | row isRow => exact absurd (wraps.symm.trans isRow) (by decide)
          | parenthesized _ otherRow _ _ inside =>
              have sameRow := inRow.symm.trans otherRow
              simp only [List.cons.injEq] at sameRow
              rw [sameRow.2.1]
              exact inside
        · exact ConsistsOf.parenthesized wraps inRow opens closes
      · rw [unwrapParentheses_eq, if_neg wraps]
        constructor
        · intro consists
          cases consists with
          | one isString =>
              refine ⟨by simp [literalKinds, isString], ?_⟩
              rw [literalsOf, if_pos isString]
          | row isRow =>
              exact ⟨by simp [literalKinds, isRow], (literalsOf_of_row tree member named isRow).2.2⟩
          | parenthesized wrapsToo => exact absurd wrapsToo wraps
        · intro isLiteral
          obtain ⟨ofKind, rfl⟩ := isLiteral
          simp only [literalKinds, List.mem_cons, List.not_mem_nil, or_false] at ofKind
          rcases ofKind with isString | isRow
          · rw [literalsOf, if_pos isString]
            exact .one isString
          · obtain ⟨strings, -, literalsAre⟩ := literalsOf_of_row tree member named isRow
            rw [literalsAre]
            exact .row isRow strings

end Expressions

/-! ## Values of rows -/

/-- A literal that is read as a plain string of the given value. -/
def Decodes (source : Array Char) (literal : Node) (value : String) : Prop :=
  decode (textOf source literal.label) = .ok (some value)

theorem joinedValue_eq_some_iff (source : Array Char) {literals : List Node}
    (strings : ∀ literal ∈ literals, literal.kind = "string") (value : String) :
    joinedValue source literals = .ok (some value) ↔
      ∃ values, List.Forall₂ (Decodes source) literals values ∧ value = String.join values := by
  induction literals generalizing value with
  | nil => simp [joinedValue, eq_comm]
  | cons literal rest inductionHypothesis =>
      obtain ⟨isString, others⟩ := List.forall_mem_cons.mp strings
      rw [joinedValue, if_neg (not_not_intro isString)]
      cases found : decode (textOf source literal.label) with
      | error fault => simp [List.forall₂_cons_left_iff, Decodes, found]
      | ok first =>
          cases first with
          | none => simp [List.forall₂_cons_left_iff, Decodes, found]
          | some first =>
              have tail := inductionHypothesis others
              constructor
              · intro joined
                cases rest : joinedValue source rest with
                | error fault => simp [rest, Except.map] at joined
                | ok other =>
                    cases other with
                    | none => simp [rest, Except.map] at joined
                    | some other =>
                        obtain ⟨values, each, rfl⟩ := (tail other).mp rest
                        refine ⟨first :: values, .cons found each, ?_⟩
                        simpa [rest, Except.map, eq_comm] using joined
              · rintro ⟨values, each, rfl⟩
                rw [List.forall₂_cons_left_iff] at each
                obtain ⟨head, values, decodes, each, rfl⟩ := each
                obtain rfl : first = head := by
                  simpa [Decodes, found] using decodes
                rw [(tail _).mpr ⟨values, each, rfl⟩]
                simp [Except.map]

theorem literalValue_eq_some_iff {source : Array Char} {root expression : Node}
    (tree : PythonTree source root) (member : expression ∈ root.preorder)
    (named : expression.isNamed = true) (value : String) :
    literalValue source expression = .ok (some value) ↔
      expression.kind ∈ literalKinds ∧
        ∃ values, List.Forall₂ (Decodes source) (literalsOf expression) values ∧
          value = String.join values := by
  unfold literalValue
  by_cases isString : expression.kind = "string"
  · have single : ∀ values, List.Forall₂ (Decodes source) [expression] values ↔
        ∃ only, values = [only] ∧ Decodes source expression only := by
      intro values
      simp [List.forall₂_cons_left_iff, and_comm]
    rw [if_pos isString, literalsOf, if_pos isString]
    simp only [literalKinds, isString, List.mem_cons, true_or, true_and, single]
    constructor
    · intro decodes
      exact ⟨[value], ⟨value, rfl, decodes⟩, by simp⟩
    · rintro ⟨values, ⟨only, rfl, decodes⟩, rfl⟩
      rw [String.join_cons, String.join_nil, String.append_empty]
      exact decodes
  · rw [if_neg isString]
    by_cases isRow : expression.kind = "concatenated_string"
    · obtain ⟨strings, partsAre, literalsAre⟩ := literalsOf_of_row tree member named isRow
      rw [if_pos isRow, partsAre, literalsAre, joinedValue_eq_some_iff source strings]
      simp [literalKinds, isRow]
    · simp [literalKinds, isString, isRow]

/-! ## Bodies -/

/-- The statement that the docstring of a body is read from has one expression, and commas may
follow it. -/
theorem parts_of_statement {source : Array Char} {root statement expression : Node}
    (tree : PythonTree source root) (member : statement ∈ root.preorder)
    (named : statement.isNamed = true) (ofKind : statement.kind = "expression_statement") :
    statement.parts = [expression] ↔
      expression.isNamed = true ∧
        ∃ commas, statement.solid = expression :: commas ∧ ∀ comma ∈ commas, IsComma comma := by
  obtain ⟨first, others, inRow, firstNamed, shaped⟩ :=
    tree.row_of_expressionStatement member named ofKind
  have partsAre : statement.parts = first :: others.filter isNamed := by
    rw [parts_eq_filter_solid, inRow, List.filter_cons, if_pos firstNamed]
  rw [partsAre, inRow]
  constructor
  · intro single
    obtain ⟨isExpression, noOther⟩ := List.cons.inj single
    rw [← isExpression]
    refine ⟨firstNamed, others, rfl, ?_⟩
    intro comma isComma
    rcases shaped comma isComma with commaNamed | appears
    · have listed : comma ∈ others.filter isNamed := List.mem_filter.mpr ⟨isComma, commaNamed⟩
      rw [noOther] at listed
      exact absurd listed List.not_mem_nil
    · exact ⟨congrArg Appearance.kind appears, congrArg Appearance.isNamed appears⟩
  · rintro ⟨-, commas, sameRow, areCommas⟩
    obtain ⟨rfl, rfl⟩ := List.cons.inj sameRow
    congr 1
    rw [List.filter_eq_nil_iff]
    intro comma isComma
    simp [(areCommas comma isComma).2]

theorem docExpression_eq_some_iff {body unwrapped : Node} :
    docExpression body = some unwrapped ↔
      ∃ statement expression, body.parts.head? = some statement ∧
        statement.kind = "expression_statement" ∧ statement.parts = [expression] ∧
        unwrapParentheses expression = unwrapped := by
  unfold docExpression docStatement
  rw [Option.bind_eq_some_iff]
  simp only [Option.filter_eq_some_iff, decide_eq_true_iff]
  constructor
  · rintro ⟨statement, ⟨isFirst, ofKind⟩, inside⟩
    split at inside
    next expression single =>
      exact ⟨statement, expression, isFirst, ofKind, single, Option.some.inj inside⟩
    next => cases inside
  · rintro ⟨statement, expression, isFirst, ofKind, single, rfl⟩
    refine ⟨statement, ⟨isFirst, ofKind⟩, ?_⟩
    rw [single]

section Bodies

variable {source : Array Char} {root body : Node} (tree : PythonTree source root)
  (member : body ∈ root.preorder)

include tree member

/-- The expression that a docstring is read from is in the tree. -/
theorem docExpression_inTree {expression : Node} (found : docExpression body = some expression) :
    expression ∈ root.preorder ∧ expression.isNamed = true := by
  obtain ⟨statement, wrapped, isFirst, -, single, rfl⟩ := docExpression_eq_some_iff.mp found
  have isPart : wrapped ∈ statement.parts := by simp [single]
  obtain ⟨statementMember, -⟩ := tree.of_part member (List.mem_of_head? isFirst)
  obtain ⟨isMember, isNamed⟩ := tree.of_part statementMember isPart
  exact unwrapParentheses_inTree tree isMember isNamed

/-- The literals that a body begins with are those that its docstring is read from. -/
theorem exists_beginsWith_iff {literals : List Node} :
    (∃ commas, BeginsWith body literals commas) ↔
      ∃ expression, docExpression body = some expression ∧ expression.kind ∈ literalKinds ∧
        literalsOf expression = literals := by
  simp only [docExpression_eq_some_iff]
  constructor
  · rintro ⟨commas, statement, expression, isFirst, ofKind, inRow, areCommas, consists⟩
    obtain ⟨statementMember, statementNamed⟩ := tree.of_part member (List.mem_of_head? isFirst)
    obtain ⟨first, others, splits, firstNamed, -⟩ :=
      tree.row_of_expressionStatement statementMember statementNamed ofKind
    obtain ⟨rfl, -⟩ := List.cons.inj (splits.symm.trans inRow)
    have isSolid : first ∈ statement.solid := by simp [inRow]
    have isMember := tree.mem_of_solid statementMember isSolid
    have single := (parts_of_statement tree statementMember statementNamed ofKind).mpr
      ⟨firstNamed, commas, inRow, areCommas⟩
    exact ⟨_, ⟨statement, first, isFirst, ofKind, single, rfl⟩,
      (consistsOf_iff tree isMember firstNamed).mp consists⟩
  · rintro ⟨unwrapped, ⟨statement, expression, isFirst, ofKind, single, rfl⟩, isLiteral⟩
    have isPart : expression ∈ statement.parts := by simp [single]
    obtain ⟨statementMember, statementNamed⟩ := tree.of_part member (List.mem_of_head? isFirst)
    obtain ⟨isMember, isNamed⟩ := tree.of_part statementMember isPart
    obtain ⟨-, commas, inRow, areCommas⟩ :=
      (parts_of_statement tree statementMember statementNamed ofKind).mp single
    exact ⟨commas, statement, expression, isFirst, ofKind, inRow, areCommas,
      (consistsOf_iff tree isMember isNamed).mpr isLiteral⟩

theorem docstringLiterals_of_beginsWith {literals commas : List Node}
    (begins : BeginsWith body literals commas) : docstringLiterals body = literals := by
  obtain ⟨expression, found, -, literalsAre⟩ :=
    (exists_beginsWith_iff tree member).mp ⟨commas, begins⟩
  rw [docstringLiterals_eq, found]
  exact literalsAre

/-- The docstring of a body is that of the literals it begins with, whether or not commas follow
them. -/
theorem ofBody_eq_some_iff (value : String) :
    ofBody source body = .ok (some value) ↔
      ∃ literals commas values, BeginsWith body literals commas ∧
        List.Forall₂ (Decodes source) literals values ∧ value = clean (String.join values) := by
  have reads : ofBody source body = .ok (some value) ↔
      ∃ expression, docExpression body = some expression ∧
        ∃ joined, literalValue source expression = .ok (some joined) ∧ value = clean joined := by
    rw [ofBody_eq]
    cases docExpression body with
    | none => simp
    | some expression =>
        simp only [Option.some.injEq, exists_eq_left']
        cases literalValue source expression with
        | error fault => simp [Except.map]
        | ok found => cases found <;> simp [Except.map, eq_comm]
  rw [reads]
  constructor
  · rintro ⟨expression, found, joined, read, rfl⟩
    obtain ⟨isMember, isNamed⟩ := docExpression_inTree tree member found
    obtain ⟨ofKind, values, each, rfl⟩ :=
      (literalValue_eq_some_iff tree isMember isNamed joined).mp read
    obtain ⟨commas, begins⟩ :=
      (exists_beginsWith_iff tree member).mpr ⟨expression, found, ofKind, rfl⟩
    exact ⟨_, commas, values, begins, each, rfl⟩
  · rintro ⟨literals, commas, values, begins, each, rfl⟩
    obtain ⟨expression, found, ofKind, rfl⟩ :=
      (exists_beginsWith_iff tree member).mp ⟨commas, begins⟩
    obtain ⟨isMember, isNamed⟩ := docExpression_inTree tree member found
    have read := (literalValue_eq_some_iff tree isMember isNamed _).mpr ⟨ofKind, values, each, rfl⟩
    exact ⟨expression, found, String.join values, read, rfl⟩

end Bodies

/-! ## Written literals -/

namespace Spelling

/-- What a literal in single or double quotes stands for: its body, with the escapes replaced
unless it is raw. -/
def value (spelling : Spelling) : String :=
  String.ofList
    (if spelling.letters.any isRawLetter then spelling.body else unescape spelling.body)

/-- A plain string: in single or double quotes, and no format, bytes or template string. -/
def IsPlain (spelling : Spelling) : Prop :=
  isQuote spelling.quote = true ∧ ∀ letter ∈ spelling.letters, isSpecialLetter letter = false

variable (spelling : Spelling)

theorem length_marks_of_isQuote (quotes : isQuote spelling.quote = true) :
    byteLength spelling.marks = spelling.marks.length := by
  have narrow := utf8Size_of_isQuote quotes
  cases triple : spelling.isTriple <;> simp [marks, triple, narrow, List.replicate]

theorem lettersOf_text (quotes : isQuote spelling.quote = true) :
    lettersOf spelling.text = spelling.letters := by
  rw [text, lettersOf_append spelling.not_isQuote_of_mem_letters]
  cases triple : spelling.isTriple <;> simp [marks, triple, List.replicate, quotes]

/-- A literal in single or double quotes is read as it is written. -/
theorem decode_text (quotes : isQuote spelling.quote = true) :
    decode (String.ofList spelling.text) =
      .ok (if spelling.letters.any isSpecialLetter then none else some spelling.value) := by
  obtain ⟨quoted, width⟩ := spelling.quoteLength_quotedOf_text quotes
  have bytes : byteLength (quotedOf spelling.text) =
      byteLength (spelling.marks ++ spelling.body) + byteLength spelling.marks := by
    rw [quoted, ← List.append_assoc, byteLength_append]
  have opened : takeBytes (byteLength (spelling.marks ++ spelling.body))
      (spelling.marks ++ (spelling.body ++ spelling.marks)) =
        some (spelling.marks ++ spelling.body) :=
    (takeBytes_eq_some_iff _ _ _).mpr ⟨spelling.marks, by simp, rfl⟩
  unfold decode
  simp only [String.toList_ofList, spelling.lettersOf_text quotes, width, bytes]
  by_cases special : spelling.letters.any isSpecialLetter = true
  · rw [if_pos special, if_pos special]
  · have long : ¬ byteLength (spelling.marks ++ spelling.body) + byteLength spelling.marks <
        byteLength spelling.marks * 2 := by
      rw [byteLength_append]
      omega
    rw [if_neg special, if_neg special, if_neg long, Nat.add_sub_cancel, quoted, opened,
      spelling.length_marks_of_isQuote quotes]
    simp only [List.drop_left]
    rfl

/-- Literals in single or double quotes have a value exactly if they are plain strings. -/
theorem decode_text_eq_some_iff (quotes : isQuote spelling.quote = true) (found : String) :
    decode (String.ofList spelling.text) = .ok (some found) ↔
      spelling.IsPlain ∧ found = spelling.value := by
  rw [spelling.decode_text quotes, IsPlain]
  by_cases special : spelling.letters.any isSpecialLetter = true
  · have notPlain : ¬ ∀ letter ∈ spelling.letters, isSpecialLetter letter = false := by
      intro plain
      obtain ⟨letter, isLetter, isSpecial⟩ := List.any_eq_true.mp special
      rw [plain letter isLetter] at isSpecial
      cases isSpecial
    simp [special, notPlain]
  · have plain : ∀ letter ∈ spelling.letters, isSpecialLetter letter = false := by
      simpa using special
    rw [if_neg special, Except.ok.injEq, Option.some.injEq]
    exact ⟨fun same => ⟨⟨quotes, plain⟩, same.symm⟩, fun stands => stands.2.symm⟩

end Spelling

end FunctionAtlas.Docstring
