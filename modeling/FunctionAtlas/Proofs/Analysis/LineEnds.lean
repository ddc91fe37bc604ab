import FunctionAtlas.Proofs.Analysis.DocstringOfRecord
import FunctionAtlas.Proofs.Analysis.Reparsed
import FunctionAtlas.Proofs.Docstring.CleanedReturns
import FunctionAtlas.Proofs.Syntax.Correspondence

/-!
Contract: what the form of line ends changes in records.

A text may end its lines with a line feed or with a return and a line feed. If the parser makes
corresponding trees of both forms, whose names have the same texts and whose literals differ in the
returns, then both are valid modules or neither is, and their records agree in all names and in
being asynchronous. Docstrings agree only if cleaning takes away every return.

Owns: the records of a text with returns.

Does not own: that a parser makes corresponding trees; it does not for every text.
-/

namespace FunctionAtlas.Analysis

open FunctionAtlas.Docstring
open FunctionAtlas.FirstFailure
open FunctionAtlas.Grammar
open FunctionAtlas.Grammar.Python
open FunctionAtlas.Syntax
open FunctionAtlas.Syntax.Node

/-- How the texts of two nodes are related: names are the same, and the literal of the second has a
return before every line feed. -/
structure TextsReturn (source otherSource : Array Char) (node other : Node) : Prop where
  word : node.kind = "identifier" → textOf source node.label = textOf otherSource other.label
  literal : node.kind = "string" →
    (textOf otherSource other.label).toList = withReturns (textOf source node.label).toList

section Reading

variable {source otherSource : Array Char} {root node other : Node}

/-! ## Names -/

/-- Corresponding nodes bind identifiers of the same text. -/
theorem exists_boundIdentifier_of_corresponds
    (same : Corresponds (TextsReturn source otherSource) node other) {identifier : Label}
    (bound : boundIdentifier node = some identifier) :
    ∃ otherIdentifier, boundIdentifier other = some otherIdentifier ∧
      textOf otherSource otherIdentifier = textOf source identifier := by
  induction node using Node.induction generalizing other with
  | step label children inductionHypothesis =>
      have ofChild : ∀ {found otherFound : Option Node}, (∀ child ∈ found, child ∈ children) →
          Option.Rel (Corresponds (TextsReturn source otherSource)) found otherFound →
          found.bind boundIdentifier = some identifier →
          ∃ otherIdentifier, otherFound.bind boundIdentifier = some otherIdentifier ∧
            textOf otherSource otherIdentifier = textOf source identifier := by
        intro found otherFound inside both binds
        cases both with
        | none => cases binds
        | some sameChild => exact inductionHypothesis _ (inside _ rfl) sameChild binds
      rw [boundIdentifier_eq] at bound
      rw [boundIdentifier_eq, ← same.kind_eq]
      split_ifs at bound ⊢ with isIdentifier
      · obtain rfl := Option.some.inj bound
        exact ⟨other.label, rfl, (same.areRelated.word isIdentifier).symm⟩
      · exact ofChild (fun child found => List.mem_of_find?_eq_some found)
          (same.childByField "name") bound
      · exact ofChild (fun child found => (List.mem_filter.mp (List.mem_of_head? found)).1)
          (rel_head?_of_forall₂ same.namedChildren) bound

theorem parameterName_of_corresponds {file : String} {name : Option String}
    (same : Corresponds (TextsReturn source otherSource) node other)
    (succeeds : parameterName file source node = .ok name) :
    parameterName file otherSource other = .ok name := by
  have otherKind : other.label.kind = node.kind := same.kind_eq.symm
  have notTuple : ∀ {identifier : Label}, boundIdentifier node = some identifier →
      node.kind ≠ "tuple_pattern" := by
    intro identifier bound isTuple
    rw [boundIdentifier_eq, isTuple] at bound
    cases bound
  unfold parameterName
  simp only [otherKind]
  rcases parameterName_eq_ok succeeds with ⟨separates, rfl⟩ | ⟨notSeparator, identifier, bound, rfl⟩
  · rw [if_pos separates]
  · obtain ⟨otherIdentifier, otherBound, sameText⟩ :=
      exists_boundIdentifier_of_corresponds same bound
    rw [if_neg (by simp [notSeparator]), if_neg (notTuple bound), otherBound]
    simp only [sameText]

theorem parameterNames_of_corresponds {file : String} {parameters others : List Node}
    {names : List String}
    (each : List.Forall₂ (Corresponds (TextsReturn source otherSource)) parameters others)
    (succeeds : parameterNames file source parameters = .ok names) :
    parameterNames file otherSource others = .ok names := by
  obtain ⟨found, named, rfl⟩ := exists_of_parameterNames succeeds
  have otherNamed : List.Forall₂
      (fun parameter name => parameterName file otherSource parameter = .ok name) others found := by
    clear succeeds
    induction each generalizing found with
    | nil =>
        cases named
        exact .nil
    | cons same _ inductionHypothesis =>
        cases named with
        | cons first rest =>
            exact .cons (parameterName_of_corresponds same first) (inductionHypothesis _ rest)
  rw [parameterNames_eq_map_mapM, (mapM_eq_ok_iff others found).mpr otherNamed]
  rfl

theorem isAsyncDefinition_of_corresponds
    (same : Corresponds (TextsReturn source otherSource) node other) :
    isAsyncDefinition other = isAsyncDefinition node := by
  have heads := rel_head?_of_forall₂ same.children
  unfold isAsyncDefinition
  generalize node.children.head? = first at heads ⊢
  generalize other.children.head? = otherFirst at heads ⊢
  cases heads with
  | none => rfl
  | some sameFirst => simp only [sameFirst.kind_eq]

/-- The name of a class or a function is an identifier. -/
theorem kind_of_definedName (tree : PythonTree source root) (member : node ∈ root.preorder)
    (named : node.isNamed = true)
    (opens : node.kind = "function_definition" ∨ node.kind = "class_definition") {name : Node}
    (found : node.childByField "name" = some name) : name.kind = "identifier" := by
  rcases opens with defines | isClass
  · obtain ⟨same, -, sameFound, isIdentifier, -⟩ := tree.exists_name member defines
    rw [Option.some.inj (found.symm.trans sameFound)]
    exact isIdentifier
  · obtain ⟨-, -, -, -, -, -, -, -, shaped⟩ := definition_shape
    exact ((tree.conforms node member).shape_of_childByField named isClass shaped found).2

theorem definedName?_of_corresponds (tree : PythonTree source root)
    (member : node ∈ root.preorder) (named : node.isNamed = true ∨ node.kind = "module")
    (same : Corresponds (TextsReturn source otherSource) node other) :
    definedName? otherSource other = definedName? source node := by
  unfold definedName?
  rw [← same.kind_eq]
  split_ifs with opens
  · have isNamed : node.isNamed = true := by
      refine named.resolve_right ?_
      intro isModule
      rw [isModule] at opens
      exact absurd opens (by decide)
    have names := same.childByField "name"
    have isWord : ∀ name, node.childByField "name" = some name → name.kind = "identifier" :=
      fun _ => kind_of_definedName tree member isNamed opens
    generalize node.childByField "name" = name at names isWord ⊢
    generalize other.childByField "name" = otherName at names ⊢
    cases names with
    | none => rfl
    | @some name _ sameName =>
        simp only [Option.map_some, sameName.areRelated.word (isWord name rfl)]
  · rfl

/-- A corresponding definition has the same name and the same parameters. -/
theorem signatureOf_of_corresponds {file : String} {signature : String × List String}
    (tree : PythonTree source root) (member : node ∈ root.preorder)
    (defines : node.kind = "function_definition")
    (same : Corresponds (TextsReturn source otherSource) node other)
    (signed : signatureOf file source node = .ok signature) :
    signatureOf file otherSource other = .ok signature := by
  obtain ⟨name, parameters⟩ := signature
  obtain ⟨nameNode, list, nameFound, rfl, listFound, succeeds⟩ := exists_of_signatureOf signed
  obtain ⟨sameNode, isSolid, sameFound, isIdentifier, -⟩ := tree.exists_name member defines
  obtain rfl := Option.some.inj (nameFound.symm.trans sameFound)
  have notEmpty := tree.words nameNode (tree.mem_of_solid member isSolid) isIdentifier
  have names := same.childByField "name"
  have lists := same.childByField "parameters"
  rw [nameFound] at names
  rw [listFound] at lists
  unfold signatureOf
  generalize other.childByField "name" = otherName at names ⊢
  generalize other.childByField "parameters" = otherList at lists ⊢
  cases names with
  | some sameName =>
      cases lists with
      | some sameList =>
          simp only [← sameName.areRelated.word isIdentifier,
            String.isEmpty_eq_false_iff.mpr notEmpty, Bool.false_eq_true, if_false,
            parameterNames_of_corresponds sameList.parts succeeds]
          rfl

/-! ## Outdated forms -/

theorem isOutdated_of_corresponds {related : Node → Node → Prop}
    (same : Corresponds related node other) : isOutdated other = isOutdated node := by
  have sameTokens : ∀ text,
      other.children.any (isToken text) = node.children.any (isToken text) := by
    intro text
    have each := same.children
    generalize node.children = children at each ⊢
    generalize other.children = others at each ⊢
    induction each with
    | nil => rfl
    | cons sameChild _ inductionHypothesis =>
        rw [List.any_cons, List.any_cons, inductionHypothesis, isToken, isToken, sameChild.kind_eq,
          sameChild.isNamed_eq]
  rw [isOutdated, isOutdated, same.kind_eq, sameTokens, sameTokens]

theorem firstOutdated_of_corresponds {related : Node → Node → Prop}
    (same : Corresponds related node other) (current : firstOutdated node = none) :
    firstOutdated other = none := by
  induction node using Node.induction generalizing other with
  | step label children inductionHypothesis =>
      rw [firstOutdated_eq_none_iff] at current ⊢
      obtain ⟨isCurrent, ofChildren⟩ := current
      refine ⟨by rw [isOutdated_of_corresponds same, isCurrent], ?_⟩
      intro otherChild isOther isNamed
      obtain ⟨child, isChild, sameChild⟩ := same.exists_child isOther
      rw [← sameChild.isNamed_eq] at isNamed
      exact inductionHypothesis child isChild sameChild (ofChildren child isChild isNamed)

/-! ## Docstrings -/

theorem unwrapParentheses_of_corresponds {related : Node → Node → Prop}
    (same : Corresponds related node other) :
    Corresponds related (unwrapParentheses node) (unwrapParentheses other) := by
  induction node using Node.induction generalizing other with
  | step label children inductionHypothesis =>
      rw [unwrapParentheses_eq, unwrapParentheses_eq other, ← same.kind_eq]
      split_ifs
      · have each := same.parts
        have inside : ∀ part ∈ (Node.mk label children).parts, part ∈ children :=
          fun _ => mem_children_of_parts
        generalize (Node.mk label children).parts = parts at each inside ⊢
        generalize other.parts = otherParts at each ⊢
        cases each with
        | nil => exact same
        | cons sameOnly later =>
            cases later with
            | nil => exact inductionHypothesis _ (inside _ List.mem_cons_self) sameOnly
            | cons _ _ => exact same
      · exact same

theorem rel_docExpression_of_corresponds {related : Node → Node → Prop}
    (same : Corresponds related node other) :
    Option.Rel (Corresponds related) (docExpression node) (docExpression other) := by
  have firsts := rel_head?_of_forall₂ same.parts
  unfold docExpression docStatement
  generalize node.parts.head? = first at firsts ⊢
  generalize other.parts.head? = otherFirst at firsts ⊢
  cases firsts with
  | none => exact .none
  | @some statement otherStatement sameStatement =>
      rw [Option.filter_some, Option.filter_some, ← sameStatement.kind_eq]
      split_ifs
      · have each := sameStatement.parts
        rw [Option.bind_some, Option.bind_some]
        generalize statement.parts = parts at each ⊢
        generalize otherStatement.parts = otherParts at each ⊢
        cases each with
        | nil => exact .none
        | cons sameOnly later =>
            cases later with
            | nil => exact .some (unwrapParentheses_of_corresponds sameOnly)
            | cons _ _ => exact .none
      · exact .none

/-- A literal in single or double quotes without returns. -/
def IsQuoted (source : Array Char) (literal : Node) : Prop :=
  ∃ spelling, IsWritten source literal spelling ∧ isQuote spelling.quote = true ∧
    '\r' ∉ spelling.body

/-- Two readings of literals, without and with returns: neither has a value, or each has the value
of its literals. -/
def ReadWithReturns (source : Array Char) (literals : List Node)
    (read otherRead : Except LiteralFault (Option String)) : Prop :=
  (read = .ok none ∧ otherRead = .ok none) ∨
  ∃ spellings, List.Forall₂ (IsWritten source) literals spellings ∧
    (∀ spelling ∈ spellings, '\r' ∉ spelling.body) ∧
    read = .ok (some (String.join (spellings.map Spelling.value))) ∧
    otherRead = .ok (some (String.join (spellings.map fun spelling => spelling.returned.value)))

/-- The same literal with returns is read as the value with returns. -/
theorem decode_of_corresponds (same : Corresponds (TextsReturn source otherSource) node other)
    (isString : node.kind = "string") (quoted : IsQuoted source node) :
    (decode (textOf source node.label) = .ok none ∧
      decode (textOf otherSource other.label) = .ok none) ∨
    ∃ spelling, IsWritten source node spelling ∧ '\r' ∉ spelling.body ∧
      decode (textOf source node.label) = .ok (some spelling.value) ∧
      decode (textOf otherSource other.label) = .ok (some spelling.returned.value) := by
  obtain ⟨spelling, written, quotes, noReturn⟩ := quoted
  have text : textOf source node.label = String.ofList spelling.text := by
    rw [← written, String.ofList_toList]
  have otherText : textOf otherSource other.label = String.ofList spelling.returned.text := by
    rw [spelling.text_returned, ← written, ← same.areRelated.literal isString, String.ofList_toList]
  have otherQuotes : isQuote spelling.returned.quote = true := quotes
  have sameLetters : spelling.returned.letters = spelling.letters := rfl
  rw [text, otherText, spelling.decode_text quotes, spelling.returned.decode_text otherQuotes,
    sameLetters]
  by_cases special : spelling.letters.any isSpecialLetter = true
  · exact .inl ⟨by rw [if_pos special], by rw [if_pos special]⟩
  · exact .inr ⟨spelling, written, noReturn, by rw [if_neg special], by rw [if_neg special]⟩

theorem joinedValue_of_corresponds {literals others : List Node}
    (each : List.Forall₂ (Corresponds (TextsReturn source otherSource)) literals others)
    (quoted : ∀ literal ∈ literals.takeWhile fun part => part.kind = "string",
      IsQuoted source literal) :
    ReadWithReturns source (literals.takeWhile fun part => part.kind = "string")
      (joinedValue source literals) (joinedValue otherSource others) := by
  induction each with
  | nil => exact .inr ⟨[], .nil, by simp, rfl, rfl⟩
  | @cons literal other rest others same _ inductionHypothesis =>
      rw [joinedValue, joinedValue, ← same.kind_eq]
      by_cases isString : literal.kind = "string"
      · rw [List.takeWhile_cons_of_pos (by simpa using isString)] at quoted ⊢
        obtain ⟨isQuoted, laterQuoted⟩ := List.forall_mem_cons.mp quoted
        rw [if_neg (not_not_intro isString), if_neg (not_not_intro isString)]
        rcases decode_of_corresponds same isString isQuoted with
          ⟨decoded, otherDecoded⟩ | ⟨spelling, written, noReturn, decoded, otherDecoded⟩
        · rw [decoded, otherDecoded]
          exact .inl ⟨rfl, rfl⟩
        · rw [decoded, otherDecoded]
          rcases inductionHypothesis laterQuoted with
            ⟨read, otherRead⟩ | ⟨spellings, eachWritten, noReturns, read, otherRead⟩
          · rw [read, otherRead]
            exact .inl ⟨rfl, rfl⟩
          · rw [read, otherRead]
            refine .inr ⟨spelling :: spellings, .cons written eachWritten,
              List.forall_mem_cons.mpr ⟨noReturn, noReturns⟩, ?_, ?_⟩
            · simp [Except.map]
            · simp [Except.map]
      · rw [if_pos isString, if_pos isString]
        exact .inl ⟨rfl, rfl⟩

theorem literalValue_of_corresponds
    (same : Corresponds (TextsReturn source otherSource) node other)
    (quoted : ∀ literal ∈ literalsOf node, IsQuoted source literal) :
    ReadWithReturns source (literalsOf node)
      (literalValue source node) (literalValue otherSource other) := by
  unfold literalValue literalsOf at *
  rw [← same.kind_eq]
  split_ifs at quoted ⊢ with isString
  · rcases decode_of_corresponds same isString (quoted node List.mem_cons_self) with
      neither | ⟨spelling, written, noReturn, decoded, otherDecoded⟩
    · exact .inl neither
    · refine .inr ⟨[spelling], .cons written .nil, by simpa using noReturn, ?_, ?_⟩
      · simpa using decoded
      · simpa using otherDecoded
  · exact joinedValue_of_corresponds same.parts quoted
  · exact .inl ⟨rfl, rfl⟩

/-- The docstring of a corresponding definition is read from the same literals with returns. -/
theorem docstringOf_of_corresponds
    (same : Corresponds (TextsReturn source otherSource) node other)
    (quoted : ∀ literal ∈ docstringLiteralsOf node, IsQuoted source literal) :
    ∃ read otherRead, ReadWithReturns source (docstringLiteralsOf node) read otherRead ∧
      docstringOf source node = read.map (Option.map clean) ∧
      docstringOf otherSource other = otherRead.map (Option.map clean) := by
  have bodies := same.childByField "body"
  unfold docstringOf
  unfold docstringLiteralsOf at *
  generalize node.childByField "body" = body at bodies quoted ⊢
  generalize other.childByField "body" = otherBody at bodies ⊢
  cases bodies with
  | none => exact ⟨.ok none, .ok none, .inl ⟨rfl, rfl⟩, rfl, rfl⟩
  | @some body otherBody sameBody =>
      have expressions := rel_docExpression_of_corresponds sameBody
      simp only [Option.map_some, Option.getD_some, docstringLiterals_eq] at quoted ⊢
      rw [ofBody_eq, ofBody_eq]
      generalize docExpression body = expression at expressions quoted ⊢
      generalize docExpression otherBody = otherExpression at expressions ⊢
      cases expressions with
      | none => exact ⟨.ok none, .ok none, .inl ⟨rfl, rfl⟩, rfl, rfl⟩
      | some sameExpression =>
          exact ⟨_, _, literalValue_of_corresponds sameExpression quoted, rfl, rfl⟩

end Reading

/-! ## Records -/

/-- Rows of literals with returns have values with returns. -/
theorem returned_join {spellings : List Spelling}
    (noReturns : ∀ spelling ∈ spellings, '\r' ∉ spelling.body) :
    Returned (String.join (spellings.map Spelling.value)).toList
      (String.join (spellings.map fun spelling => spelling.returned.value)).toList := by
  induction spellings with
  | nil => exact .nil
  | cons spelling rest inductionHypothesis =>
      obtain ⟨noReturn, later⟩ := List.forall_mem_cons.mp noReturns
      rw [List.map_cons, List.map_cons, String.join_cons, String.join_cons, String.toList_append,
        String.toList_append]
      exact (spelling.returned_value noReturn).append (inductionHypothesis later)

/-- What two records of a definition say, without and with returns: the same but for the docstring.
That is read from the same literals, and it is the same only if every return is cut off. -/
structure AgreesButReturns (source : Array Char) (definition : Node)
    (record other : FunctionRecord) : Prop where
  name : other.name = record.name
  qualifiedName : other.qualifiedName = record.qualifiedName
  parameters : other.parameters = record.parameters
  isAsync : other.isAsync = record.isAsync
  docstring : (record.docstring = none ∧ other.docstring = none) ∨
    ∃ spellings, List.Forall₂ (IsWritten source) (docstringLiteralsOf definition) spellings ∧
      let value := String.join (spellings.map Spelling.value)
      let otherValue := String.join (spellings.map fun spelling => spelling.returned.value)
      record.docstring = some (clean value) ∧ other.docstring = some (clean otherValue) ∧
      (other.docstring = record.docstring ↔
        ∀ index line, (expandedLines value)[index]? = some line →
          (expandedLines otherValue)[index]? = some (line ++ ['\r']) →
          ¬ KeepsReturn (margin (expandedLines value).tail) index line)

section Records

variable {file : String} {source otherSource : Array Char} {root : Node} {site otherSite : Site}

theorem enclosingNames_of_corresponds (tree : PythonTree source root) (member : site ∈ root.sites)
    (isModule : root.kind = "module") (named : site.line.tail.all isNamed = true)
    (same : SitesCorrespond (TextsReturn source otherSource) site otherSite) :
    enclosingNames otherSource otherSite = enclosingNames source site := by
  have around : ∀ node ∈ site.ancestors,
      node ∈ root.preorder ∧ (node.isNamed = true ∨ node.kind = "module") := by
    intro node isAround
    have inLine : node ∈ site.line := List.mem_append_left _ isAround
    refine ⟨(mem_preorder_of_mem_line member inLine).1, ?_⟩
    rw [line_eq_cons_of_mem member, List.mem_cons] at inLine
    rcases inLine with isRoot | isInside
    · exact .inr (by rw [isRoot, isModule])
    · exact .inl (List.all_eq_true.mp named node isInside)
  have each := same.ancestors
  unfold enclosingNames
  generalize site.ancestors = ancestors at each around ⊢
  generalize otherSite.ancestors = otherAncestors at each ⊢
  induction each with
  | nil => rfl
  | cons sameFirst _ inductionHypothesis =>
      obtain ⟨⟨inTree, isNamed⟩, others⟩ := List.forall_mem_cons.mp around
      rw [List.filterMap_cons, List.filterMap_cons, inductionHypothesis others,
        definedName?_of_corresponds tree inTree isNamed sameFirst]

/-- A corresponding definition has a record that agrees but for the returns. -/
theorem exists_siteRecord_of_corresponds (tree : PythonTree source root)
    (member : site ∈ root.sites) (isModule : root.kind = "module")
    (reached : isReached site = true)
    (same : SitesCorrespond (TextsReturn source otherSource) site otherSite)
    (quoted : ∀ literal ∈ docstringLiteralsOf site.node, IsQuoted source literal)
    {record : FunctionRecord} (made : siteRecord file source site = .ok record) :
    ∃ other, siteRecord file otherSource otherSite = .ok other ∧
      AgreesButReturns source site.node record other := by
  obtain ⟨isDefinition, named⟩ := Bool.and_eq_true_iff.mp reached
  have defines : site.node.kind = "function_definition" := of_decide_eq_true isDefinition
  have inTree : site.node ∈ root.preorder := List.mem_map_of_mem member
  obtain ⟨name, parameters, docstring, signed, documented, rfl⟩ := recordOf_eq_ok_iff.mp made
  have otherSigned := signatureOf_of_corresponds tree inTree defines same.node signed
  have sameNames := enclosingNames_of_corresponds tree member isModule named same
  obtain ⟨read, otherRead, reads, readIs, otherReadIs⟩ :=
    docstringOf_of_corresponds same.node quoted
  rw [readIs] at documented
  rcases reads with ⟨rfl, rfl⟩ | ⟨spellings, written, noReturns, rfl, rfl⟩
  · obtain rfl : none = docstring := Except.ok.inj documented
    refine ⟨_, recordOf_eq_ok_iff.mpr ⟨name, parameters, none, otherSigned, otherReadIs, rfl⟩,
      rfl, ?_, rfl, isAsyncDefinition_of_corresponds same.node, .inl ⟨rfl, rfl⟩⟩
    exact congrArg (fun scopes => qualify scopes name) sameNames
  · obtain rfl : some _ = docstring := Except.ok.inj documented
    refine ⟨_, recordOf_eq_ok_iff.mpr ⟨name, parameters, _, otherSigned, otherReadIs, rfl⟩,
      rfl, ?_, rfl, isAsyncDefinition_of_corresponds same.node,
      .inr ⟨spellings, written, rfl, rfl, ?_⟩⟩
    · exact congrArg (fun scopes => qualify scopes name) sameNames
    · have sameClean := clean_eq_iff_of_returned (returned_join noReturns)
      simpa using sameClean

/-- Several corresponding definitions have records that agree one by one. -/
theorem exists_records_of_corresponds (tree : PythonTree source root)
    (isModule : root.kind = "module") {sites otherSites : List Site}
    (each : List.Forall₂ (SitesCorrespond (TextsReturn source otherSource)) sites otherSites)
    (inTree : ∀ site ∈ sites, site ∈ root.sites ∧ isReached site = true ∧
      ∀ literal ∈ docstringLiteralsOf site.node, IsQuoted source literal)
    {records : List FunctionRecord}
    (made : List.Forall₂ (fun site record => siteRecord file source site = .ok record)
      sites records) :
    ∃ otherRecords,
      List.Forall₂ (fun site record => siteRecord file otherSource site = .ok record)
        otherSites otherRecords ∧
      List.Forall₂ (fun pair other => AgreesButReturns source pair.1.node pair.2 other)
        (sites.zip records) otherRecords := by
  induction each generalizing records with
  | nil =>
      cases made
      exact ⟨[], .nil, .nil⟩
  | cons same _ inductionHypothesis =>
      cases made with
      | cons madeFirst madeRest =>
          obtain ⟨⟨member, reached, quoted⟩, others⟩ := List.forall_mem_cons.mp inTree
          obtain ⟨other, otherMade, agrees⟩ :=
            exists_siteRecord_of_corresponds tree member isModule reached same quoted madeFirst
          obtain ⟨otherRecords, othersMade, allAgree⟩ := inductionHypothesis others madeRest
          exact ⟨other :: otherRecords, .cons otherMade othersMade, .cons agrees allAgree⟩

theorem isReached_of_corresponds {related : Node → Node → Prop}
    (same : SitesCorrespond related site otherSite) : isReached site = isReached otherSite := by
  have sameTail : site.line.tail.all isNamed = otherSite.line.tail.all isNamed := by
    have each := same.line
    generalize site.line = line at each ⊢
    generalize otherSite.line = otherLine at each ⊢
    cases each with
    | nil => rfl
    | cons _ later =>
        rw [List.tail_cons, List.tail_cons]
        induction later with
        | nil => rfl
        | cons sameFirst _ inductionHypothesis =>
            rw [List.all_cons, List.all_cons, inductionHypothesis, sameFirst.isNamed_eq]
  rw [isReached, isReached, sameTail, isDefinition, isDefinition, same.node.kind_eq]

theorem forall₂_reachedSites {related : Node → Node → Prop} {otherRoot : Node}
    (same : Corresponds related root otherRoot) :
    List.Forall₂ (SitesCorrespond related) (reachedSites root) (reachedSites otherRoot) := by
  refine List.rel_filter ?_ same.sites
  intro site otherSite sameSite
  change isReached site = true ↔ isReached otherSite = true
  rw [isReached_of_corresponds sameSite]

end Records

/-- Literals of a text without returns have none. -/
theorem IsWritten.noReturn {source : Array Char} (noReturn : '\r' ∉ source.toList) {literal : Node}
    {spelling : Spelling} (written : IsWritten source literal spelling) :
    '\r' ∉ spelling.body := by
  intro isInside
  have inText : '\r' ∈ (textOf source literal.label).toList := by
    rw [written, Spelling.text]
    simp [isInside]
  rw [textOf, String.toList_ofList, Array.toList_extract, List.extract_eq_take_drop] at inText
  exact noReturn (List.mem_of_mem_drop (List.mem_of_mem_take inText))

/-- If the parser makes a corresponding tree of a valid text with a return before every line feed,
whose names have the same texts and whose literals have the returns, then this text is a valid
module too and has as many records. In the order of the definitions they agree in name, qualified
name, parameters and being asynchronous. Both have no docstring, or each has that of its own
literals; these docstrings are equal exactly if cleaning cuts off every return that a line has got
at its end: that of a blank first line, and those of blank lines that are shorter than the margin.
-/
theorem records_of_textWithReturns
    (syntaxTree : Array Char → Option Node)
    (file text : String)
    (noReturn : '\r' ∉ text.toList)
    (parsed : ParsedModule)
    (accepted : parseWith syntaxTree file text = .ok parsed)
    (tree : PythonTree parsed.source parsed.root)
    (isModule : parsed.root.kind = "module")
    (quoted : ∀ site ∈ definitionSites parsed.root, ∀ literal ∈ docstringLiteralsOf site.node,
      ∃ spelling, IsWritten parsed.source literal spelling ∧ isQuote spelling.quote = true)
    (records : List FunctionRecord)
    (extracted : parsed.functions = .ok records)
    (otherRoot : Node)
    (parses : syntaxTree (withReturns text.toList).toArray = some otherRoot)
    (same : Corresponds (TextsReturn parsed.source (withReturns text.toList).toArray)
      parsed.root otherRoot) :
    ∃ other otherRecords,
      parseWith syntaxTree file (String.ofList (withReturns text.toList)) = .ok other ∧
      other.functions = .ok otherRecords ∧
      List.Forall₂ (fun pair record => AgreesButReturns parsed.source pair.1.node pair.2 record)
        ((definitionSites parsed.root).zip records) otherRecords := by
  obtain ⟨root, -, noError, current, rfl⟩ := parseWith_eq_ok_iff.mp accepted
  let other : ParsedModule := ⟨file, (withReturns text.toList).toArray, otherRoot⟩
  have otherAccepted :
      parseWith syntaxTree file (String.ofList (withReturns text.toList)) = .ok other := by
    apply parseWith_eq_ok_iff.mpr
    rw [String.toList_ofList]
    exact ⟨otherRoot, parses, same.hasError_eq.symm.trans noError,
      firstOutdated_of_corresponds same current, rfl⟩
  have sites : reachedSites root = definitionSites root :=
    reachedSites_eq_definitionSites tree.standsNamed
  have inTree : ∀ site ∈ definitionSites root, site ∈ root.sites ∧ isReached site = true ∧
      ∀ literal ∈ docstringLiteralsOf site.node, IsQuoted text.toList.toArray literal := by
    intro site isSite
    have isReachedSite := isSite
    rw [← sites] at isReachedSite
    obtain ⟨isMember, reached⟩ := List.mem_filter.mp isReachedSite
    refine ⟨isMember, reached, ?_⟩
    intro literal isLiteral
    obtain ⟨spelling, written, quotes⟩ := quoted site isSite literal isLiteral
    exact ⟨spelling, written, quotes, written.noReturn noReturn⟩
  have sameSites := forall₂_reachedSites same
  rw [sites] at sameSites
  have made := (mapM_eq_ok_iff _ _).mp ((functions_eq_mapM _ tree.standsNamed).symm.trans extracted)
  obtain ⟨otherRecords, otherMade, agree⟩ :=
    exists_records_of_corresponds tree isModule sameSites inTree made
  refine ⟨other, otherRecords, otherAccepted, ?_, agree⟩
  rw [functions_eq_mapM_reached]
  exact (mapM_eq_ok_iff _ _).mpr otherMade

/-- A text whose only definition has a docstring of two lines, with the given line ends. -/
def twoLineText (lineEnd : String) : String :=
  "def f():" ++ lineEnd ++ "    \"\"\"a" ++ lineEnd ++ "    b\"\"\"" ++ lineEnd

def twoLineSource (lineEnd : String) : Array Char := (twoLineText lineEnd).toList.toArray

def twoLineLiteral (lineEnd : String) : Node :=
  let source := twoLineSource lineEnd
  let start := 12 + lineEnd.length
  let stop := 24 + 2 * lineEnd.length
  nodeOver source "string" none start stop
    [nodeOver source "string_start" none start (start + 3) [],
      nodeOver source "string_content" none (start + 3) (stop - 3) [],
      nodeOver source "string_end" none (stop - 3) stop []]

def twoLineDefinition (lineEnd : String) : Node :=
  let source := twoLineSource lineEnd
  let start := 12 + lineEnd.length
  let stop := 24 + 2 * lineEnd.length
  nodeOver source "function_definition" none 0 stop
    [tokenOver source 0 3, nodeOver source "identifier" (some "name") 4 5 [],
      nodeOver source "parameters" (some "parameters") 5 7
        [tokenOver source 5 6, tokenOver source 6 7],
      tokenOver source 7 8,
      nodeOver source "block" (some "body") start stop
        [nodeOver source "expression_statement" none start stop [twoLineLiteral lineEnd]]]

def twoLineModule (lineEnd : String) : ParsedModule :=
  let source := twoLineSource lineEnd
  ⟨"m.py", source,
    nodeOver source "module" none 0 (24 + 3 * lineEnd.length) [twoLineDefinition lineEnd]⟩

def twoLineSite (lineEnd : String) : Site :=
  ⟨[0], [(twoLineModule lineEnd).root], twoLineDefinition lineEnd⟩

/-- A parser for both forms. -/
def twoLineParser (source : Array Char) : Option Node :=
  some (twoLineModule (if source.contains '\r' then "\r\n" else "\n")).root

/-- Nodes of both forms in the same place have the texts that they should have. -/
def twoLineCheck (node other : Node) : Bool :=
  decide (node.kind = "identifier" →
    textOf (twoLineSource "\n") node.label = textOf (twoLineSource "\r\n") other.label) &&
  decide (node.kind = "string" → (textOf (twoLineSource "\r\n") other.label).toList =
    withReturns (textOf (twoLineSource "\n") node.label).toList)

/-- What is evaluated of both forms. -/
theorem checked_twoLineModules :
    (∀ lineEnd ∈ ["\n", "\r\n"],
      (∀ node ∈ (twoLineModule lineEnd).root.preorder, checkNode grammar depth node = true) ∧
      signatureOf "m.py" (twoLineSource lineEnd) (twoLineDefinition lineEnd) = .ok ("f", []) ∧
      clean (String.ofList ('a' :: lineEnd.toList ++ "    b".toList)) = "a" ++ lineEnd ++ "b" ∧
      twoLineParser (twoLineSource lineEnd) = some (twoLineModule lineEnd).root) ∧
    correspond twoLineCheck (twoLineModule "\n").root (twoLineModule "\r\n").root = true ∧
    withReturns (twoLineText "\n").toList = (twoLineText "\r\n").toList := by
  decide +kernel

theorem pythonTree_twoLineModule :
    ∀ lineEnd ∈ ["\n", "\r\n"],
      PythonTree (twoLineSource lineEnd) (twoLineModule lineEnd).root := by
  intro lineEnd member
  obtain ⟨conforms, -⟩ := checked_twoLineModules.1 lineEnd member
  rcases List.mem_pair.mp member with rfl | rfl <;>
    exact .of_checked conforms (by decide) (by decide) (by decide) (by decide)

theorem docstringOf_twoLineDefinition :
    ∀ lineEnd ∈ ["\n", "\r\n"], docstringOf (twoLineSource lineEnd) (twoLineDefinition lineEnd) =
      .ok (some ("a" ++ lineEnd ++ "b")) := by
  intro lineEnd member
  have decoded : decode (textOf (twoLineSource lineEnd) (twoLineLiteral lineEnd).label) =
      .ok (some (String.ofList (unescape ('a' :: lineEnd.toList ++ "    b".toList)))) := by
    rcases List.mem_pair.mp member with rfl | rfl <;> rfl
  have unescaped : unescape ('a' :: lineEnd.toList ++ "    b".toList) =
      'a' :: lineEnd.toList ++ "    b".toList := by
    rcases List.mem_pair.mp member with rfl | rfl <;> simp [unescape]
  obtain ⟨-, -, cleaned, -⟩ := checked_twoLineModules.1 lineEnd member
  have isString : (twoLineLiteral lineEnd).kind = "string" := rfl
  have expression : unwrapParentheses (twoLineLiteral lineEnd) = twoLineLiteral lineEnd := by
    simp [unwrapParentheses_eq, isString]
  have found : docstringOf (twoLineSource lineEnd) (twoLineDefinition lineEnd) =
      (literalValue (twoLineSource lineEnd) (unwrapParentheses (twoLineLiteral lineEnd))).map
        fun value => value.map clean := rfl
  rw [found, expression, literalValue, if_pos isString, decoded, unescaped]
  simp only [Except.map, Option.map, cleaned]

theorem exists_record_twoLineModule :
    ∀ lineEnd ∈ ["\n", "\r\n"], ∃ record, (twoLineModule lineEnd).functions = .ok [record] ∧
      record.docstring = some ("a" ++ lineEnd ++ "b") := by
  intro lineEnd member
  obtain ⟨-, signed, -⟩ := checked_twoLineModules.1 lineEnd member
  have sites : definitionSites (twoLineModule lineEnd).root = [twoLineSite lineEnd] := by
    rcases List.mem_pair.mp member with rfl | rfl <;> rfl
  have made : siteRecord "m.py" (twoLineSource lineEnd) (twoLineSite lineEnd) = .ok _ :=
    recordOf_eq_ok_iff.mpr ⟨"f", [], _, signed, docstringOf_twoLineDefinition lineEnd member, rfl⟩
  have tree := pythonTree_twoLineModule lineEnd member
  exact ⟨_, functions_eq_singleton tree.standsNamed sites made, rfl⟩

theorem corresponds_twoLineModule :
    Corresponds (TextsReturn (twoLineSource "\n") (twoLineSource "\r\n"))
      (twoLineModule "\n").root (twoLineModule "\r\n").root := by
  refine corresponds_of_check ?_ checked_twoLineModules.2.1
  intro node other accepted
  obtain ⟨word, literal⟩ := Bool.and_eq_true_iff.mp accepted
  exact ⟨of_decide_eq_true word, of_decide_eq_true literal⟩

/-- Both forms of the text are valid and have a record each, and these agree. Their docstrings
differ, since the first line keeps its return. -/
theorem records_of_twoLineText :
    ∃ record other,
      parseWith twoLineParser "m.py" (twoLineText "\n") = .ok (twoLineModule "\n") ∧
      parseWith twoLineParser "m.py" (twoLineText "\r\n") = .ok (twoLineModule "\r\n") ∧
      (twoLineModule "\n").functions = .ok [record] ∧
      (twoLineModule "\r\n").functions = .ok [other] ∧
      AgreesButReturns (twoLineSource "\n") (twoLineDefinition "\n") record other ∧
      record.docstring = some "a\nb" ∧ other.docstring = some "a\r\nb" := by
  have accepted : ∀ lineEnd ∈ ["\n", "\r\n"],
      parseWith twoLineParser "m.py" (twoLineText lineEnd) = .ok (twoLineModule lineEnd) := by
    intro lineEnd member
    obtain ⟨-, -, -, parses⟩ := checked_twoLineModules.1 lineEnd member
    refine parseWith_eq_ok_iff.mpr ⟨_, parses, rfl, ?_, rfl⟩
    rcases List.mem_pair.mp member with rfl | rfl <;> decide
  obtain ⟨each, -, returned⟩ := checked_twoLineModules
  obtain ⟨-, -, -, parses⟩ := each "\r\n" (by simp)
  obtain ⟨record, functions, documented⟩ := exists_record_twoLineModule "\n" (by simp)
  obtain ⟨other, otherFunctions, otherDocumented⟩ := exists_record_twoLineModule "\r\n" (by simp)
  have quoted : ∀ site ∈ definitionSites (twoLineModule "\n").root,
      ∀ literal ∈ docstringLiteralsOf site.node,
        ∃ spelling, IsWritten (twoLineSource "\n") literal spelling ∧
          isQuote spelling.quote = true := by
    intro site member literal isLiteral
    obtain rfl : site = twoLineSite "\n" := List.mem_singleton.mp member
    have isString : (twoLineLiteral "\n").kind = "string" := rfl
    have literals : docstringLiteralsOf (twoLineDefinition "\n") =
        literalsOf (unwrapParentheses (twoLineLiteral "\n")) := rfl
    rw [unwrapParentheses_eq, if_neg (by rw [isString]; decide), literalsOf, if_pos isString]
      at literals
    obtain rfl : literal = twoLineLiteral "\n" := List.mem_singleton.mp (literals ▸ isLiteral)
    exact ⟨⟨[], '"', true, "a\n    b".toList, by simp, .inl rfl, fun _ => rfl, by simp⟩, by
      rw [IsWritten]; decide, rfl⟩
  obtain ⟨otherParsed, otherRecords, otherAccepted, otherExtracted, agree⟩ :=
    records_of_textWithReturns twoLineParser "m.py" (twoLineText "\n") (by decide)
      (twoLineModule "\n") (accepted "\n" (by simp)) (pythonTree_twoLineModule "\n" (by simp)) rfl
      quoted [record] functions (twoLineModule "\r\n").root
      (by rw [returned]; exact parses) (by rw [returned]; exact corresponds_twoLineModule)
  rw [returned, String.ofList_toList, accepted "\r\n" (by simp)] at otherAccepted
  obtain rfl := Except.ok.inj otherAccepted
  obtain rfl := Except.ok.inj (otherFunctions.symm.trans otherExtracted)
  cases agree with
  | cons agrees _ =>
      exact ⟨record, other, accepted "\n" (by simp), accepted "\r\n" (by simp), functions,
        otherFunctions, agrees, documented, otherDocumented⟩

end FunctionAtlas.Analysis
