import FunctionAtlas.Proofs.Analysis.DumpedRecord
import FunctionAtlas.Proofs.Analysis.Spans
import FunctionAtlas.Proofs.Syntax.Relocation

/-!
Contract: the text of a definition as a module of its own.

What is read of a definition depends on kinds, fields and texts inside it, and on nothing around it
but its decorators and the names of its scopes. So if the parser makes of the definition's text the
tree that the definition has in place, then this text is a valid module whose first function is the
definition. That the parser does so is not promised: the layout scanner looks beyond the end of a
definition, and the text of the definition ends there.

Owns: what reading a moved definition gives.
-/

namespace FunctionAtlas.Analysis

open FunctionAtlas.Docstring
open FunctionAtlas.FirstFailure
open FunctionAtlas.Syntax
open FunctionAtlas.Syntax.Node
open FunctionAtlas.Text

/-- The nodes of a moved tree have the texts that they have in place. -/
def ReadsAlike (source snippet : Array Char) (origin : Extent) (node : Node) : Prop :=
  ∀ inner ∈ node.preorder, ∀ moved, Follows origin inner moved →
    textOf snippet moved.label = textOf source inner.label

section Reading

variable {source snippet : Array Char} {origin : Extent} {node moved : Node}

theorem ReadsAlike.of_mem (alike : ReadsAlike source snippet origin node) {inner : Node}
    (isInside : inner ∈ node.preorder) : ReadsAlike source snippet origin inner :=
  fun other isOther => alike other (mem_preorder_trans isInside isOther)

theorem ReadsAlike.child (alike : ReadsAlike source snippet origin node) {child : Node}
    (isChild : child ∈ node.children) : ReadsAlike source snippet origin child :=
  alike.of_mem (mem_preorder_of_mem_children node.self_mem_preorder isChild)

theorem ReadsAlike.textOf_relocate (alike : ReadsAlike source snippet origin node) :
    textOf snippet (node.label.relocate origin) = textOf source node.label := by
  rw [← label_relocate]
  exact alike node node.self_mem_preorder _ (follows_relocate node)

theorem mem_children_of_parts {part : Node} (isPart : part ∈ node.parts) : part ∈ node.children :=
  (List.mem_filter.mp (List.mem_filter.mp isPart).1).1

/-! ## Signatures -/

theorem text_boundIdentifier_relocate (alike : ReadsAlike source snippet origin node) :
    (boundIdentifier (node.relocate origin)).map (textOf snippet) =
      (boundIdentifier node).map (textOf source) := by
  induction node using Node.induction with
  | step label children inductionHypothesis =>
      have follows := @follows_relocate origin (.mk label children)
      have ofChild : ∀ found : Option Node, (∀ child ∈ found, child ∈ children) →
          ((found.map (relocate origin)).bind boundIdentifier).map (textOf snippet) =
            (found.bind boundIdentifier).map (textOf source) := by
        intro found inside
        cases found with
        | none => rfl
        | some child =>
            have isChild := inside child rfl
            exact inductionHypothesis child isChild (alike.child isChild)
      rw [boundIdentifier_eq, boundIdentifier_eq (.mk label children), follows.kind,
        follows.childByField, follows.namedChildren, List.head?_map]
      split_ifs
      · rw [label_relocate, Option.map_some, Option.map_some, alike.textOf_relocate]
      · exact ofChild _ fun child found => List.mem_of_find?_eq_some found
      · exact ofChild _ fun child found => (List.mem_filter.mp (List.mem_of_head? found)).1
      · rfl

theorem parameterName_relocate {file otherFile : String} {name : Option String}
    (alike : ReadsAlike source snippet origin node)
    (succeeds : parameterName file source node = .ok name) :
    parameterName otherFile snippet (node.relocate origin) = .ok name := by
  have bound := text_boundIdentifier_relocate alike
  unfold parameterName at succeeds ⊢
  simp only [label_relocate, Label.relocate] at succeeds ⊢
  split_ifs at succeeds ⊢ with separates isTuple
  · exact succeeds
  · cases found : boundIdentifier node with
    | none =>
        rw [found] at succeeds
        cases succeeds
    | some identifier =>
        rw [found] at succeeds bound
        obtain ⟨moved, isMoved, sameText⟩ := Option.map_eq_some_iff.mp bound
        rw [isMoved, ← succeeds]
        exact congrArg (fun text => Except.ok (some text)) sameText

theorem parameterNames_relocate {file otherFile : String} {parameters : List Node}
    {names : List String} (alike : ∀ parameter ∈ parameters,
      ReadsAlike source snippet origin parameter)
    (succeeds : parameterNames file source parameters = .ok names) :
    parameterNames otherFile snippet (parameters.map (relocate origin)) = .ok names := by
  induction parameters generalizing names with
  | nil => exact succeeds
  | cons parameter rest inductionHypothesis =>
      rw [parameterNames] at succeeds
      cases named : parameterName file source parameter with
      | error problem => simp [named] at succeeds
      | ok name =>
          cases others : parameterNames file source rest with
          | error problem => simp [named, others, Except.map] at succeeds
          | ok found =>
              have moved := inductionHypothesis
                (fun other member => alike other (List.mem_cons_of_mem _ member)) others
              rw [named, others] at succeeds
              rw [List.map_cons, parameterNames,
                parameterName_relocate (alike parameter List.mem_cons_self) named, moved]
              exact succeeds

/-- A moved definition has the name and the parameters that it has in place. -/
theorem signatureOf_of_follows {file otherFile : String} {signature : String × List String}
    (alike : ReadsAlike source snippet origin node) (follows : Follows origin node moved)
    (signed : signatureOf file source node = .ok signature) :
    signatureOf otherFile snippet moved = .ok signature := by
  unfold signatureOf at signed ⊢
  rw [follows.childByField, follows.childByField]
  cases nameFound : node.childByField "name" with
  | none => simp [nameFound] at signed
  | some name =>
      have ofName := alike.child (List.mem_of_find?_eq_some nameFound)
      simp only [nameFound, Option.map_some, label_relocate, ofName.textOf_relocate] at signed ⊢
      split_ifs at signed ⊢ with isEmpty
      cases listFound : node.childByField "parameters" with
      | none => simp [listFound] at signed
      | some list =>
          have ofList := alike.child (List.mem_of_find?_eq_some listFound)
          simp only [listFound, Option.map_some, (follows_relocate list).parts] at signed ⊢
          cases named : parameterNames file source list.parts with
          | error problem => simp [named, Except.map] at signed
          | ok names =>
              rw [parameterNames_relocate
                (fun parameter isPart => ofList.child (mem_children_of_parts isPart)) named]
              exact named ▸ signed

theorem isAsyncDefinition_of_follows (follows : Follows origin node moved) :
    isAsyncDefinition moved = isAsyncDefinition node := by
  rw [isAsyncDefinition, isAsyncDefinition, follows.children, List.head?_map]
  cases node.children.head? with
  | none => rfl
  | some first => simp

/-! ## Docstrings -/

theorem unwrapParentheses_relocate (node : Node) :
    unwrapParentheses (node.relocate origin) = (unwrapParentheses node).relocate origin := by
  induction node using Node.induction with
  | step label children inductionHypothesis =>
      have follows := @follows_relocate origin (.mk label children)
      rw [unwrapParentheses_eq, unwrapParentheses_eq (.mk label children), follows.kind,
        follows.parts]
      split_ifs
      · cases inside : (Node.mk label children).parts with
        | nil => rfl
        | cons only others =>
            cases others with
            | nil =>
                have isPart : only ∈ (Node.mk label children).parts := by simp [inside]
                exact inductionHypothesis only (mem_children_of_parts isPart)
            | cons second rest => rfl
      · rfl

theorem unwrapParentheses_mem (node : Node) : unwrapParentheses node ∈ node.preorder := by
  induction node using Node.induction with
  | step label children inductionHypothesis =>
      rw [unwrapParentheses_eq]
      split_ifs
      · cases inside : (Node.mk label children).parts with
        | nil => exact self_mem_preorder _
        | cons only others =>
            cases others with
            | nil =>
                have isPart : only ∈ (Node.mk label children).parts := by simp [inside]
                have isChild : only ∈ children := mem_children_of_parts isPart
                exact mem_preorder_of_child isChild (inductionHypothesis only isChild)
            | cons second rest => exact self_mem_preorder _
      · exact self_mem_preorder _

theorem docExpression_relocate (body : Node) :
    docExpression (body.relocate origin) = (docExpression body).map (relocate origin) := by
  unfold docExpression docStatement
  rw [(follows_relocate body).parts, List.head?_map]
  cases body.parts.head? with
  | none => rfl
  | some first =>
      by_cases isExpression : first.kind = "expression_statement"
      · simp only [Option.map_some, Option.filter_some, kind_relocate, isExpression, decide_true,
          if_true, Option.bind_some, (follows_relocate first).parts]
        cases first.parts with
        | nil => rfl
        | cons expression others =>
            cases others with
            | nil => exact congrArg some (unwrapParentheses_relocate expression)
            | cons second rest => rfl
      · simp [Option.filter_some, isExpression]

theorem docExpression_mem {body expression : Node} (found : docExpression body = some expression) :
    expression ∈ body.preorder := by
  obtain ⟨statement, isStatement, inside⟩ := Option.bind_eq_some_iff.mp found
  have isPart := List.mem_of_head? (Option.filter_eq_some_iff.mp isStatement).1
  have inBody := mem_preorder_of_mem_children body.self_mem_preorder (mem_children_of_parts isPart)
  split at inside
  · rename_i only isOnly
    have isPart : only ∈ statement.parts := by simp [isOnly]
    have inStatement := mem_preorder_of_mem_children inBody (mem_children_of_parts isPart)
    rw [← Option.some.inj inside]
    exact mem_preorder_trans inStatement (unwrapParentheses_mem only)
  · cases inside

theorem joinedValue_relocate {literals : List Node}
    (alike : ∀ literal ∈ literals, ReadsAlike source snippet origin literal) :
    joinedValue snippet (literals.map (relocate origin)) = joinedValue source literals := by
  induction literals with
  | nil => rfl
  | cons literal rest inductionHypothesis =>
      rw [List.map_cons, joinedValue, joinedValue, kind_relocate, label_relocate,
        (alike literal List.mem_cons_self).textOf_relocate,
        inductionHypothesis fun other member => alike other (List.mem_cons_of_mem _ member)]

theorem literalValue_relocate (alike : ReadsAlike source snippet origin node) :
    literalValue snippet (node.relocate origin) = literalValue source node := by
  rw [literalValue, literalValue, kind_relocate, label_relocate, alike.textOf_relocate,
    (follows_relocate node).parts, joinedValue_relocate fun literal isPart =>
      alike.child (mem_children_of_parts isPart)]

/-- A moved definition has the docstring that it has in place. -/
theorem docstringOf_of_follows (alike : ReadsAlike source snippet origin node)
    (follows : Follows origin node moved) :
    docstringOf snippet moved = docstringOf source node := by
  rw [docstringOf, docstringOf, follows.childByField]
  cases bodyFound : node.childByField "body" with
  | none => rfl
  | some body =>
      have ofBody := alike.child (List.mem_of_find?_eq_some bodyFound)
      simp only [Option.map_some, ofBody_eq, docExpression_relocate]
      cases found : docExpression body with
      | none => rfl
      | some expression =>
          simp only [Option.map_some, literalValue_relocate (ofBody.of_mem (docExpression_mem found))]

/-! ## Outdated forms -/

theorem firstOutdated_eq_none_iff (node : Node) :
    firstOutdated node = none ↔ isOutdated node = false ∧
      ∀ child ∈ node.children, child.isNamed = true → firstOutdated child = none := by
  obtain ⟨label, children⟩ := node
  rw [firstOutdated, outdatedHere_eq, firstOutdatedOf_eq_findSome?, Option.or_eq_none_iff,
    List.findSome?_eq_none_iff]
  simp [Node.children]

theorem isOutdated_of_follows (follows : Follows origin node moved) :
    isOutdated moved = isOutdated node := by
  have sameTokens : ∀ text, (node.children.map (relocate origin)).any (isToken text) =
      node.children.any (isToken text) := by
    intro text
    rw [List.any_map]
    congr 1
    funext child
    simp [isToken]
  rw [isOutdated, isOutdated, follows.kind, follows.children, sameTokens, sameTokens]

theorem firstOutdated_of_follows (follows : Follows origin node moved)
    (current : firstOutdated node = none) : firstOutdated moved = none := by
  induction node using Node.induction generalizing moved with
  | step label children inductionHypothesis =>
      rw [firstOutdated_eq_none_iff] at current ⊢
      obtain ⟨isCurrent, ofChildren⟩ := current
      constructor
      · rw [isOutdated_of_follows follows, isCurrent]
      · rw [follows.children]
        intro child isMoved isNamed
        obtain ⟨original, isChild, rfl⟩ := List.mem_map.mp isMoved
        rw [isNamed_relocate] at isNamed
        exact inductionHypothesis original isChild (follows_relocate original)
          (ofChildren original isChild isNamed)

/-- What is reached through named nodes holds no outdated form if the tree holds none. -/
theorem firstOutdated_of_site {root : Node} (current : firstOutdated root = none) {site : Site}
    (member : site ∈ root.sites) (named : ∀ inner ∈ site.line.tail, inner.isNamed = true) :
    firstOutdated site.node = none := by
  induction root using Node.induction generalizing site with
  | step label children inductionHypothesis =>
      rw [sites, List.mem_cons, mem_sitesBelow_iff] at member
      rcases member with rfl | ⟨index, child, inner, isChild, isInner, rfl⟩
      · exact current
      · rw [Site.line_under, List.tail_cons, line_eq_cons_of_mem isInner,
          List.forall_mem_cons] at named
        have inside := List.mem_of_getElem? isChild
        have ofChild := ((firstOutdated_eq_none_iff _).mp current).2 child inside named.1
        have ofInner : firstOutdated inner.node = none :=
          inductionHypothesis child inside ofChild isInner named.2
        exact ofInner

/-- A definition of a valid module holds no outdated form. -/
theorem firstOutdated_of_definition {root : Node}
    (standsNamed : KindStandsNamed "function_definition" root)
    (current : firstOutdated root = none) {site : Site} (member : site ∈ definitionSites root) :
    firstOutdated site.node = none := by
  rw [← reachedSites_eq_definitionSites standsNamed] at member
  obtain ⟨isSite, isReached⟩ := List.mem_filter.mp member
  exact firstOutdated_of_site current isSite
    (List.all_eq_true.mp (Bool.and_eq_true_iff.mp isReached).2)

theorem firstOutdated_standalone (current : firstOutdated node = none) :
    firstOutdated node.standalone = none := by
  refine (firstOutdated_eq_none_iff _).mpr ⟨rfl, fun child isChild _ => ?_⟩
  rw [List.mem_singleton.mp isChild]
  exact firstOutdated_of_follows (follows_alone node) current

end Reading

/-! ## Records -/

/-- What two records of one definition say alike wherever it stands. -/
structure FunctionRecord.Agrees (record other : FunctionRecord) : Prop where
  name : record.name = other.name
  parameters : record.parameters = other.parameters
  isAsync : record.isAsync = other.isAsync
  docstring : record.docstring = other.docstring
  sourceText : record.sourceText = other.sourceText

section Records

variable {source snippet : Array Char} {file otherFile : String} {node : Node}

/-- The record of a moved definition agrees with the one in place. -/
theorem recordOf_of_follows {origin : Extent} {moved : Node} {scopes otherScopes : List String}
    {parent otherParent : Option Node} {record : FunctionRecord}
    (alike : ReadsAlike source snippet origin node) (follows : Follows origin node moved)
    (made : recordOf file source scopes parent node = .ok record) :
    ∃ other, recordOf otherFile snippet otherScopes otherParent moved = .ok other ∧
      other.Agrees record := by
  obtain ⟨name, parameters, docstring, signed, read, rfl⟩ := recordOf_eq_ok_iff.mp made
  refine ⟨_, recordOf_eq_ok_iff.mpr ⟨name, parameters, docstring,
    signatureOf_of_follows alike follows signed, ?_, rfl⟩, ?_⟩
  · rw [docstringOf_of_follows alike follows, read]
  · exact ⟨rfl, rfl, isAsyncDefinition_of_follows follows, rfl,
      congrArg some (alike node node.self_mem_preorder moved follows)⟩

theorem standsNamed_standalone (standsNamed : KindStandsNamed "function_definition" node) :
    KindStandsNamed "function_definition" node.standalone := by
  intro token isToken anonymous
  rw [standalone, preorder_mk, List.flatMap_cons, List.flatMap_nil, List.append_nil] at isToken
  rcases List.mem_cons.mp isToken with rfl | isInside
  · cases anonymous
  · exact (KindStandsNamed.relocate (follows_alone node) standsNamed) token isInside anonymous

/-- A definition comes before those inside it. -/
theorem exists_definitionSites_eq_cons {label : Label} (isOther : label.kind ≠ "function_definition")
    (defines : node.kind = "function_definition") :
    ∃ rest, definitionSites (.mk label [node]) = ⟨[0], [.mk label [node]], node⟩ :: rest := by
  obtain ⟨nodeLabel, children⟩ := node
  rw [definitionSites, sites, List.filter_cons_of_neg, sitesBelow, sites, List.map_cons,
    List.cons_append, List.filter_cons_of_pos]
  · exact ⟨_, rfl⟩
  · exact decide_eq_true defines
  · exact fun isDefinition => isOther (of_decide_eq_true isDefinition)

theorem exists_follows_of_definitionSite {site : Site}
    (member : site ∈ definitionSites node.standalone) :
    ∃ inner ∈ node.preorder, inner.kind = "function_definition" ∧
      Follows node.label.start inner site.node := by
  obtain ⟨inTree, defines⟩ := definition_of_mem_definitionSites member
  rw [standalone, preorder_mk, List.flatMap_cons, List.flatMap_nil, List.append_nil] at inTree
  rcases List.mem_cons.mp inTree with isRoot | isInside
  · rw [isRoot] at defines
    exact absurd (show "module" = "function_definition" from defines) (by decide)
  · obtain ⟨inner, isInner, follows⟩ := (follows_alone node).exists_of_mem isInside
    exact ⟨inner, isInner, follows.kind ▸ defines, follows⟩

/-- A definition by itself gives a record that agrees with the one in place, and then those of the
definitions inside it. -/
theorem functions_standalone (standsNamed : KindStandsNamed "function_definition" node)
    (alike : ReadsAlike source snippet node.label.start node)
    (defines : node.kind = "function_definition")
    (each : ∀ inner ∈ node.preorder, inner.kind = "function_definition" →
      ∃ scopes parent record, recordOf file source scopes parent inner = .ok record)
    {scopes : List String} {parent : Option Node} {record : FunctionRecord}
    (made : recordOf file source scopes parent node = .ok record) :
    ∃ first others, ParsedModule.functions ⟨otherFile, snippet, node.standalone⟩ =
      .ok (first :: others) ∧ first.Agrees record := by
  rw [functions_eq_mapM _ (standsNamed_standalone standsNamed)]
  have allMade : ∀ site ∈ definitionSites node.standalone,
      ∃ other, siteRecord otherFile snippet site = .ok other := by
    intro site member
    obtain ⟨inner, isInner, innerDefines, follows⟩ := exists_follows_of_definitionSite member
    obtain ⟨_, _, _, innerMade⟩ := each inner isInner innerDefines
    obtain ⟨other, otherMade, -⟩ := recordOf_of_follows (alike.of_mem isInner) follows innerMade
    exact ⟨other, otherMade⟩
  obtain ⟨records, extracted⟩ := (exists_mapM_eq_ok_iff _).mpr allMade
  have madeEach := (mapM_eq_ok_iff _ _).mp extracted
  obtain ⟨rest, split⟩ : ∃ rest, definitionSites node.standalone =
      ⟨[0], [node.standalone], node.alone⟩ :: rest :=
    exists_definitionSites_eq_cons (by simp) defines
  rw [split] at madeEach
  cases madeEach with
  | @cons _ first _ others firstMade _ =>
      obtain ⟨other, otherMade, agrees⟩ := recordOf_of_follows alike (follows_alone node) made
      have isFirst : first = other := Except.ok.inj (firstMade.symm.trans otherMade)
      exact ⟨first, others, extracted, isFirst ▸ agrees⟩

end Records

/-! ## Modules -/

theorem readsAlike_of_placed {source : Array Char} {root node : Node}
    (placed : Placed source root) (member : node ∈ root.preorder) :
    ReadsAlike source (textOf source node.label).toList.toArray node.label.start node :=
  fun _ isInside _ follows => textOf_relocate placed member isInside follows.start follows.stop

/-- The text of a definition that the parser reads as it reads it in place, moved to the beginning
of the text and with no more than a module around it, is a valid module. The first function of this
module has the name, the parameters, the docstring and the text of the definition, and it is
asynchronous if the definition is. -/
theorem functions_of_sourceText
    (table : Automaton.Table)
    (file text : String)
    (parsed : ParsedModule)
    (accepted : parseWith (Parse.syntaxTree table) file text = .ok parsed)
    (standsNamed : KindStandsNamed "function_definition" parsed.root)
    (records : List FunctionRecord)
    (extracted : parsed.functions = .ok records) :
    List.Forall₂
      (fun site record =>
        let written := textOf parsed.source site.node.label
        record.sourceText = some written ∧
        (Parse.syntaxTree table written.toList.toArray = some site.node.standalone →
          ∃ reparsed first others,
            parseWith (Parse.syntaxTree table) file written = .ok reparsed ∧
            reparsed.functions = .ok (first :: others) ∧
            first.Agrees record))
      (definitionSites parsed.root) records := by
  obtain ⟨root, isTree, -, current, rfl⟩ := parseWith_eq_ok_iff.mp accepted
  have placed := Parse.placed_of_syntaxTree isTree
  rw [functions_eq_mapM _ standsNamed] at extracted
  have allMade := (exists_mapM_eq_ok_iff _).mp ⟨records, extracted⟩
  have madeInOrder := (List.forall₂_and_left _ _).mpr
    ⟨fun site (member : site ∈ definitionSites root) => member, (mapM_eq_ok_iff _ _).mp extracted⟩
  refine madeInOrder.imp ?_
  rintro site record ⟨member, made⟩ written
  obtain ⟨inTree, defines⟩ := definition_of_mem_definitionSites member
  refine ⟨(span_of_siteRecord made).2, fun parses => ?_⟩
  -- The definition and those inside it are definitions of the module, so they all have records.
  have each : ∀ inner ∈ site.node.preorder, inner.kind = "function_definition" →
      ∃ scopes parent record,
        recordOf file text.toList.toArray scopes parent inner = .ok record := by
    intro inner isInside innerDefines
    obtain ⟨innerSite, isSite, rfl⟩ := List.mem_map.mp (mem_preorder_trans inTree isInside)
    obtain ⟨other, otherMade⟩ := allMade innerSite
      (List.mem_filter.mpr ⟨isSite, decide_eq_true innerDefines⟩)
    exact ⟨_, _, other, otherMade⟩
  obtain ⟨first, others, functions, agrees⟩ := functions_standalone
    (fun token isToken => standsNamed token (mem_preorder_trans inTree isToken))
    (readsAlike_of_placed placed inTree) defines each made
  have validTree := firstOutdated_standalone (firstOutdated_of_definition standsNamed current member)
  exact ⟨_, first, others, parseWith_eq_ok_iff.mpr ⟨_, parses, rfl, validTree, rfl⟩, functions,
    agrees⟩

/-- Both functions of a module are read alike from their own texts. -/
theorem functions_of_sourceText_nested :
    ∃ records, nestedModule.functions = .ok records ∧ records.map (·.name) = ["f", "g"] ∧
      List.Forall₂
        (fun site record => ∃ reparsed first others,
          parseWith (Parse.syntaxTree nestedTable) "m.py"
            (textOf nestedModule.source site.node.label) = .ok reparsed ∧
          reparsed.functions = .ok (first :: others) ∧
          first.Agrees record)
        (definitionSites nestedModule.root) records := by
  obtain ⟨records, extracted, names⟩ := exists_functions_nestedModule
  have parses : ∀ site ∈ definitionSites nestedModule.root,
      Parse.syntaxTree nestedTable (textOf nestedModule.source site.node.label).toList.toArray =
        some site.node.standalone := by
    decide +kernel
  have reads := functions_of_sourceText nestedTable "m.py" "def f():\n def g(): pass\n"
    nestedModule parseWith_nestedModule (kindStandsNamed_of_tokens (by decide) (by decide)) records
    extracted
  refine ⟨records, extracted, names, ((List.forall₂_and_left _ _).mpr ⟨parses, reads⟩).imp ?_⟩
  exact fun site record alike => alike.2.2 alike.1

end FunctionAtlas.Analysis
