import FunctionAtlas.Proofs.Analysis.Parameters
import FunctionAtlas.Proofs.Docstring.ShownLiterals

/-!
Contract: what the written form of a definition tells of its record.

Definitions that are written alike agree in what is shown, so they have the same name, bind the
same parameters and are both asynchronous or both not. They have the same docstring if its
literals are told by what is shown of them.

Owns: the agreement of names, parameters, the asynchronous mark and docstrings.

Does not own: which literals are told; see `FunctionAtlas.Proofs.Docstring.ShownLiterals`.
-/

namespace FunctionAtlas.Analysis

open FunctionAtlas.Docstring
open FunctionAtlas.FirstFailure
open FunctionAtlas.Grammar
open FunctionAtlas.Grammar.Python
open FunctionAtlas.Syntax
open FunctionAtlas.Syntax.Dump
open FunctionAtlas.Syntax.Node

/-! ## Children that agree -/

section Children

variable {source otherSource : Array Char} {root otherRoot node other child : Node}
  (tree : PythonTree source root) (otherTree : PythonTree otherSource otherRoot)
  (agree : AgreeIn source otherSource root otherRoot node other)

include tree otherTree agree

/-- Of nodes that agree, the children in a field agree. -/
theorem agree_childByField {name : String} (found : node.childByField name = some child)
    (named : child.isNamed = true) :
    ∃ otherChild, other.childByField name = some otherChild ∧
      AgreeIn source otherSource root otherRoot child otherChild := by
  have each := agree.same.filling agree.named name
  rw [(tree.conforms node agree.inTree).childByField_eq] at found
  obtain ⟨rest, split⟩ := List.head?_eq_some_iff.mp found
  rw [split, List.forall₂_cons_left_iff] at each
  obtain ⟨otherChild, otherRest, same, -, otherSplit⟩ := each
  have fills : child ∈ node.filling name := by simp [split]
  have otherFills : otherChild ∈ other.filling name := by simp [otherSplit]
  refine ⟨otherChild, ?_, same, ?_, ?_, named⟩
  · rw [(otherTree.conforms other agree.otherInTree).childByField_eq, otherSplit]
    rfl
  · exact tree.mem_of_solid agree.inTree (mem_filling_iff.mp fills).1
  · exact otherTree.mem_of_solid agree.otherInTree (mem_filling_iff.mp otherFills).1

theorem childByField_eq_none {name : String} (absent : node.childByField name = none) :
    other.childByField name = none := by
  have each := agree.same.filling agree.named name
  rw [(tree.conforms node agree.inTree).childByField_eq, List.head?_eq_none_iff] at absent
  rw [absent, List.forall₂_nil_left_iff] at each
  rw [(otherTree.conforms other agree.otherInTree).childByField_eq, each]
  rfl

end Children

/-! ## Bound identifiers -/

/-- The kinds of nodes that can bind an identifier. -/
def boundKinds : List String :=
  [ "identifier", "default_parameter", "typed_default_parameter", "typed_parameter"
  , "list_splat_pattern", "dictionary_splat_pattern" ]

theorem kind_of_boundIdentifier {node : Node} {identifier : Label}
    (bound : boundIdentifier node = some identifier) : node.kind ∈ boundKinds := by
  rw [boundIdentifier_eq] at bound
  by_cases isIdentifier : node.kind = "identifier"
  · simp [boundKinds, isIdentifier]
  · rw [if_neg isIdentifier] at bound
    cases byField : bindsByField node.kind with
    | true =>
        simp only [bindsByField, Bool.or_eq_true, decide_eq_true_eq] at byField
        rcases byField with isKind | isKind <;> simp [boundKinds, isKind]
    | false =>
        cases byFirst : bindsByFirst node.kind with
        | true =>
            simp only [bindsByFirst, Bool.or_eq_true, decide_eq_true_eq] at byFirst
            rcases byFirst with (isKind | isKind) | isKind <;> simp [boundKinds, isKind]
        | false => simp [byField, byFirst] at bound

section Bound

variable {source otherSource : Array Char} {root otherRoot node other first : Node}

/-- A first named child that binds an identifier is the first one that is shown. -/
theorem head?_loose_of_bound (tree : PythonTree source root) (member : node ∈ root.preorder)
    (named : node.isNamed = true) (byFirst : bindsByFirst node.kind = true)
    (isFirst : node.namedChildren.head? = some first) {identifier : Label}
    (bound : boundIdentifier first = some identifier) : node.loose.head? = some first := by
  have ofKind := kind_of_boundIdentifier bound
  obtain ⟨isChild, isNamed⟩ := List.mem_filter.mp (List.mem_of_head? isFirst)
  have solidFirst : first.isExtra = false := by
    cases extra : first.isExtra with
    | false => rfl
    | true =>
        have binds : ∀ kind ∈ boundKinds, kind ∉ grammar.extras := by decide
        exact absurd ((tree.conforms node member).extras first isChild extra).1
          (binds first.kind ofKind)
  have isSolid : first ∈ node.solid := mem_solid_iff.mpr ⟨isChild, solidFirst⟩
  have unfielded : first.label.field = none := by
    simp only [bindsByFirst, Bool.or_eq_true, decide_eq_true_eq, or_assoc] at byFirst
    rcases byFirst with isTyped | isSplat
    · refine (tree.child_of_typed member named isTyped isSolid).resolve_right ?_
      have binds : ∀ kind ∈ boundKinds, kind ≠ "type" := by decide
      exact binds first.kind ofKind
    · exact (tree.child_of_splat member named (by simpa [splatKinds] using isSplat) isSolid).1
  have looseIs : node.loose =
      node.namedChildren.filter fun child => child.label.field = none && !child.isExtra := by
    rw [loose, solid, namedChildren, List.filter_filter, List.filter_filter]
    apply List.filter_congr
    intro child _
    cases child.isExtra <;> simp
  obtain ⟨rest, split⟩ := List.head?_eq_some_iff.mp isFirst
  simp [looseIs, split, unfielded, solidFirst]

/-- Nodes that agree bind identifiers of the same text. The induction is over the tree, along the
children that bind. -/
theorem text_boundIdentifier_eq (tree : PythonTree source root)
    (otherTree : PythonTree otherSource otherRoot)
    (agree : AgreeIn source otherSource root otherRoot node other)
    {identifier otherIdentifier : Label} (bound : boundIdentifier node = some identifier)
    (otherBound : boundIdentifier other = some otherIdentifier) :
    textOf source identifier = textOf otherSource otherIdentifier := by
  induction node using Node.induction generalizing other with
  | step label children inductionHypothesis =>
      generalize whole : Node.mk label children = node at *
      have isChild : ∀ child ∈ node.children, child ∈ children := by
        intro child member
        rw [← whole] at member
        exact member
      rw [boundIdentifier_eq] at bound otherBound
      rw [← agree.kind_eq] at otherBound
      by_cases isIdentifier : node.kind = "identifier"
      · rw [if_pos isIdentifier] at bound otherBound
        obtain rfl := Option.some.inj bound
        obtain rfl := Option.some.inj otherBound
        exact agree.same.text_eq
          (tree.isShownByText_of_identifier agree.inTree agree.named isIdentifier)
      · rw [if_neg isIdentifier] at bound otherBound
        by_cases byField : bindsByField node.kind = true
        · rw [if_pos byField] at bound otherBound
          obtain ⟨name, found, binds⟩ := Option.bind_eq_some_iff.mp bound
          obtain ⟨otherName, otherFound, otherBinds⟩ := Option.bind_eq_some_iff.mp otherBound
          have nameNamed : name.isNamed = true := by
            simp only [bindsByField, Bool.or_eq_true, decide_eq_true_eq] at byField
            rcases byField with isKind | isKind
            · obtain ⟨same, -, sameFound, -, isNamed⟩ :=
                tree.name_of_default agree.inTree agree.named isKind
              rwa [Option.some.inj (found.symm.trans sameFound)]
            · obtain ⟨same, -, sameFound, -, isNamed⟩ :=
                tree.name_of_typedDefault agree.inTree agree.named isKind
              rwa [Option.some.inj (found.symm.trans sameFound)]
          obtain ⟨sameName, sameFound, agreeName⟩ :=
            agree_childByField tree otherTree agree found nameNamed
          obtain rfl := Option.some.inj (otherFound.symm.trans sameFound)
          exact inductionHypothesis name (isChild name (List.mem_of_find?_eq_some found)) agreeName
            binds otherBinds
        · rw [if_neg byField] at bound otherBound
          by_cases byFirst : bindsByFirst node.kind = true
          · rw [if_pos byFirst] at bound otherBound
            obtain ⟨first, isFirst, binds⟩ := Option.bind_eq_some_iff.mp bound
            obtain ⟨otherFirst, isOtherFirst, otherBinds⟩ := Option.bind_eq_some_iff.mp otherBound
            have heads := rel_head?_of_forall₂ agree.loose
            rw [head?_loose_of_bound tree agree.inTree agree.named byFirst isFirst binds,
              head?_loose_of_bound otherTree agree.otherInTree agree.otherNamed
                (agree.kind_eq ▸ byFirst) isOtherFirst otherBinds] at heads
            cases heads with
            | some agreeFirst =>
                have member := (List.mem_filter.mp (List.mem_of_head? isFirst)).1
                exact inductionHypothesis first (isChild first member) agreeFirst binds otherBinds
          · rw [if_neg byFirst] at bound
            cases bound

/-- A name comes from the bound identifier; a separator has none. -/
theorem parameterName_eq_ok {file : String} {name : Option String}
    (succeeds : parameterName file source node = .ok name) :
    (isSeparator node.kind = true ∧ name = none) ∨
      (isSeparator node.kind = false ∧
        ∃ identifier, boundIdentifier node = some identifier ∧
          name = some (textOf source identifier)) := by
  unfold parameterName at succeeds
  change (if isSeparator node.kind then _ else if node.kind = _ then _ else _) = _ at succeeds
  cases separates : isSeparator node.kind with
  | true =>
      rw [separates, if_pos rfl] at succeeds
      exact .inl ⟨rfl, (Except.ok.inj succeeds).symm⟩
  | false =>
      rw [separates, if_neg Bool.false_ne_true] at succeeds
      by_cases isTuple : node.kind = "tuple_pattern"
      · rw [if_pos isTuple] at succeeds
        cases succeeds
      · rw [if_neg isTuple] at succeeds
        cases bound : boundIdentifier node with
        | none =>
            rw [bound] at succeeds
            cases succeeds
        | some identifier =>
            rw [bound] at succeeds
            exact .inr ⟨rfl, identifier, rfl, (Except.ok.inj succeeds).symm⟩

/-- Parameters that agree bind the same name. -/
theorem parameterName_eq (tree : PythonTree source root)
    (otherTree : PythonTree otherSource otherRoot)
    (agree : AgreeIn source otherSource root otherRoot node other)
    {file otherFile : String} {name otherName : Option String}
    (succeeds : parameterName file source node = .ok name)
    (otherSucceeds : parameterName otherFile otherSource other = .ok otherName) :
    name = otherName := by
  have ofOther := parameterName_eq_ok otherSucceeds
  rw [← agree.kind_eq] at ofOther
  rcases parameterName_eq_ok succeeds with ⟨separates, rfl⟩ | ⟨binds, identifier, bound, rfl⟩
  · rcases ofOther with ⟨-, rfl⟩ | ⟨otherBinds, -⟩
    · rfl
    · rw [separates] at otherBinds
      cases otherBinds
  · rcases ofOther with ⟨separates, -⟩ | ⟨-, otherIdentifier, otherBound, rfl⟩
    · rw [binds] at separates
      cases separates
    · rw [text_boundIdentifier_eq tree otherTree agree bound otherBound]

theorem exists_of_parameterNames {file : String} {parameters : List Node} {names : List String}
    (succeeds : parameterNames file source parameters = .ok names) :
    ∃ found, List.Forall₂ (fun parameter name => parameterName file source parameter = .ok name)
      parameters found ∧ names = found.flatMap Option.toList := by
  rw [parameterNames_eq_map_mapM] at succeeds
  cases computed : parameters.mapM (parameterName file source) with
  | error problem =>
      rw [computed] at succeeds
      cases succeeds
  | ok found =>
      rw [computed] at succeeds
      exact ⟨found, (mapM_eq_ok_iff parameters found).mp computed, (Except.ok.inj succeeds).symm⟩

/-- Lists of parameters that agree bind the same names. -/
theorem parameterNames_eq (tree : PythonTree source root)
    (otherTree : PythonTree otherSource otherRoot) {parameters otherParameters : List Node}
    (each : List.Forall₂ (AgreeIn source otherSource root otherRoot) parameters otherParameters)
    {file otherFile : String} {names otherNames : List String}
    (succeeds : parameterNames file source parameters = .ok names)
    (otherSucceeds : parameterNames otherFile otherSource otherParameters = .ok otherNames) :
    names = otherNames := by
  obtain ⟨found, named, rfl⟩ := exists_of_parameterNames succeeds
  obtain ⟨otherFound, otherNamed, rfl⟩ := exists_of_parameterNames otherSucceeds
  have same : found = otherFound := by
    clear succeeds otherSucceeds
    induction each generalizing found otherFound with
    | nil =>
        cases named
        cases otherNamed
        rfl
    | cons agree _ inductionHypothesis =>
        cases named with
        | cons first rest =>
            cases otherNamed with
            | cons otherFirst otherRest =>
                rw [parameterName_eq tree otherTree agree first otherFirst,
                  inductionHypothesis _ rest _ otherRest]
  rw [same]

end Bound

/-! ## Definitions -/

section Definitions

variable {source otherSource : Array Char} {root otherRoot node other : Node}

theorem exists_of_signatureOf {file : String} {name : String} {parameters : List String}
    (signed : signatureOf file source node = .ok (name, parameters)) :
    ∃ nameNode list, node.childByField "name" = some nameNode ∧
      name = textOf source nameNode.label ∧ node.childByField "parameters" = some list ∧
      parameterNames file source list.parts = .ok parameters := by
  unfold signatureOf at signed
  cases nameFound : node.childByField "name" with
  | none => simp [nameFound] at signed
  | some nameNode =>
      cases isEmpty : (textOf source nameNode.label).isEmpty with
      | true => simp [nameFound, isEmpty] at signed
      | false =>
          cases listFound : node.childByField "parameters" with
          | none => simp [nameFound, isEmpty, listFound] at signed
          | some list =>
              cases named : parameterNames file source list.parts with
              | error problem =>
                  simp [nameFound, isEmpty, listFound, named, Except.map] at signed
              | ok names =>
                  simp only [nameFound, isEmpty, listFound, named, Except.map, Bool.false_eq_true,
                    if_false, Except.ok.injEq, Prod.mk.injEq] at signed
                  obtain ⟨rfl, rfl⟩ := signed
                  exact ⟨nameNode, list, rfl, rfl, rfl, named⟩

variable (tree : PythonTree source root) (otherTree : PythonTree otherSource otherRoot)
  (agree : AgreeIn source otherSource root otherRoot node other)
  (defines : node.kind = "function_definition")

include tree otherTree agree defines

/-- Definitions that agree have the same name and bind the same parameters. -/
theorem signatureOf_eq {file otherFile : String} {name otherName : String}
    {parameters otherParameters : List String}
    (signed : signatureOf file source node = .ok (name, parameters))
    (otherSigned : signatureOf otherFile otherSource other = .ok (otherName, otherParameters)) :
    name = otherName ∧ parameters = otherParameters := by
  obtain ⟨nameNode, list, nameFound, rfl, listFound, named⟩ := exists_of_signatureOf signed
  obtain ⟨otherNameNode, otherList, otherNameFound, rfl, otherListFound, otherNamed⟩ :=
    exists_of_signatureOf otherSigned
  refine ⟨?_, ?_⟩
  · obtain ⟨found, -, isFound, isIdentifier, isNamed⟩ := tree.exists_name agree.inTree defines
    obtain rfl := Option.some.inj (nameFound.symm.trans isFound)
    obtain ⟨sameName, sameFound, agreeName⟩ :=
      agree_childByField tree otherTree agree nameFound isNamed
    obtain rfl := Option.some.inj (otherNameFound.symm.trans sameFound)
    exact agreeName.same.text_eq
      (tree.isShownByText_of_identifier agreeName.inTree isNamed isIdentifier)
  · obtain ⟨found, -, isFound, ofKind, isNamed⟩ := tree.exists_parameters agree.inTree defines
    obtain rfl := Option.some.inj (listFound.symm.trans isFound)
    obtain ⟨sameList, sameFound, agreeList⟩ :=
      agree_childByField tree otherTree agree listFound isNamed
    obtain rfl := Option.some.inj (otherListFound.symm.trans sameFound)
    have parts := parts_eq_loose fun child isChild childNamed =>
      (tree.parameter agreeList.inTree isNamed ofKind isChild childNamed).1
    have otherParts := parts_eq_loose fun child isChild childNamed =>
      (otherTree.parameter agreeList.otherInTree agreeList.otherNamed
        (agreeList.kind_eq ▸ ofKind) isChild childNamed).1
    rw [parts] at named
    rw [otherParts] at otherNamed
    exact parameterNames_eq tree otherTree agreeList.loose named otherNamed

/-- Definitions that agree are both asynchronous or both not. -/
theorem isAsyncDefinition_eq : isAsyncDefinition node = isAsyncDefinition other := by
  have byHead : ∀ definition : Node, isAsyncDefinition definition = true ↔
      ∃ first ∈ definition.children.head?, first.kind = "async" := by
    intro definition
    unfold isAsyncDefinition
    cases definition.children.head? <;> simp
  have isFlag : "async" ∈ flagsOf node.kind := by
    rw [defines]
    decide
  rw [Bool.eq_iff_iff, byHead, byHead, tree.begins_async_iff agree.inTree defines,
    otherTree.begins_async_iff agree.otherInTree (agree.kind_eq ▸ defines)]
  exact agree.same.mem_keywords_iff agree.named isFlag

/-- The literals that the docstring of a definition is read from. -/
def docstringLiteralsOf (definition : Node) : List Node :=
  ((definition.childByField "body").map docstringLiterals).getD []

/-- Definitions that agree have the same docstring if it is told. -/
theorem docstringOf_eq_of_told
    (told : ∀ literal ∈ docstringLiteralsOf node, Told source literal)
    (otherTold : ∀ literal ∈ docstringLiteralsOf other, Told otherSource literal) :
    docstringOf source node = docstringOf otherSource other := by
  unfold docstringOf
  unfold docstringLiteralsOf at told otherTold
  cases found : node.childByField "body" with
  | none => rw [childByField_eq_none tree otherTree agree found]
  | some body =>
      obtain ⟨-, isBlock, isNamed⟩ := tree.block_of_body agree.inTree defines found
      obtain ⟨otherBody, otherFound, agreeBody⟩ :=
        agree_childByField tree otherTree agree found isNamed
      rw [found] at told
      rw [otherFound] at otherTold
      rw [otherFound]
      exact ofBody_eq_of_told tree otherTree agreeBody isBlock told otherTold

end Definitions

/-- Two definitions of valid texts that are written alike have the same name, the same parameters
and the same asynchronous mark. They have the same docstring if each of its literals, in both
texts, is told by what is shown: its parts cover it without gaps and are shown by their text, or
its first part has the letter of a format, bytes or template string. -/
theorem record_of_treeDump
    (parsed other : ParsedModule)
    (tree : PythonTree parsed.source parsed.root)
    (otherTree : PythonTree other.source other.root)
    (site otherSite : Site)
    (member : site ∈ definitionSites parsed.root)
    (otherMember : otherSite ∈ definitionSites other.root)
    (record otherRecord : FunctionRecord)
    (made : siteRecord parsed.file parsed.source site = .ok record)
    (otherMade : siteRecord other.file other.source otherSite = .ok otherRecord)
    (sameDump : record.treeDump = otherRecord.treeDump) :
    record.name = otherRecord.name ∧
    record.parameters = otherRecord.parameters ∧
    record.isAsync = otherRecord.isAsync ∧
    ((∀ literal ∈ docstringLiteralsOf site.node, Told parsed.source literal) →
      (∀ literal ∈ docstringLiteralsOf otherSite.node, Told other.source literal) →
      record.docstring = otherRecord.docstring) := by
  obtain ⟨inTree, defines⟩ := definition_of_mem_definitionSites member
  obtain ⟨otherInTree, -⟩ := definition_of_mem_definitionSites otherMember
  obtain ⟨name, parameters, docstring, signed, documented, rfl⟩ := recordOf_eq_ok_iff.mp made
  obtain ⟨otherName, otherParameters, otherDocstring, otherSigned, otherDocumented, rfl⟩ :=
    recordOf_eq_ok_iff.mp otherMade
  have agree : AgreeIn parsed.source other.source parsed.root other.root
      site.node otherSite.node :=
    { same := sameShown_of_dump_eq (tree.hasReadableNames inTree)
        (otherTree.hasReadableNames otherInTree) sameDump
      inTree
      otherInTree
      named := tree.isNamed_of_definition inTree defines }
  obtain ⟨sameName, sameParameters⟩ :=
    signatureOf_eq tree otherTree agree defines signed otherSigned
  refine ⟨sameName, sameParameters, isAsyncDefinition_eq tree otherTree agree defines, ?_⟩
  intro told otherTold
  have sameDocstring := docstringOf_eq_of_told tree otherTree agree defines told otherTold
  rw [documented, otherDocumented] at sameDocstring
  exact Except.ok.inj sameDocstring

/-- A text whose docstring is a letter, an escape and another letter. -/
def escapedText (letter : Char) : Array Char :=
  ("def f():\n    \"".toList ++ letter :: "\\n b\"\n".toList).toArray

def escapedLiteral (letter : Char) : Node :=
  let source := escapedText letter
  nodeOver source "string" none 13 20
    [nodeOver source "string_start" none 13 14 [],
      nodeOver source "string_content" none 14 19
        [nodeOver source "escape_sequence" none 15 17 []],
      nodeOver source "string_end" none 19 20 []]

def escapedDefinition (letter : Char) : Node :=
  let source := escapedText letter
  nodeOver source "function_definition" none 0 20
    [tokenOver source 0 3, nodeOver source "identifier" (some "name") 4 5 [],
      nodeOver source "parameters" (some "parameters") 5 7
        [tokenOver source 5 6, tokenOver source 6 7],
      tokenOver source 7 8,
      nodeOver source "block" (some "body") 13 20
        [nodeOver source "expression_statement" none 13 20 [escapedLiteral letter]]]

def escapedDocstring (letter : Char) : ParsedModule :=
  let source := escapedText letter
  ⟨"m.py", source, nodeOver source "module" none 0 21 [escapedDefinition letter]⟩

/-- Where its definition stands. -/
def escapedSite (letter : Char) : Site :=
  ⟨[0], [(escapedDocstring letter).root], escapedDefinition letter⟩

/-- What is evaluated of both texts. -/
theorem checked_escapedDocstring :
    (∀ letter ∈ ['a', 'c'],
      (∀ node ∈ (escapedDocstring letter).root.preorder, checkNode grammar depth node = true) ∧
      signatureOf "m.py" (escapedText letter) (escapedDefinition letter) = .ok ("f", []) ∧
      clean (String.ofList [letter, '\n', ' ', 'b']) = String.ofList [letter, '\n', 'b']) ∧
    dump (escapedText 'a') (escapedDefinition 'a') =
      dump (escapedText 'c') (escapedDefinition 'c') := by
  refine ⟨?_, by decide +kernel⟩
  -- To decide this of all letters would go through all characters.
  intro letter member
  rcases List.mem_pair.mp member with rfl | rfl <;>
    exact ⟨by decide +kernel, by decide +kernel, by decide +kernel⟩

theorem pythonTree_escapedDocstring :
    ∀ letter ∈ ['a', 'c'], PythonTree (escapedText letter) (escapedDocstring letter).root := by
  intro letter member
  obtain ⟨conforms, -⟩ := checked_escapedDocstring.1 letter member
  rcases List.mem_pair.mp member with rfl | rfl <;>
    exact .of_checked conforms (by decide) (by decide) (by decide) (by decide)

theorem docstringOf_escapedDefinition :
    ∀ letter ∈ ['a', 'c'], docstringOf (escapedText letter) (escapedDefinition letter) =
      .ok (some (String.ofList [letter, '\n', 'b'])) := by
  intro letter member
  have unescaped : unescape [letter, '\\', 'n', ' ', 'b'] = [letter, '\n', ' ', 'b'] := by
    rcases List.mem_pair.mp member with rfl | rfl <;> simp [unescape, simpleEscape]
  have decoded : decode (textOf (escapedText letter) (escapedLiteral letter).label) =
      .ok (some (String.ofList (unescape [letter, '\\', 'n', ' ', 'b']))) := by
    rcases List.mem_pair.mp member with rfl | rfl <;> rfl
  obtain ⟨-, -, cleaned⟩ := checked_escapedDocstring.1 letter member
  have isString : (escapedLiteral letter).kind = "string" := rfl
  have expression : unwrapParentheses (escapedLiteral letter) = escapedLiteral letter := by
    simp [unwrapParentheses_eq, isString]
  have found : docstringOf (escapedText letter) (escapedDefinition letter) =
      (literalValue (escapedText letter) (unwrapParentheses (escapedLiteral letter))).map
        fun value => value.map clean := rfl
  rw [found, expression, literalValue, if_pos isString, decoded, unescaped]
  simp only [Except.map, Option.map, cleaned]

/-- Two valid texts whose only definitions are written alike and have different docstrings: of the
content of the literal only the escape is shown. -/
theorem record_of_escapedDocstring :
    PythonTree (escapedText 'a') (escapedDocstring 'a').root ∧
    PythonTree (escapedText 'c') (escapedDocstring 'c').root ∧
    ∃ record otherRecord,
      (escapedDocstring 'a').functions = .ok [record] ∧
      (escapedDocstring 'c').functions = .ok [otherRecord] ∧
      record.treeDump = otherRecord.treeDump ∧
      record.name = otherRecord.name ∧
      record.parameters = otherRecord.parameters ∧
      record.isAsync = otherRecord.isAsync ∧
      record.docstring = some "a\nb" ∧ otherRecord.docstring = some "c\nb" := by
  have tree := pythonTree_escapedDocstring 'a' (by simp)
  have otherTree := pythonTree_escapedDocstring 'c' (by simp)
  obtain ⟨each, sameDump⟩ := checked_escapedDocstring
  obtain ⟨-, signed, -⟩ := each 'a' (by simp)
  obtain ⟨-, otherSigned, -⟩ := each 'c' (by simp)
  have made : siteRecord "m.py" (escapedText 'a') (escapedSite 'a') = .ok _ :=
    recordOf_eq_ok_iff.mpr
      ⟨"f", [], _, signed, docstringOf_escapedDefinition 'a' (by simp), rfl⟩
  have otherMade : siteRecord "m.py" (escapedText 'c') (escapedSite 'c') = .ok _ :=
    recordOf_eq_ok_iff.mpr
      ⟨"f", [], _, otherSigned, docstringOf_escapedDefinition 'c' (by simp), rfl⟩
  obtain ⟨sameName, sameParameters, sameAsync, -⟩ :=
    record_of_treeDump (escapedDocstring 'a') (escapedDocstring 'c') tree otherTree
      (escapedSite 'a') (escapedSite 'c') List.mem_cons_self List.mem_cons_self
      _ _ made otherMade sameDump
  exact ⟨tree, otherTree, _, _, functions_eq_singleton tree.standsNamed rfl made,
    functions_eq_singleton otherTree.standsNamed rfl otherMade, sameDump, sameName, sameParameters,
    sameAsync, rfl, rfl⟩

end FunctionAtlas.Analysis
