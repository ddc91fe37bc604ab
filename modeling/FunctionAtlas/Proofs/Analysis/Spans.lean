import FunctionAtlas.Proofs.Analysis.Extraction
import FunctionAtlas.Proofs.Analysis.Verdict
import FunctionAtlas.Proofs.Grammar.PythonTree
import FunctionAtlas.Proofs.Parse.Rounds
import FunctionAtlas.Proofs.Syntax.Placement

/-!
Contract: where the records of a module lie in its text.

Definitions begin with a keyword that is not empty, and no definition is inside that keyword. So a
definition inside another one begins after it, and the spans of two records are apart unless one
definition is inside the other.

That the nodes of a tree lie in the text is no assumption: the parser sees to it with every table.

Owns: the spans and the texts of the records of a module.
-/

namespace FunctionAtlas.Analysis

open FunctionAtlas.FirstFailure
open FunctionAtlas.Grammar
open FunctionAtlas.Grammar.Python
open FunctionAtlas.Syntax
open FunctionAtlas.Syntax.Node
open FunctionAtlas.Text

/-- The second span lies inside the first one and begins later. -/
def Span.Contains (outer inner : Span) : Prop :=
  outer.startByte < inner.startByte ∧ inner.endByte ≤ outer.endByte

/-- The bytes between two offsets. -/
def byteSlice (text : String) (start stop : Nat) : List UInt8 :=
  (text.toUTF8.data.toList.take stop).drop start

section Trees

variable {source : Array Char} {root : Node}

/-- A definition begins with a keyword. -/
theorem exists_keyword (tree : PythonTree source root) {node : Node}
    (member : node ∈ root.preorder) (defines : node.kind = "function_definition") :
    ∃ first others, node.children = first :: others ∧ first.isNamed = false ∧
      first.kind ∈ definitionKeywords := by
  obtain ⟨-, -, -, -, -, -, -, begins, -⟩ := definition_shape
  obtain ⟨first, isFirst, unnamed, isKeyword⟩ := (tree.conforms node member).first_child
    (tree.isNamed_of_definition member defines) defines begins
  rw [tree.head?_solid member (by simp [defines, hiddenStartKinds])] at isFirst
  obtain ⟨others, split⟩ := List.head?_eq_some_iff.mp isFirst
  exact ⟨first, others, split, unnamed, isKeyword⟩

theorem start_lt_stop_of_textOf {label : Label} (nonempty : textOf source label ≠ "") :
    label.start.chars < label.stop.chars := by
  by_contra isBackward
  apply nonempty
  have isEmpty : (source.extract label.start.chars label.stop.chars).toList = [] := by
    simp
    omega
  rw [textOf, isEmpty]

variable (tree : PythonTree source root) (placed : Placed source root)
  (keywords : ∀ node ∈ root.preorder, node.kind ∈ definitionKeywords →
    textOf source node.label ≠ "")

include tree placed keywords

/-- A definition is not empty. -/
theorem start_lt_stop_of_definition {node : Node} (member : node ∈ root.preorder)
    (defines : node.kind = "function_definition") :
    node.label.start.chars < node.label.stop.chars := by
  obtain ⟨first, others, split, -, isKeyword⟩ := exists_keyword tree member defines
  have isChild : first ∈ node.children := by simp [split]
  have isInside := mem_preorder_of_mem_children member isChild
  have within := placed.nested.within node member first isChild
  have nonempty := start_lt_stop_of_textOf (keywords first isInside isKeyword)
  omega

/-- A definition inside another one begins after it. -/
theorem start_lt_start_of_inner {outer inner : Site} (isOuter : outer ∈ definitionSites root)
    (isInner : inner ∈ definitionSites root) (onTheWay : outer.path <+: inner.path)
    (differ : outer.path ≠ inner.path) :
    outer.node.label.start.chars < inner.node.label.start.chars ∧
      inner.node.label.stop.chars ≤ outer.node.label.stop.chars := by
  obtain ⟨outerSite, outerDefines⟩ := List.mem_filter.mp isOuter
  obtain ⟨innerSite, innerDefines⟩ := List.mem_filter.mp isInner
  have outerMember := mem_preorder_of_site outerSite
  have outerDefinition : outer.node.kind = "function_definition" := of_decide_eq_true outerDefines
  have innerDefinition : inner.node.kind = "function_definition" := of_decide_eq_true innerDefines
  obtain ⟨index, child, isChild, isInside⟩ :=
    exists_child_of_isPrefix outerSite innerSite onTheWay differ
  obtain ⟨first, others, split, unnamed, isKeyword⟩ :=
    exists_keyword tree outerMember outerDefinition
  have firstChild : first ∈ outer.node.children := by simp [split]
  have firstMember := mem_preorder_of_mem_children outerMember firstChild
  have childMember := List.mem_of_getElem? isChild
  have childInTree := mem_preorder_of_mem_children outerMember childMember
  -- The keyword holds no definition, so the inner one is in a later child.
  rw [split] at isChild
  cases index with
  | zero =>
      have isFirst : first = child := Option.some.inj isChild
      subst isFirst
      exact absurd innerDefinition (tree.standsNamed first firstMember unnamed _ isInside)
  | succ index =>
      have isLater : child ∈ others := List.mem_of_getElem? isChild
      have ordered := placed.nested.ordered outer.node outerMember
      rw [split, List.pairwise_cons] at ordered
      have apart := ordered.1 child isLater
      have nonempty := start_lt_stop_of_textOf (keywords first firstMember isKeyword)
      have firstWithin := placed.nested.within _ outerMember first firstChild
      have childWithin := placed.nested.within _ outerMember child childMember
      have inChild := (placed.nested.of_mem childInTree).bounds isInside
      omega

end Trees

/-! ## Texts -/

section Texts

variable {source : Array Char} {root node inner : Node}

theorem bytes_textOf (placed : Placed source root) (member : node ∈ root.preorder) :
    (textOf source node.label).toUTF8.data.toList =
      ((bytesOf source.toList).take node.label.stop.bytes).drop node.label.start.bytes := by
  obtain ⟨isStart, isStop, ordered⟩ := placed.places node member
  rw [toList_toUTF8, textOf, String.toList_ofList, ← bytesOf, bytesOf_extract isStart isStop ordered]

/-- The text of a node inside another one is a part of that one's text. -/
theorem bytes_textOf_inner (placed : Placed source root) (member : node ∈ root.preorder)
    (isInside : inner ∈ node.preorder) :
    (textOf source inner.label).toUTF8.data.toList =
      byteSlice (textOf source node.label) (inner.label.start.bytes - node.label.start.bytes)
        (inner.label.stop.bytes - node.label.start.bytes) := by
  have innerMember := mem_preorder_trans member isInside
  obtain ⟨isStart, isStop, -⟩ := placed.places node member
  obtain ⟨innerStart, innerStop, innerOrdered⟩ := placed.places inner innerMember
  obtain ⟨after, before⟩ := (placed.nested.of_mem member).bounds isInside
  have startsAfter := (isStart.bytes_le_iff innerStart).mpr after
  have stopsBefore := (innerStop.bytes_le_iff isStop).mpr before
  have ordered := (innerStart.bytes_le_iff innerStop).mpr innerOrdered
  rw [byteSlice, bytes_textOf placed member, bytes_textOf placed innerMember]
  -- Cutting off what is before the outer node shifts the offsets by its start.
  rw [List.take_drop, List.take_take, List.drop_drop]
  congr 2 <;> omega

end Texts

/-! ## Records -/

/-- What the record of a definition says of its place is so in the text. -/
structure FunctionRecord.LiesIn (text : String) (record : FunctionRecord) : Prop where
  nonempty : record.span.startByte < record.span.endByte
  sourceText : ∃ written, record.sourceText = some written ∧
    written.toUTF8.data.toList = byteSlice text record.span.startByte record.span.endByte
  startLine : record.span.startLine = lineFeeds (byteSlice text 0 record.span.startByte) + 1
  startColumn : record.span.startColumn =
    sinceLineFeed (byteSlice text 0 record.span.startByte) + 1
  endLine : record.span.endLine = lineFeeds (byteSlice text 0 record.span.endByte) + 1
  endColumn : record.span.endColumn = sinceLineFeed (byteSlice text 0 record.span.endByte) + 1

/-- How the records of two definitions lie to each other, the first of which comes first. -/
structure LieApart (first second : Site × FunctionRecord) : Prop where
  ascending : first.2.span.startByte < second.2.span.startByte
  apart : first.2.span.Contains second.2.span ∨
    first.2.span.endByte ≤ second.2.span.startByte
  contains_iff : first.2.span.Contains second.2.span ↔ first.1.path <+: second.1.path
  part : first.1.path <+: second.1.path → ∃ whole written,
    first.2.sourceText = some whole ∧ second.2.sourceText = some written ∧
      written.toUTF8.data.toList = byteSlice whole
        (second.2.span.startByte - first.2.span.startByte)
        (second.2.span.endByte - first.2.span.startByte)

section Records

variable {file text : String} {root : Node}

theorem span_of_siteRecord {source : Array Char} {site : Site} {record : FunctionRecord}
    (made : siteRecord file source site = .ok record) :
    record.span = .ofLabel site.node.label ∧
      record.sourceText = some (textOf source site.node.label) := by
  obtain ⟨name, parameters, docstring, -, -, rfl⟩ := recordOf_eq_ok_iff.mp made
  exact ⟨rfl, rfl⟩

theorem byteSlice_of_source (start stop : Nat) :
    byteSlice text start stop =
      ((bytesOf text.toList.toArray.toList).take stop).drop start := by
  rw [byteSlice, toList_toUTF8]
  rfl

variable (tree : PythonTree text.toList.toArray root) (placed : Placed text.toList.toArray root)
  (keywords : ∀ node ∈ root.preorder, node.kind ∈ definitionKeywords →
    textOf text.toList.toArray node.label ≠ "")

include tree placed keywords

theorem liesIn_of_siteRecord {site : Site} (member : site ∈ definitionSites root)
    {record : FunctionRecord} (made : siteRecord file text.toList.toArray site = .ok record) :
    record.LiesIn text := by
  obtain ⟨isSite, isDefinition⟩ := List.mem_filter.mp member
  have inTree := mem_preorder_of_site isSite
  obtain ⟨isStart, isStop, -⟩ := placed.places site.node inTree
  obtain ⟨isSpan, isText⟩ := span_of_siteRecord made
  have nonempty := start_lt_stop_of_definition tree placed keywords inTree
    (of_decide_eq_true isDefinition)
  constructor
  · rw [isSpan]
    exact (isStart.bytes_lt_iff isStop).mpr nonempty
  · refine ⟨_, isText, ?_⟩
    rw [isSpan, byteSlice_of_source]
    exact bytes_textOf placed inTree
  all_goals rw [isSpan, byteSlice_of_source, List.drop_zero]
  · exact congrArg (· + 1) isStart.rows_eq
  · exact congrArg (· + 1) isStart.column_eq
  · exact congrArg (· + 1) isStop.rows_eq
  · exact congrArg (· + 1) isStop.column_eq

theorem lieApart_of_siteRecord {first second : Site} (isFirst : first ∈ definitionSites root)
    (isSecond : second ∈ definitionSites root) (ordered : PathBefore first.path second.path)
    {record other : FunctionRecord}
    (made : siteRecord file text.toList.toArray first = .ok record)
    (otherMade : siteRecord file text.toList.toArray second = .ok other) :
    LieApart (first, record) (second, other) := by
  obtain ⟨firstSite, firstDefines⟩ := List.mem_filter.mp isFirst
  obtain ⟨secondSite, secondDefines⟩ := List.mem_filter.mp isSecond
  have firstInTree := mem_preorder_of_site firstSite
  have secondInTree := mem_preorder_of_site secondSite
  obtain ⟨firstStart, firstStop, -⟩ := placed.places first.node firstInTree
  obtain ⟨secondStart, secondStop, -⟩ := placed.places second.node secondInTree
  obtain ⟨isSpan, isText⟩ := span_of_siteRecord made
  obtain ⟨otherSpan, otherText⟩ := span_of_siteRecord otherMade
  by_cases onTheWay : first.path <+: second.path
  · have differ : first.path ≠ second.path := by
      intro isSame
      rw [isSame] at ordered
      exact List.Lex.to_ne (List.Lex.imp (fun _ _ => Nat.ne_of_lt) _ _ ordered) rfl
    obtain ⟨after, within⟩ :=
      start_lt_start_of_inner tree placed keywords isFirst isSecond onTheWay differ
    have contains : record.span.Contains other.span := by
      rw [isSpan, otherSpan]
      exact ⟨(firstStart.bytes_lt_iff secondStart).mpr after,
        (secondStop.bytes_le_iff firstStop).mpr within⟩
    refine ⟨contains.1, .inl contains, ⟨fun _ => onTheWay, fun _ => contains⟩, fun _ => ?_⟩
    obtain ⟨index, child, isChild, isInside⟩ :=
      exists_child_of_isPrefix firstSite secondSite onTheWay differ
    have childInside := mem_preorder_of_mem_children (self_mem_preorder first.node)
      (List.mem_of_getElem? isChild)
    refine ⟨_, _, isText, otherText, ?_⟩
    rw [isSpan, otherSpan]
    exact bytes_textOf_inner placed firstInTree (mem_preorder_trans childInside isInside)
  · have before := (placed.nested.isPrefix_or_before firstSite secondSite ordered).resolve_left
      onTheWay
    have firstNonempty := start_lt_stop_of_definition tree placed keywords firstInTree
      (of_decide_eq_true firstDefines)
    have secondNonempty := start_lt_stop_of_definition tree placed keywords secondInTree
      (of_decide_eq_true secondDefines)
    have isBefore : record.span.endByte ≤ other.span.startByte := by
      rw [isSpan, otherSpan]
      exact (firstStop.bytes_le_iff secondStart).mpr before
    have firstBytes : record.span.startByte < record.span.endByte := by
      rw [isSpan]
      exact (firstStart.bytes_lt_iff firstStop).mpr firstNonempty
    have secondBytes : other.span.startByte < other.span.endByte := by
      rw [otherSpan]
      exact (secondStart.bytes_lt_iff secondStop).mpr secondNonempty
    refine ⟨Nat.lt_of_lt_of_le firstBytes isBefore, .inr isBefore, ⟨fun contains => ?_, fun isWay =>
      absurd isWay onTheWay⟩, fun isWay => absurd isWay onTheWay⟩
    have tooFar : other.span.endByte ≤ record.span.endByte := contains.2
    omega

/-- The records of a module lie in its text, and apart from each other as far as their definitions
do. -/
theorem records_lie_apart {records : List FunctionRecord}
    (extracted : ParsedModule.functions ⟨file, text.toList.toArray, root⟩ = .ok records) :
    (definitionSites root).length = records.length ∧
      ((definitionSites root).zip records).Pairwise LieApart ∧
      ∀ record ∈ records, record.LiesIn text := by
  rw [functions_eq_mapM _ tree.standsNamed, mapM_eq_ok_iff] at extracted
  have sameLength := extracted.length_eq
  have isMade : ∀ pair ∈ (definitionSites root).zip records, pair.1 ∈ definitionSites root ∧
      siteRecord file text.toList.toArray pair.1 = .ok pair.2 := by
    rintro ⟨site, record⟩ member
    exact ⟨(List.of_mem_zip member).1, List.forall₂_zip extracted member⟩
  refine ⟨sameLength, ?_, ?_⟩
  · have ordered : ((definitionSites root).zip records).Pairwise fun first second =>
        PathBefore first.1.path second.1.path := by
      have sitesOrdered : ((definitionSites root).map Site.path).Pairwise PathBefore :=
        (pairwise_path_sites root).sublist (List.filter_sublist.map Site.path)
      rw [← List.map_fst_zip (Nat.le_of_eq sameLength), List.map_map] at sitesOrdered
      exact List.pairwise_map.mp sitesOrdered
    refine ordered.imp_of_mem fun isFirst isSecond isBefore => ?_
    obtain ⟨firstSite, firstMade⟩ := isMade _ isFirst
    obtain ⟨secondSite, secondMade⟩ := isMade _ isSecond
    exact lieApart_of_siteRecord tree placed keywords firstSite secondSite isBefore firstMade
      secondMade
  · intro record member
    rw [← List.map_snd_zip (Nat.le_of_eq sameLength.symm)] at member
    obtain ⟨pair, isPair, rfl⟩ := List.mem_map.mp member
    obtain ⟨isSite, made⟩ := isMade pair isPair
    exact liesIn_of_siteRecord tree placed keywords isSite made

end Records

/-! ## Modules -/

/-- The records of a module that the parser accepts lie in its text: each has the bytes between its
offsets for its source text, and the lines and columns of its offsets. They begin in the order of
the list, and two of them are apart unless the one definition is inside the other; then its text is
the part of the other's text at the distance of their beginnings. -/
theorem functions_lie_apart
    (table : Automaton.Table)
    (file text : String)
    (parsed : ParsedModule)
    (accepted : parseWith (Parse.syntaxTree table) file text = .ok parsed)
    (tree : PythonTree parsed.source parsed.root)
    (keywords : ∀ node ∈ parsed.root.preorder, node.kind ∈ definitionKeywords →
      textOf parsed.source node.label ≠ "")
    (records : List FunctionRecord)
    (extracted : parsed.functions = .ok records) :
    let sites := definitionSites parsed.root
    sites.length = records.length ∧
      (sites.zip records).Pairwise LieApart ∧
      ∀ record ∈ records, record.LiesIn text := by
  obtain ⟨root, isTree, -, -, rfl⟩ := parseWith_eq_ok_iff.mp accepted
  have placed := Parse.placed_of_syntaxTree isTree
  exact records_lie_apart tree placed keywords extracted

/-! ## A definition inside another one -/

section Nested

open FunctionAtlas.Automaton

/-- A state of the lexer, given by where it goes from each of several sets of letters. -/
def lexerState (recognized : Recognized) (moves : List (CharSet × Nat)) (blanks : CharSet)
    (endsText : Bool) : DfaState where
  recognized := recognized
  endsText := endsText
  targets := ((List.range LetterCode.count).map fun letter =>
    ((moves.find? fun move => move.1.contains letter).map fun move => move.2 + 1).getD 0).toArray
  blanks := blanks

/-- A state of the parser with at most one action for each token. -/
def parserState (actions : List (Nat × Action)) (successors : List (Nat × Nat))
    (scanned : List Nat) : TableState where
  actions := ((List.range 10).map fun symbol => (actions.lookup symbol).toList.toArray).toArray
  successors := ((List.range 6).map fun category => (successors.lookup category).getD 0).toArray
  mode := 0
  scanned := .ofList scanned

/-- The part of the table of the language that definitions without parameters need, whose body is
another definition or `pass`. -/
def nestedTable : Table where
  states := #[
    parserState [] [] [],
    -- at the beginning, and in the head of a definition
    parserState [(2, .shift 2 false)] [(0, 17), (1, 16)] [],
    parserState [(1, .shift 3 false)] [] [],
    parserState [(3, .shift 4 false)] [(2, 6)] [],
    parserState [(4, .shift 5 false)] [] [],
    parserState [(5, .reduce 2 2 0 0)] [] [],
    parserState [(5, .shift 7 false)] [] [],
    -- in a body on the same line
    parserState [(6, .shift 8 false), (8, .shift 12 false)] [(3, 9), (4, 11)] [1],
    parserState [(7, .reduce 3 1 0 0)] [] [0],
    parserState [(7, .shift 10 false)] [] [0],
    parserState [(0, .reduce 4 2 0 0), (9, .reduce 4 2 0 0)] [] [2],
    parserState [(0, .reduce 1 5 0 1), (9, .reduce 1 5 0 1)] [] [2],
    -- in an indented body
    parserState [(2, .shift 2 false)] [(1, 13), (5, 15)] [2],
    parserState [(9, .shift 14 false)] [] [2],
    parserState [(0, .reduce 5 2 0 0), (9, .reduce 5 2 0 0)] [] [2],
    parserState [(0, .reduce 1 6 0 2), (9, .reduce 1 6 0 2)] [] [2],
    -- at the end
    parserState [(0, .reduce 0 1 0 0)] [] [],
    parserState [(0, .accept)] [] []]
  symbols := #[
    ⟨"end", false, true⟩, ⟨"identifier", true, true⟩, ⟨"def", true, false⟩, ⟨"(", true, false⟩,
    ⟨")", true, false⟩, ⟨":", true, false⟩, ⟨"pass", true, false⟩, ⟨"_newline", false, true⟩,
    ⟨"_indent", false, true⟩, ⟨"_dedent", false, true⟩, ⟨"module", true, true⟩,
    ⟨"function_definition", true, true⟩, ⟨"parameters", true, true⟩,
    ⟨"pass_statement", true, true⟩, ⟨"_simple_statements", false, true⟩, ⟨"block", true, true⟩]
  tokenCount := 10
  shapes := #[
    ⟨#[], #[]⟩,
    ⟨#[none, none, none, none, some ⟨"block", true⟩],
      #[none, some "name", some "parameters", none, some "body"]⟩,
    ⟨#[], #[none, some "name", some "parameters", none, none, some "body"]⟩]
  dfa := #[
    lexerState .nothing [(.nameStart, 1), (.ofString "(", 2), (.ofString ")", 3),
      (.ofString ":", 4), (.blank, 0)] .blank true,
    lexerState (.token 0) [(.nameContinue, 1)] .empty false,
    lexerState (.token 2) [] .empty false,
    lexerState (.token 3) [] .empty false,
    lexerState (.token 4) [] .empty false,
    -- the keywords
    lexerState .nothing [(.ofString "d", 6), (.ofString "p", 9)] .empty false,
    lexerState .nothing [(.ofString "e", 7)] .empty false,
    lexerState .nothing [(.ofString "f", 8)] .empty false,
    lexerState (.token 1) [] .empty false,
    lexerState .nothing [(.ofString "a", 10)] .empty false,
    lexerState .nothing [(.ofString "s", 11)] .empty false,
    lexerState .nothing [(.ofString "s", 12)] .empty false,
    lexerState (.token 5) [] .empty false]
  modeStarts := #[0]
  keywordStart := 5
  externalSymbols := #[7, 8, 9]
  terminalSymbols := #[1, 2, 3, 4, 5, 6]

/-- The function `f` with the function `g` inside. -/
def nestedModule : ParsedModule :=
  let source := "def f():\n def g(): pass\n".toList.toArray
  let inner := nodeOver source "function_definition" none 10 23
    [tokenOver source 10 13, nodeOver source "identifier" (some "name") 14 15 [],
      nodeOver source "parameters" (some "parameters") 15 17
        [tokenOver source 15 16, tokenOver source 16 17],
      tokenOver source 17 18,
      nodeOver source "block" (some "body") 19 23
        [nodeOver source "pass_statement" none 19 23 [tokenOver source 19 23]]]
  let outer := nodeOver source "function_definition" none 0 23
    [tokenOver source 0 3, nodeOver source "identifier" (some "name") 4 5 [],
      nodeOver source "parameters" (some "parameters") 5 7
        [tokenOver source 5 6, tokenOver source 6 7],
      tokenOver source 7 8, nodeOver source "block" (some "body") 10 23 [inner]]
  ⟨"m.py", source, nodeOver source "module" none 0 24 [outer]⟩

/-- What is evaluated of it. -/
theorem checked_nestedModule :
    Parse.syntaxTree nestedTable nestedModule.source = some nestedModule.root ∧
    nestedModule.functions.toOption.map (List.map (·.name)) = some ["f", "g"] ∧
    ∀ node ∈ nestedModule.root.preorder, checkNode grammar depth node = true := by
  decide +kernel

theorem parseWith_nestedModule :
    parseWith (Parse.syntaxTree nestedTable) "m.py" "def f():\n def g(): pass\n" =
      .ok nestedModule :=
  parseWith_eq_ok_iff.mpr ⟨_, checked_nestedModule.1, rfl, by decide, rfl⟩

theorem exists_functions_nestedModule :
    ∃ records, nestedModule.functions = .ok records ∧ records.map (·.name) = ["f", "g"] := by
  obtain ⟨-, named, -⟩ := checked_nestedModule
  cases extracted : nestedModule.functions with
  | error failure =>
      rw [extracted] at named
      cases named
  | ok records =>
      rw [extracted] at named
      exact ⟨records, rfl, Option.some.inj named⟩

/-- The function inside lies inside the text of the one around it. -/
theorem functions_lie_apart_nested :
    ∃ records, nestedModule.functions = .ok records ∧ records.map (·.name) = ["f", "g"] ∧
      ((definitionSites nestedModule.root).zip records).Pairwise LieApart ∧
      ∀ record ∈ records, record.LiesIn "def f():\n def g(): pass\n" := by
  obtain ⟨records, extracted, names⟩ := exists_functions_nestedModule
  obtain ⟨-, -, conforms⟩ := checked_nestedModule
  have tree : PythonTree nestedModule.source nestedModule.root :=
    .of_checked conforms (by decide) (by decide) (by decide) (by decide)
  obtain ⟨-, apart, inText⟩ := functions_lie_apart nestedTable "m.py" "def f():\n def g(): pass\n"
    nestedModule parseWith_nestedModule tree (by decide) records extracted
  exact ⟨records, extracted, names, apart, inText⟩

end Nested

end FunctionAtlas.Analysis
