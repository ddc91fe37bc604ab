import FunctionAtlas.Proofs.Analysis.Parameters
import FunctionAtlas.Proofs.Syntax.WrittenText

/-!
Contract: what comments tell of a definition.

Extras are left out of the written form, but a node without shown children is written by its
text, and so is a token in a field. Where such a node has a comment inside, as an empty pair of
brackets can, the comment is written with it. These are the only ways for a comment into the
written form, and the grammar has few kinds of nodes that leave room for one.

Owns: where extras stand in a tree, texts that differ in comments only, and the written forms of
definitions in them.

Does not own: that a parser makes the same tree of such texts.
-/

namespace FunctionAtlas.Analysis

open FunctionAtlas.Grammar
open FunctionAtlas.Grammar.Python
open FunctionAtlas.Syntax
open FunctionAtlas.Syntax.Dump
open FunctionAtlas.Syntax.Node

/-! ## Where extras stand -/

/-- How the nodes of a text without mistakes lie in it: extras are single tokens, a node does not
end with one unless what comes after it leaves no node, and tokens have nothing inside unless the
grammar joins several words to one. -/
structure LaidOut (root : Node) : Prop extends Nested root where
  leaves : ∀ node ∈ root.preorder, node.isExtra = true → node.children = []
  ends : ∀ node ∈ root.preorder, node.kind ∉ openKinds →
    ∀ last ∈ node.children.getLast?, last.isExtra = false
  tokens : ∀ node ∈ root.preorder, node.isNamed = false → node.children ≠ [] →
    ∃ entry ∈ grammar.renamings, entry.1 = ⟨node.kind, false⟩

/-- The kinds of nodes that are written by their text and can have an extra inside. -/
def commentedKinds : List String := gappedKinds ++ openKinds ++ joinedKinds

section Extras

variable {source : Array Char} {root node inner : Node}

/-- A node that has an extra between its first child and its last has at least two others. -/
theorem one_lt_length_solid {extra : Node} (member : extra ∈ node.children)
    (isExtra : extra.isExtra = true)
    (begins : ∀ first ∈ node.children.head?, first.isExtra = false)
    (ends : ∀ last ∈ node.children.getLast?, last.isExtra = false) :
    1 < node.solid.length := by
  unfold solid
  generalize node.children = children at *
  cases children with
  | nil => exact absurd member List.not_mem_nil
  | cons first rest =>
      have firstIs : first.isExtra = false := begins first rfl
      have inRest : extra ∈ rest := by
        rcases List.mem_cons.mp member with rfl | inRest
        · rw [firstIs] at isExtra
          cases isExtra
        · exact inRest
      have notEmpty : rest ≠ [] := List.ne_nil_of_mem inRest
      have lastIs : (rest.getLast notEmpty).isExtra = false := by
        apply ends
        rw [Option.mem_def, List.getLast?_cons, List.getLast?_eq_some_getLast notEmpty]
        rfl
      have kept : rest.getLast notEmpty ∈ rest.filter fun child => !child.isExtra :=
        List.mem_filter.mpr ⟨List.getLast_mem notEmpty, by simp [lastIs]⟩
      have positive := List.length_pos_of_mem kept
      simp only [List.filter_cons, firstIs, Bool.not_false, if_true, List.length_cons]
      omega

theorem children_ne_nil_of_mem (isInside : inner ∈ node.preorder) (isOther : inner ≠ node) :
    node.children ≠ [] := by
  obtain ⟨label, children⟩ := node
  intro (isEmpty : children = [])
  rw [preorder_mk, isEmpty, List.flatMap_nil, List.mem_singleton] at isInside
  exact isOther (isEmpty ▸ isInside)

variable (tree : PythonTree source root) (layout : LaidOut root)

include layout

theorem LaidOut.joined_of_mem (member : node ∈ root.preorder) (anonymous : node.isNamed = false)
    (isInside : inner ∈ node.preorder) (isOther : inner ≠ node) : node.kind ∈ joinedKinds := by
  obtain ⟨entry, isEntry, shows⟩ :=
    layout.tokens node member anonymous (children_ne_nil_of_mem isInside isOther)
  have isJoined := tokens_shape.1 entry isEntry
  rw [shows] at isJoined
  exact isJoined rfl

include tree

/-- A node that is written by its text and has an extra inside is of one of few kinds: brackets and
other rows of tokens, a token of several words, or a node that can end with something that leaves
no node. -/
theorem kind_of_extra_inside (member : node ∈ root.preorder) (notExtra : node.isExtra = false)
    (byText : node.isNamed = false ∨ node.isShownByText = true)
    (isInside : inner ∈ node.preorder) (isExtra : inner.isExtra = true) :
    node.kind ∈ commentedKinds := by
  have ne_of_solid : ∀ {other : Node}, other.isExtra = false → inner ≠ other := by
    rintro other isSolid rfl
    rw [isSolid] at isExtra
    cases isExtra
  cases named : node.isNamed with
  | false =>
      exact List.mem_append_right _
        (layout.joined_of_mem member named isInside (ne_of_solid notExtra))
  | true =>
      have shown := byText.resolve_left (by simp [named])
      have tokens := tokens_of_isShownByText shown
      by_cases isOpen : node.kind ∈ openKinds
      · exact List.mem_append_left _ (List.mem_append_right _ isOpen)
      · -- The extra is a child: the tokens beside it have nothing inside.
        have isChild : ∃ child ∈ node.children, child.isExtra = true := by
          have below := isInside
          obtain ⟨label, children⟩ := node
          rw [preorder_mk] at below
          have notSelf : inner ≠ .mk label children := ne_of_solid notExtra
          obtain ⟨child, isChild, inChild⟩ :=
            List.mem_flatMap.mp ((List.mem_cons.mp below).resolve_left notSelf)
          refine ⟨child, isChild, ?_⟩
          by_contra solidChild
          have childSolid : child.isExtra = false := by simpa using solidChild
          have isSolid : child ∈ (Node.mk label children).solid :=
            mem_solid_iff.mpr ⟨isChild, childSolid⟩
          obtain ⟨unfielded, anonymous⟩ := tokens child isSolid
          have isJoined := layout.joined_of_mem (mem_preorder_of_mem_children member isChild)
            anonymous inChild (ne_of_solid childSolid)
          exact tree.field_of_joined member named isSolid isJoined unfielded
        obtain ⟨extra, isMember, extraIs⟩ := isChild
        have several := one_lt_length_solid isMember extraIs
          (tree.begins node member (mt (hiddenStartKinds_subset ·) isOpen))
          (layout.ends node member isOpen)
        rcases tree.kind_of_tokens member named tokens several with isGapped | isOpenKind
        · exact List.mem_append_left _ (List.mem_append_left _ isGapped)
        · exact absurd isOpenKind isOpen

end Extras

/-! ## Texts with other comments -/

def isComment (node : Node) : Bool := node.isExtra && node.kind = "comment"

/-- A place inside a comment, after the sign that opens it. -/
def InsideComment (root : Node) (index : Nat) : Prop :=
  ∃ comment ∈ root.preorder, isComment comment = true ∧
    comment.label.start.chars < index ∧ index < comment.label.stop.chars

/-- A text that has other characters inside its comments: each is as long as the one that it
stands for, and none ends the line. -/
structure Recommented (root : Node) (source other : Array Char) : Prop where
  size : other.size = source.size
  replaced : ∀ (index : Nat) (old new : Char),
    source[index]? = some old → other[index]? = some new → old ≠ new →
      InsideComment root index ∧ new ≠ '\n' ∧ new.utf8Size = old.utf8Size

section Definitions

variable {source other : Array Char} {root definition leaf : Node}

/-- Where the two texts differ, there is a comment. -/
theorem Recommented.insideComment (recommented : Recommented root source other) {index : Nat}
    (differs : source[index]? ≠ other[index]?) : InsideComment root index := by
  by_cases inText : index < source.size
  · have inOther : index < other.size := by
      rw [recommented.size]
      exact inText
    rw [Array.getElem?_eq_getElem inText, Array.getElem?_eq_getElem inOther] at differs
    exact (recommented.replaced index _ _ (Array.getElem?_eq_getElem inText)
      (Array.getElem?_eq_getElem inOther) fun equal => differs (by rw [equal])).1
  · rw [Array.getElem?_eq_none (by omega),
      Array.getElem?_eq_none (by rw [recommented.size]; omega)] at differs
    contradiction

variable (tree : PythonTree source root) (layout : LaidOut root)
  (inTree : definition ∈ root.preorder) (defines : definition.kind = "function_definition")
  (member : leaf ∈ definition.writtenByText)

include tree inTree defines member

/-- A definition has a flag, so what is written by its text is below it. -/
theorem solid_of_mem_writtenByText : leaf.isExtra = false := by
  obtain ⟨-, isSolid, byText⟩ := of_mem_writtenByText member
  refine isSolid.resolve_left ?_
  rintro rfl
  have named := tree.isNamed_of_definition inTree defines
  have hasFlags : flagsOf "function_definition" ≠ [] := by decide
  rw [named] at byText
  exact hasFlags (defines ▸ (isShownByText_iff.mp (byText.resolve_left (by decide))).2.2)

include layout

/-- A node of a definition that is written by its text and covers a place inside a comment has the
comment inside. -/
theorem exists_comment_inside {index : Nat} (covered : leaf.label.Covers index)
    (inside : InsideComment root index) :
    ∃ comment ∈ leaf.preorder, isComment comment = true := by
  obtain ⟨comment, isMember, isComment, above, below⟩ := inside
  have isExtra : comment.isExtra = true := (Bool.and_eq_true_iff.mp isComment).1
  have isSolid := solid_of_mem_writtenByText tree inTree defines member
  have leafInTree : leaf ∈ root.preorder :=
    mem_preorder_trans inTree (of_mem_writtenByText member).1
  rcases layout.mem_preorder_of_covers isMember leafInTree ⟨Nat.le_of_lt above, below⟩ covered
    with inLeaf | inComment
  · exact ⟨comment, inLeaf, isComment⟩
  · -- Nothing is inside a comment.
    have isOther : leaf ≠ comment := by
      rintro rfl
      rw [isSolid] at isExtra
      cases isExtra
    exact absurd (layout.leaves comment isMember isExtra)
      (children_ne_nil_of_mem inComment isOther)

end Definitions

/-- A text of which the parser makes the tree of a valid text is valid. -/
theorem parseWith_of_sameTree {syntaxTree : Array Char → Option Node}
    {file text otherText : String} {parsed : ParsedModule}
    (accepted : parseWith syntaxTree file text = .ok parsed)
    (sameTree : syntaxTree otherText.toList.toArray = syntaxTree text.toList.toArray) :
    parsed.source = text.toList.toArray ∧
      parseWith syntaxTree file otherText =
        .ok { parsed with source := otherText.toList.toArray } := by
  simp only [parseWith, sameTree] at accepted ⊢
  cases found : syntaxTree text.toList.toArray with
  | none =>
      rw [found] at accepted
      cases accepted
  | some root =>
      rw [found] at accepted
      simp only [checkTree] at accepted ⊢
      by_cases isDefective : root.label.hasError = true
      · rw [if_pos isDefective] at accepted
        split at accepted <;> cases accepted
      · rw [if_neg isDefective] at accepted ⊢
        cases outdated : firstOutdated root with
        | some form =>
            rw [outdated] at accepted
            cases accepted
        | none =>
            rw [outdated] at accepted
            obtain rfl := Except.ok.inj accepted
            exact ⟨rfl, rfl⟩

/-- A valid text whose comments are rewritten, so that the parser makes the same tree of it, is
valid. Of each definition with a record in both, the written form stays the same if and only if no
node that is written by its text covers a replaced character. If it does not stay the same, then
such a node has a comment inside, and it is a row of tokens, such as an empty pair of brackets, a
token of several words, or a node that can end with something that leaves no node. -/
theorem treeDump_of_recommented
    (syntaxTree : Array Char → Option Node)
    (file text otherText : String)
    (parsed : ParsedModule)
    (accepted : parseWith syntaxTree file text = .ok parsed)
    (tree : PythonTree parsed.source parsed.root)
    (layout : LaidOut parsed.root)
    (recommented : Recommented parsed.root text.toList.toArray otherText.toList.toArray)
    (sameTree : syntaxTree otherText.toList.toArray = syntaxTree text.toList.toArray) :
    let other : ParsedModule := { parsed with source := otherText.toList.toArray }
    parseWith syntaxTree file otherText = .ok other ∧
    ∀ site ∈ definitionSites parsed.root, ∀ record otherRecord,
      siteRecord parsed.file parsed.source site = .ok record →
      siteRecord other.file other.source site = .ok otherRecord →
      (record.treeDump = otherRecord.treeDump ↔
        ∀ leaf ∈ site.node.writtenByText, ∀ index, leaf.label.Covers index →
          parsed.source[index]? = other.source[index]?) ∧
      (record.treeDump ≠ otherRecord.treeDump →
        ∃ leaf ∈ site.node.writtenByText, leaf.kind ∈ commentedKinds ∧
          ∃ comment ∈ leaf.preorder, isComment comment = true) := by
  intro other
  obtain ⟨isSource, otherAccepted⟩ := parseWith_of_sameTree accepted sameTree
  refine ⟨otherAccepted, ?_⟩
  rw [← isSource] at recommented
  intro site member record otherRecord made otherMade
  obtain ⟨inTree, defines⟩ := definition_of_mem_definitionSites member
  have dumped : record.treeDump = dump parsed.source site.node := by
    obtain ⟨name, parameters, docstring, -, -, rfl⟩ := recordOf_eq_ok_iff.mp made
    rfl
  have otherDumped : otherRecord.treeDump = dump other.source site.node := by
    obtain ⟨name, parameters, docstring, -, -, rfl⟩ := recordOf_eq_ok_iff.mp otherMade
    rfl
  have unchanged : record.treeDump = otherRecord.treeDump ↔
      ∀ leaf ∈ site.node.writtenByText, ∀ index, leaf.label.Covers index →
        parsed.source[index]? = other.source[index]? := by
    rw [dumped, otherDumped, dump_eq_dump_iff (tree.hasReadableNames inTree)]
    exact forall₂_congr fun leaf _ => textOf_eq_textOf_iff recommented.size
  refine ⟨unchanged, ?_⟩
  intro differ
  obtain ⟨leaf, isLeaf, index, covered, differs⟩ : ∃ leaf ∈ site.node.writtenByText, ∃ index,
      leaf.label.Covers index ∧ parsed.source[index]? ≠ other.source[index]? := by
    by_contra none
    exact differ (unchanged.mpr fun leaf isLeaf index covered =>
      by_contra fun differs => none ⟨leaf, isLeaf, index, covered, differs⟩)
  obtain ⟨comment, inLeaf, isComment⟩ := exists_comment_inside tree layout inTree defines isLeaf
    covered (recommented.insideComment differs)
  obtain ⟨isInside, -, byText⟩ := of_mem_writtenByText isLeaf
  have isExtra : comment.isExtra = true := (Bool.and_eq_true_iff.mp isComment).1
  exact ⟨leaf, isLeaf, kind_of_extra_inside tree layout (mem_preorder_trans inTree isInside)
    (solid_of_mem_writtenByText tree inTree defines isLeaf) byText inLeaf isExtra,
    comment, inLeaf, isComment⟩

/-- A text with a comment between parentheses that ends with the given letter. -/
def commentedText (letter : Char) : String :=
  String.ofList ("def f( # ".toList ++ letter :: "\n):\n    pass\n".toList)

def commentedDefinition : Node :=
  let source := (commentedText 'a').toList.toArray
  let comment := Node.mk { (nodeOver source "comment" none 7 10 []).label with isExtra := true } []
  nodeOver source "function_definition" none 0 22
    [tokenOver source 0 3, nodeOver source "identifier" (some "name") 4 5 [],
      nodeOver source "parameters" (some "parameters") 5 12
        [tokenOver source 5 6, comment, tokenOver source 11 12],
      tokenOver source 12 13,
      nodeOver source "block" (some "body") 18 22
        [nodeOver source "pass_statement" none 18 22 [tokenOver source 18 22]]]

def commentedRoot : Node :=
  nodeOver (commentedText 'a').toList.toArray "module" none 0 23 [commentedDefinition]

def commentedParameters (letter : Char) : ParsedModule :=
  ⟨"m.py", (commentedText letter).toList.toArray, commentedRoot⟩

/-- Where the definition stands. -/
def commentedSite : Site := ⟨[0], [commentedRoot], commentedDefinition⟩

theorem recommented_commentedText :
    Recommented commentedRoot
      (commentedText 'a').toList.toArray (commentedText 'b').toList.toArray where
  size := by decide
  replaced index old new found otherFound differs := by
    have inText : index < 23 := (Array.getElem?_eq_some_iff.mp found).1
    have only : ∀ place < 23, (commentedText 'a').toList.toArray[place]? ≠
        (commentedText 'b').toList.toArray[place]? → place = 9 := by decide
    obtain rfl := only index inText (by rwa [found, otherFound, Ne, Option.some_inj])
    obtain rfl : 'a' = old := Option.some.inj found
    obtain rfl : 'b' = new := Option.some.inj otherFound
    refine ⟨⟨_, List.mem_of_getElem? (i := 6) rfl, by decide, by decide, by decide⟩, ?_⟩
    decide

/-- Two valid texts of the same tree whose definitions are written differently: the parameters,
which are none, are written with the comment. -/
theorem treeDump_of_commentedParameters :
    PythonTree (commentedParameters 'a').source commentedRoot ∧ LaidOut commentedRoot ∧
    parseWith (fun _ => some commentedRoot) "m.py" (commentedText 'b') =
      .ok (commentedParameters 'b') ∧
    ∃ record otherRecord,
      (commentedParameters 'a').functions = .ok [record] ∧
      (commentedParameters 'b').functions = .ok [otherRecord] ∧
      record.treeDump ≠ otherRecord.treeDump := by
  have tree : PythonTree (commentedParameters 'a').source commentedRoot :=
    .of_checked (by decide +kernel) (by decide) (by decide) (by decide) (by decide)
  have layout : LaidOut commentedRoot :=
    { within := by decide
      ordered := by decide
      leaves := by decide
      ends := by decide
      tokens := by decide }
  obtain ⟨otherAccepted, each⟩ := treeDump_of_recommented (fun _ => some commentedRoot) "m.py"
    (commentedText 'a') (commentedText 'b') (commentedParameters 'a') rfl tree layout
    recommented_commentedText rfl
  have exists_record : ∀ letter ∈ ['a', 'b'], ∃ record,
      siteRecord "m.py" (commentedParameters letter).source commentedSite = .ok record := by
    intro letter member
    have signed : signatureOf "m.py" (commentedParameters letter).source commentedSite.node =
        .ok ("f", []) := by
      rcases List.mem_pair.mp member with rfl | rfl <;> decide
    exact ⟨_, recordOf_eq_ok_iff.mpr ⟨"f", [], none, signed, rfl, rfl⟩⟩
  obtain ⟨record, made⟩ := exists_record 'a' (by simp)
  obtain ⟨otherRecord, otherMade⟩ := exists_record 'b' (by simp)
  have unchanged := (each commentedSite List.mem_cons_self record otherRecord made otherMade).1
  refine ⟨tree, layout, otherAccepted, record, otherRecord,
    functions_eq_singleton tree.standsNamed rfl made,
    functions_eq_singleton tree.standsNamed rfl otherMade, fun equal => ?_⟩
  -- The parameters are the second node that is written by its text.
  have same := unchanged.mp equal _ (List.mem_of_getElem? (i := 1) rfl) 9 ⟨by decide, by decide⟩
  exact absurd same (by decide)

end FunctionAtlas.Analysis
