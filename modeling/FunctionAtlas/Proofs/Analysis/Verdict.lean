import FunctionAtlas.Analysis.Module
import FunctionAtlas.Proofs.Syntax.Preorder
import Mathlib.Tactic.SplitIfs

/-!
Contract: which texts are valid modules, and which problem an invalid one has.

The search for a defect looks into marked nodes only, and the search for an outdated form into
named nodes only. Where marks and tokens are as a parser makes them, both find what a plain search
through all nodes in preorder finds.

Owns: what makes a tree valid, the plain searches, and their agreement with the short ones.

Does not own: the parser. What is used of it is said of its trees, in `MarksDefects` and
`TokensHoldNone`.
-/

namespace FunctionAtlas.Analysis

open FunctionAtlas.Syntax
open FunctionAtlas.Syntax.Node

/-! ## What is used of the parser -/

def isDefective (node : Node) : Bool := node.label.defect.isSome

/-- The marks of a tree are right: the root is marked if and only if a node of the tree has a
defect, and every node above a defect is marked. A node with a defect of its own need not be. -/
structure MarksDefects (root : Node) : Prop where
  atRoot : root.label.hasError = true ↔ ∃ node ∈ root.preorder, isDefective node
  above : ∀ node ∈ root.preorder, isDefective node = false →
    (∃ inner ∈ node.preorder, isDefective inner) → node.label.hasError = true

/-- A tree is marked rightly if a node is marked exactly when it or a node inside has a defect. -/
theorem marksDefects_of_exact {root : Node}
    (exact : ∀ node ∈ root.preorder,
      node.label.hasError = true ↔ ∃ inner ∈ node.preorder, isDefective inner) :
    MarksDefects root where
  atRoot := exact root root.self_mem_preorder
  above node member _ found := (exact node member).mpr found

/-- The kinds of nodes that can be outdated forms. -/
def outdatedKinds : List String :=
  ["print_statement", "exec_statement", "comparison_operator", "except_clause"]

/-- No node that can be an outdated form is a token or inside one. -/
def TokensHoldNone (root : Node) : Prop := ∀ kind ∈ outdatedKinds, KindStandsNamed kind root

/-! ## The plain search for a defect -/

private theorem findSome?_congr {Result : Type} {nodes : List Node}
    {first second : Node → Option Result}
    (agree : ∀ node ∈ nodes, first node = second node) :
    nodes.findSome? first = nodes.findSome? second := by
  induction nodes with
  | nil => rfl
  | cons node rest inductionHypothesis =>
      rw [List.findSome?_cons, List.findSome?_cons, agree node List.mem_cons_self,
        inductionHypothesis fun other member => agree other (List.mem_cons_of_mem _ member)]

theorem firstDefectOf_eq_findSome? (nodes : List Node) :
    firstDefectOf nodes = nodes.findSome? firstDefect := by
  induction nodes with
  | nil => simp [firstDefectOf]
  | cons node rest inductionHypothesis =>
      rw [firstDefectOf, List.findSome?_cons, inductionHypothesis]
      cases firstDefect node <;> rfl

/-- The search that looks into marked nodes only finds the first defect of all. -/
theorem firstDefect_eq_find? (root : Node)
    (marked : ∀ node ∈ root.preorder, isDefective node = false →
      (∃ inner ∈ node.preorder, isDefective inner) → node.label.hasError = true) :
    firstDefect root = (root.preorder.find? isDefective).map Node.label := by
  induction root using Node.induction with
  | step label children inductionHypothesis =>
      rw [firstDefect, find?_preorder_mk]
      by_cases defective : label.defect.isSome
      · have here : isDefective (.mk label children) = true := defective
        rw [if_pos defective, if_pos here]
        rfl
      · have notHere : ¬ isDefective (.mk label children) = true := defective
        rw [if_neg defective, if_neg notHere, List.map_findSome?]
        by_cases isMarked : label.hasError
        · rw [if_pos isMarked, firstDefectOf_eq_findSome?]
          apply findSome?_congr
          intro child member
          exact inductionHypothesis child member fun node isInside =>
            marked node (mem_preorder_of_child member isInside)
        · -- An unmarked node has no defect inside, so the plain search finds none either.
          rw [if_neg isMarked, eq_comm, List.findSome?_eq_none_iff]
          intro child member
          rw [Function.comp_apply, Option.map_eq_none_iff, List.find?_eq_none]
          intro inner isInside innerDefective
          exact isMarked (marked (.mk label children) (self_mem_preorder _) (by simpa using notHere)
            ⟨inner, mem_preorder_of_child member isInside, innerDefective⟩)

/-! ## The plain search for an outdated form -/

/-- Whether a node is the token with the given text. -/
def isToken (text : String) (node : Node) : Bool := !node.isNamed && node.kind = text

/-- A node is an outdated form if it is a `print` or `exec` statement, a comparison with `<>`, or
an `except` clause with a comma. -/
def isOutdated (node : Node) : Bool :=
  node.kind = "print_statement" || node.kind = "exec_statement" ||
  (node.kind = "comparison_operator" && node.children.any (isToken "<>")) ||
  (node.kind = "except_clause" && node.children.any (isToken ","))

/-- The node that an outdated form is reported at: its first `<>` or comma, or else itself. -/
def reportedNode (node : Node) : Node :=
  if node.kind = "comparison_operator" then (node.children.find? (isToken "<>")).getD node
  else if node.kind = "except_clause" then (node.children.find? (isToken ",")).getD node
  else node

/-- What is wrong with an outdated form. -/
def outdatedFault (node : Node) : SyntaxFault :=
  if node.kind = "print_statement" then .printStatement
  else if node.kind = "exec_statement" then .execStatement
  else if node.kind = "comparison_operator" then .diamondOperator
  else .exceptComma

theorem outdatedFault_ne_unlocated (node : Node) : outdatedFault node ≠ .unlocated := by
  unfold outdatedFault
  split_ifs <;> simp

theorem isOutdated_kind {node : Node} (outdated : isOutdated node = true) :
    node.kind ∈ outdatedKinds := by
  simp only [isOutdated, Bool.or_eq_true, Bool.and_eq_true, decide_eq_true_eq] at outdated
  rcases outdated with ((isPrint | isExec) | ⟨isComparison, _⟩) | ⟨isClause, _⟩ <;>
    simp [outdatedKinds, *]

theorem outdatedToken_eq (children : List Node) (token : String) (fault : SyntaxFault)
    (node : Node) :
    outdatedToken children token fault =
      if children.any (isToken token) then
        some (((children.find? (isToken token)).getD node).label, fault)
      else none := by
  have sought : (fun child : Node => !child.isNamed && decide (child.kind = token)) =
      isToken token := rfl
  rw [outdatedToken, sought]
  cases found : children.find? (isToken token) with
  | none =>
      have absent := List.find?_eq_none.mp found
      rw [if_neg (by simpa using absent)]
      rfl
  | some child =>
      have present : children.any (isToken token) = true :=
        List.any_eq_true.mpr ⟨child, List.mem_of_find?_eq_some found, List.find?_some found⟩
      rw [if_pos present]
      rfl

theorem outdatedHere_eq (label : Label) (children : List Node) :
    outdatedHere label children =
      if isOutdated (.mk label children) then
        some ((reportedNode (.mk label children)).label, outdatedFault (.mk label children))
      else none := by
  have ofKind : (Node.mk label children).kind = label.kind := rfl
  have ofChildren : (Node.mk label children).children = children := rfl
  unfold outdatedHere isOutdated reportedNode outdatedFault
  rw [ofKind, ofChildren]
  by_cases isPrint : label.kind = "print_statement"
  · simp [isPrint, Node.label]
  by_cases isExec : label.kind = "exec_statement"
  · simp [isExec, Node.label]
  by_cases isComparison : label.kind = "comparison_operator"
  · simp [isComparison, outdatedToken_eq _ _ _ (.mk label children)]
  by_cases isClause : label.kind = "except_clause"
  · simp [isClause, outdatedToken_eq _ _ _ (.mk label children)]
  · simp [isPrint, isExec, isComparison, isClause]

theorem firstOutdatedOf_eq_findSome? (nodes : List Node) :
    firstOutdatedOf nodes =
      nodes.findSome? fun node => if node.isNamed then firstOutdated node else none := by
  induction nodes with
  | nil => simp [firstOutdatedOf]
  | cons node rest inductionHypothesis =>
      rw [firstOutdatedOf, List.findSome?_cons, inductionHypothesis]
      by_cases isNamed : node.isNamed
      · rw [if_pos isNamed, if_pos isNamed]
        cases firstOutdated node <;> rfl
      · rw [if_neg isNamed, if_neg isNamed]

/-- The search that looks into named nodes only finds the first outdated form of all. -/
theorem firstOutdated_eq_find? (root : Node) (tokens : TokensHoldNone root) :
    firstOutdated root = (root.preorder.find? isOutdated).map fun node =>
      ((reportedNode node).label, outdatedFault node) := by
  induction root using Node.induction with
  | step label children inductionHypothesis =>
      rw [firstOutdated, outdatedHere_eq, find?_preorder_mk, firstOutdatedOf_eq_findSome?]
      by_cases outdated : isOutdated (.mk label children)
      · rw [if_pos outdated, if_pos outdated]
        rfl
      · rw [if_neg outdated, if_neg outdated, Option.none_or, List.map_findSome?]
        apply findSome?_congr
        intro child member
        have childTokens : TokensHoldNone child := fun kind isKind =>
          (tokens kind isKind).child member
        by_cases isNamed : child.isNamed
        · rw [if_pos isNamed]
          exact inductionHypothesis child member childTokens
        · -- A token holds no outdated form, so nothing is missed by leaving it out.
          rw [if_neg isNamed, eq_comm, Function.comp_apply, Option.map_eq_none_iff,
            List.find?_eq_none]
          intro inner isInside innerOutdated
          exact (childTokens _ (isOutdated_kind innerOutdated)).ne_of_anonymous
            (by simpa using isNamed) inner isInside rfl

/-! ## The verdict -/

/-- A tree is judged by its first defect, else by its first outdated form. -/
theorem checkTree_eq_match (file : String) (source : Array Char) (root : Node)
    (marked : MarksDefects root) (tokens : TokensHoldNone root) :
    checkTree file source root =
      match root.preorder.find? isDefective with
      | some node => .error (.invalid file (placeOf node.label) (defectFault source node.label))
      | none =>
          match root.preorder.find? isOutdated with
          | some node =>
              .error (.invalid file (placeOf (reportedNode node).label) (outdatedFault node))
          | none => .ok ⟨file, source, root⟩ := by
  rw [checkTree, firstDefect_eq_find? root marked.above, firstOutdated_eq_find? root tokens]
  cases found : root.preorder.find? isDefective with
  | none =>
      have unmarked : ¬ root.label.hasError = true := by
        rw [marked.atRoot]
        rintro ⟨node, member, defective⟩
        exact List.find?_eq_none.mp found node member defective
      rw [if_neg unmarked]
      cases root.preorder.find? isOutdated <;> rfl
  | some node =>
      have isMarked : root.label.hasError = true :=
        marked.atRoot.mpr ⟨node, List.mem_of_find?_eq_some found, List.find?_some found⟩
      rw [if_pos isMarked]
      rfl

/-- A tree is accepted, as it is, if none of its nodes has a defect or is an outdated form. -/
theorem checkTree_eq_ok_iff (file : String) (source : Array Char) (root : Node)
    (marked : MarksDefects root) (tokens : TokensHoldNone root) (parsed : ParsedModule) :
    checkTree file source root = .ok parsed ↔
      parsed = ⟨file, source, root⟩ ∧
        ∀ node ∈ root.preorder, isDefective node = false ∧ isOutdated node = false := by
  have valid : (∀ node ∈ root.preorder, isDefective node = false ∧ isOutdated node = false) ↔
      root.preorder.find? isDefective = none ∧ root.preorder.find? isOutdated = none := by
    simp only [List.find?_eq_none, Bool.not_eq_true]
    exact ⟨fun both => ⟨fun node member => (both node member).1,
      fun node member => (both node member).2⟩,
      fun ⟨sound, modern⟩ node member => ⟨sound node member, modern node member⟩⟩
  rw [checkTree_eq_match file source root marked tokens, valid]
  cases root.preorder.find? isDefective with
  | some node => simp
  | none => cases root.preorder.find? isOutdated <;> simp [eq_comm]

/-- A tree is refused for its first defect or, without one, for its first outdated form. -/
theorem checkTree_eq_error_iff (file : String) (source : Array Char) (root : Node)
    (marked : MarksDefects root) (tokens : TokensHoldNone root) (problem : Problem) :
    checkTree file source root = .error problem ↔
      (∃ node, root.preorder.find? isDefective = some node ∧
        problem = .invalid file (placeOf node.label) (defectFault source node.label)) ∨
      (root.preorder.find? isDefective = none ∧
        ∃ node, root.preorder.find? isOutdated = some node ∧
          problem = .invalid file (placeOf (reportedNode node).label) (outdatedFault node)) := by
  rw [checkTree_eq_match file source root marked tokens]
  cases root.preorder.find? isDefective with
  | some node => simp [eq_comm]
  | none => cases root.preorder.find? isOutdated <;> simp [eq_comm]

/-- A tree that is marked although none of its nodes has a defect gets a problem without a place
of its own. -/
theorem checkTree_of_no_defect (file : String) (source : Array Char) (root : Node)
    (isMarked : root.label.hasError = true)
    (sound : ∀ node ∈ root.preorder, isDefective node = false) :
    checkTree file source root = .error (.invalid file ⟨1, 1⟩ .unlocated) := by
  have noDefect : firstDefect root = none := by
    rw [firstDefect_eq_find? root, List.find?_eq_none.mpr (by simpa using sound)]
    · rfl
    · rintro node member - ⟨inner, isInside, defective⟩
      rw [sound inner (mem_preorder_trans member isInside)] at defective
      contradiction
  rw [checkTree, if_pos isMarked, noDefect]

/-- A module that is accepted has the tree that the parser makes of the text. -/
theorem parseWith_eq_ok_iff {syntaxTree : Array Char → Option Node} {file text : String}
    {parsed : ParsedModule} :
    parseWith syntaxTree file text = .ok parsed ↔
      ∃ root, syntaxTree text.toList.toArray = some root ∧ root.label.hasError = false ∧
        firstOutdated root = none ∧ parsed = ⟨file, text.toList.toArray, root⟩ := by
  simp only [parseWith]
  cases syntaxTree text.toList.toArray with
  | none => simp
  | some root =>
      simp only [checkTree, Option.some.injEq, exists_eq_left']
      cases marked : root.label.hasError with
      | true => cases firstDefect root <;> simp
      | false => cases outdated : firstOutdated root <;> simp [@eq_comm _ _ parsed]

/-- A text is a valid module if and only if no node of its tree has a defect or is an outdated
form. An invalid one has a problem at the first defect in preorder or, if there is no defect, at
the first outdated form; it is never the problem without a place of its own unless a defect has
it. -/
theorem parseWith_verdict
    (syntaxTree : Array Char → Option Node)
    (file text : String)
    (root : Node)
    (parses : syntaxTree text.toList.toArray = some root)
    (marked : MarksDefects root)
    (tokens : TokensHoldNone root) :
    let verdict := parseWith syntaxTree file text
    ((∃ parsed, verdict = .ok parsed) ↔
      ∀ node ∈ root.preorder, isDefective node = false ∧ isOutdated node = false) ∧
    (∀ parsed, verdict = .ok parsed → parsed = ⟨file, text.toList.toArray, root⟩) ∧
    (∀ problem, verdict = .error problem →
      ∃ place fault, problem = .invalid file place fault ∧
        (∀ node, root.preorder.find? isDefective = some node → place = placeOf node.label) ∧
        (root.preorder.find? isDefective = none →
          ∃ node, root.preorder.find? isOutdated = some node ∧
            place = placeOf (reportedNode node).label ∧ fault = outdatedFault node)) ∧
    ((∀ node ∈ root.preorder, isDefective node = false) →
      verdict ≠ .error (.invalid file ⟨1, 1⟩ .unlocated)) := by
  intro verdict
  have judged : verdict = checkTree file text.toList.toArray root := by
    simp only [verdict, parseWith, parses]
  have accepted := checkTree_eq_ok_iff file text.toList.toArray root marked tokens
  have refused := checkTree_eq_error_iff file text.toList.toArray root marked tokens
  rw [judged]
  refine ⟨?_, ?_, ?_, ?_⟩
  · simp only [accepted, exists_eq_left]
  · intro parsed isAccepted
    exact ((accepted parsed).mp isAccepted).1
  · intro problem isRefused
    rcases (refused problem).mp isRefused with ⟨node, found, rfl⟩ | ⟨none, node, found, rfl⟩
    · refine ⟨_, _, rfl, ?_, ?_⟩
      · intro other isFirst
        rw [Option.some.inj (found.symm.trans isFirst)]
      · intro absent
        rw [found] at absent
        contradiction
    · refine ⟨_, _, rfl, ?_, fun _ => ⟨node, found, rfl, rfl⟩⟩
      intro other isFirst
      rw [none] at isFirst
      contradiction
  · intro sound isUnlocated
    rcases (refused _).mp isUnlocated with ⟨node, found, -⟩ | ⟨-, node, -, located⟩
    · have defective : isDefective node = true := List.find?_some found
      rw [sound node (List.mem_of_find?_eq_some found)] at defective
      contradiction
    · exact outdatedFault_ne_unlocated node (Problem.invalid.inj located).2.2.symm

/-- The tree of the text `a <> b`. -/
def diamondTree (source : Array Char) : Node :=
  let operator := .mk { (tokenOver source 2 4).label with field := some "operators" } []
  let comparison := nodeOver source "comparison_operator" none 0 6
    [nodeOver source "identifier" none 0 1 [], operator, nodeOver source "identifier" none 5 6 []]
  nodeOver source "module" none 0 7 [nodeOver source "expression_statement" none 0 6 [comparison]]

/-- The text `a <> b` is refused at its operator. -/
theorem parseWith_diamond :
    let source := "a <> b\n".toList.toArray
    MarksDefects (diamondTree source) ∧ TokensHoldNone (diamondTree source) ∧
      ∃ fault, parseWith (fun read => some (diamondTree read)) "m.py" "a <> b\n" =
        .error (.invalid "m.py" ⟨1, 3⟩ fault) := by
  intro source
  have marked : MarksDefects (diamondTree source) := marksDefects_of_exact (by decide)
  have tokens : TokensHoldNone (diamondTree source) := fun kind isKind =>
    kindStandsNamed_of_tokens (by revert kind; decide) (by decide)
  refine ⟨marked, tokens, ?_⟩
  obtain ⟨valid, -, refused, -⟩ := parseWith_verdict (fun read => some (diamondTree read)) "m.py"
    "a <> b\n" (diamondTree source) rfl marked tokens
  cases verdict : parseWith (fun read => some (diamondTree read)) "m.py" "a <> b\n" with
  | ok parsed =>
      have holdsForm : ¬ ∀ node ∈ (diamondTree source).preorder,
          isDefective node = false ∧ isOutdated node = false := by
        decide
      exact absurd (valid.mp ⟨parsed, verdict⟩) holdsForm
  | error problem =>
      obtain ⟨place, fault, rfl, -, reported⟩ := refused problem verdict
      obtain ⟨node, found, rfl, -⟩ := reported (by decide)
      have atOperator : ((diamondTree source).preorder.find? isOutdated).map
          (fun node => placeOf (reportedNode node).label) = some ⟨1, 3⟩ := by
        decide
      rw [found, Option.map_some, Option.some.injEq] at atOperator
      exact ⟨fault, by rw [atOperator]⟩

end FunctionAtlas.Analysis
