import FunctionAtlas.Proofs.Analysis.Extraction
import FunctionAtlas.Proofs.Analysis.Verdict
import FunctionAtlas.Proofs.Parse.VisibleNames
import FunctionAtlas.Proofs.Syntax.ControlFree
import FunctionAtlas.Proofs.Text.AsciiBytes

/-!
Contract: the dump of a syntax tree has no control characters, whatever its text is.

The names in a tree come from the grammar, where none has a control character. All that a dump
takes from the text is quoted.

Owns: the syntax trees of the language, as far as their names go.
-/

namespace FunctionAtlas.Analysis

open FunctionAtlas.FirstFailure
open FunctionAtlas.Grammar
open FunctionAtlas.Parse
open FunctionAtlas.Syntax
open FunctionAtlas.Syntax.Dump
open FunctionAtlas.Syntax.Node
open FunctionAtlas.Text

/-! ## Syntax trees -/

/-- A node in the syntax tree of a parse tree. The parse tree may be one that no text has. -/
def IsSyntaxNode (node : Node) : Prop :=
  ∃ (tree : Subtree) (start : Extent), ∃ root ∈ visibleNodes pythonTable none none start tree,
    node ∈ root.preorder

theorem isSyntaxNode_of_syntaxTree {source : Array Char} {root : Node}
    (made : syntaxTree pythonTable source = some root) :
    ∀ node ∈ root.preorder, IsSyntaxNode node := by
  intro node member
  obtain ⟨tree, -, isFirst⟩ := Option.bind_eq_some_iff.mp made
  exact ⟨tree, tree.summary.padding, root, List.mem_of_head? isFirst, member⟩

private theorem ascii_grammarTexts :
    ∀ text ∈ Python.grammar.texts, hasAsciiOf (fun character => !isControl character) text := by
  decide +kernel

theorem controlFree_grammarTexts : ∀ text ∈ Python.grammar.texts, ControlFree text := by
  intro text member character isCharacter
  simpa using accepts_of_hasAsciiOf (ascii_grammarTexts text member) character isCharacter

theorem controlFree_pythonTable : pythonTable.NamesHold ControlFree := by
  apply Automaton.namesHold_ofGrammar _ (by decide) (by decide)
  apply namesHold_prepare controlFree_grammarTexts (by decide)
  intro name named
  rw [controlFree_append]
  exact ⟨named, by decide⟩

theorem hasPlainNames_of_isSyntaxNode {node : Node} (isSyntaxNode : IsSyntaxNode node) :
    HasPlainNames node := by
  obtain ⟨tree, start, root, isShown, member⟩ := isSyntaxNode
  have names := showsNames controlFree_pythonTable (by decide) (by decide) tree none none start
    (by simp) (by simp) root isShown
  have plain : HasPlainNames root := ⟨fun node member _ => names.kinds node member, names.fields⟩
  exact plain.of_mem member

/-! ## Dumps -/

/-- A dump is without control characters, also if it is written for another text. -/
theorem controlFree_dump_of_isSyntaxNode (source : Array Char) {node : Node}
    (isSyntaxNode : IsSyntaxNode node) : ControlFree (dump source node) :=
  controlFree_dump source (hasPlainNames_of_isSyntaxNode isSyntaxNode)

/-- The written form of a syntax tree, for any text. -/
def IsTreeDump (written : String) : Prop :=
  ∃ (source : Array Char) (node : Node), IsSyntaxNode node ∧ written = dump source node

/-- The dumps in the records of a module are written forms of syntax trees. -/
theorem isTreeDump_of_parseModule {file text : String} {parsed : ParsedModule}
    (accepted : parseModule file text = .ok parsed) {records : List FunctionRecord}
    (extracted : parsed.functions = .ok records) :
    ∀ record ∈ records, IsTreeDump record.treeDump := by
  intro record member
  obtain ⟨root, made, -, -, rfl⟩ := parseWith_eq_ok_iff.mp accepted
  rw [functions_eq_mapM_reached, mapM_eq_ok_iff] at extracted
  obtain ⟨site, isReached, isRecord⟩ := exists_of_mem_of_forall₂ extracted member
  have inside : site.node ∈ root.preorder := List.mem_map_of_mem (List.mem_filter.mp isReached).1
  exact ⟨text.toList.toArray, site.node, isSyntaxNode_of_syntaxTree made site.node inside,
    treeDump_of_siteRecord isRecord⟩

end FunctionAtlas.Analysis
