import FunctionAtlas.Proofs.Analysis.ControlFreeDumps
import FunctionAtlas.Proofs.Report.SummaryReading

/-!
Contract: the tree view can be read back.

The view is a list of lines, since the dump of a tree is a line of its own. How a line begins tells
what it is: the header of a file, the name of a function, or the dump of its tree. So a reader that
goes through the lines from the last to the first finds every file with the names and the dumps of
its functions.

Owns: the lines of the tree view, what it shows, and the reader.
-/

namespace FunctionAtlas.Report

open FunctionAtlas.Analysis
open FunctionAtlas.Syntax
open FunctionAtlas.Syntax.Dump
open FunctionAtlas.Text

/-! ## What is shown -/

/-- What the tree view shows of a function. -/
structure ShownTree where
  name : String
  treeDump : String
deriving DecidableEq, Repr

structure FileTrees where
  file : String
  trees : List ShownTree
deriving DecidableEq, Repr

def shownTree (record : FunctionRecord) : ShownTree :=
  { name := record.name, treeDump := record.treeDump }

def fileTrees (report : FileReport) : FileTrees :=
  { file := report.file, trees := report.functions.map shownTree }

/-- What the tree view shows: the files with the trees of their functions. -/
def shownTrees (summary : Summary) : List FileTrees := summary.files.map fileTrees

/-! ## Reading -/

/-- What has been read below a line: the last dump, the functions without a file, and the files. -/
structure TreesRead where
  treeDump : String
  trees : List ShownTree
  files : List FileTrees

/-- Reads a line above those that have been read. -/
def readTreeLine (line : Line) (below : TreesRead) : TreesRead :=
  match line.dropPrefix? "AST: ".toList with
  | some written => { below with treeDump := String.ofList written }
  | none =>
      match line.dropPrefix? "Function: ".toList with
      | some name => { below with trees := ⟨String.ofList name, below.treeDump⟩ :: below.trees }
      | none =>
          match line.dropPrefix? "File: ".toList with
          | some file =>
              { below with
                trees := []
                files := ⟨String.ofList file, below.trees⟩ :: below.files }
          | none => below

/-- Reads what a tree view shows. -/
def readTrees (text : String) : List FileTrees :=
  ((linesOf text).foldr readTreeLine ⟨"", [], []⟩).files

/-! ## Lines of the view -/

/-- The lines of the entry of a function. -/
def treeLines (record : FunctionRecord) : List Line :=
  [[], "Function: ".toList ++ record.name.toList, "AST: ".toList ++ record.treeDump.toList]

/-- The lines of a file with its functions. -/
def fileTreeLines (report : FileReport) : List Line :=
  [] :: fileLine report :: report.functions.flatMap treeLines

theorem toList_treeEntry (record : FunctionRecord) :
    (treeEntry record).toList = unlines (treeLines record) := by
  simp only [treeEntry, treeLines, unlines, String.toList_append, List.flatMap_cons,
    List.flatMap_nil, List.append_assoc, List.append_nil]
  rfl

theorem toList_treesView (summary : Summary) :
    (treesView summary).toList = unlines (summary.files.flatMap fileTreeLines) := by
  rw [treesView, reportsText, String.toList_join, List.flatMap_map, unlines, List.flatMap_assoc]
  refine List.flatMap_congr fun report _ => ?_
  have entries : (report.functions.map treeEntry).flatMap String.toList =
      (report.functions.flatMap treeLines).flatMap (· ++ ['\n']) := by
    rw [List.flatMap_map, List.flatMap_assoc]
    exact List.flatMap_congr fun record _ => toList_treeEntry record
  rw [reportText, fileHeader, fileTreeLines, List.flatMap_cons, List.flatMap_cons, fileLine_eq]
  simp only [String.toList_append, String.toList_join, entries, List.append_assoc]
  rfl

/-- A summary with the dumps of syntax trees, and with names of functions and files of one line
each. -/
structure ShowsTrees (summary : Summary) : Prop where
  file : ∀ report ∈ summary.files, '\n' ∉ report.file.toList
  name : ∀ report ∈ summary.files, ∀ record ∈ report.functions, '\n' ∉ record.name.toList
  treeDump : ∀ report ∈ summary.files, ∀ record ∈ report.functions, IsTreeDump record.treeDump

/-! ## Reading back -/

theorem foldr_readTreeLine_treeLines (record : FunctionRecord) (below : TreesRead) :
    (treeLines record).foldr readTreeLine below =
      { below with treeDump := record.treeDump, trees := shownTree record :: below.trees } := by
  have isDump : ("AST: ".toList ++ record.treeDump.toList).dropPrefix? "AST: ".toList =
      some record.treeDump.toList := List.dropPrefix?_append_of_beq _ (beq_self_eq_true _)
  have isNoDump : ("Function: ".toList ++ record.name.toList).dropPrefix? "AST: ".toList =
      none := rfl
  have isName : ("Function: ".toList ++ record.name.toList).dropPrefix? "Function: ".toList =
      some record.name.toList := List.dropPrefix?_append_of_beq _ (beq_self_eq_true _)
  have isBlank : ∀ below, readTreeLine [] below = below := fun _ => rfl
  simp only [treeLines, List.foldr_cons, List.foldr_nil, isBlank]
  simp only [readTreeLine, isDump, isNoDump, isName, String.ofList_toList]
  rfl

/-- The lines of functions are read as these functions, above those that have been read. -/
theorem trees_foldr_readTreeLine (records : List FunctionRecord) (below : TreesRead) :
    let read := (records.flatMap treeLines).foldr readTreeLine below
    read.trees = records.map shownTree ++ below.trees ∧ read.files = below.files := by
  induction records with
  | nil => exact ⟨rfl, rfl⟩
  | cons record rest inductionHypothesis =>
      obtain ⟨trees, files⟩ := inductionHypothesis
      dsimp only at trees files ⊢
      rw [List.flatMap_cons, List.foldr_append, foldr_readTreeLine_treeLines]
      exact ⟨congrArg (shownTree record :: ·) trees, files⟩

/-- The lines of files are read as these files. -/
theorem files_foldr_readTreeLine (files : List FileReport) :
    let read := (files.flatMap fileTreeLines).foldr readTreeLine ⟨"", [], []⟩
    read.trees = [] ∧ read.files = files.map fileTrees := by
  induction files with
  | nil => exact ⟨rfl, rfl⟩
  | cons report rest inductionHypothesis =>
      obtain ⟨noTrees, others⟩ := inductionHypothesis
      dsimp only at noTrees others ⊢
      have isHeader : ∀ below : TreesRead, readTreeLine (fileLine report) below =
          { below with
            trees := []
            files := ⟨report.file, below.trees⟩ :: below.files } := by
        intro below
        have isNoDump : ("File: ".toList ++ report.file.toList).dropPrefix? "AST: ".toList =
            none := rfl
        have isNoName : ("File: ".toList ++ report.file.toList).dropPrefix? "Function: ".toList =
            none := rfl
        have isFile : ("File: ".toList ++ report.file.toList).dropPrefix? "File: ".toList =
            some report.file.toList := List.dropPrefix?_append_of_beq _ (beq_self_eq_true _)
        simp only [readTreeLine, fileLine_eq, isNoDump, isNoName, isFile, String.ofList_toList]
      have isBlank : ∀ below, readTreeLine [] below = below := fun _ => rfl
      obtain ⟨trees, files⟩ := trees_foldr_readTreeLine report.functions
        ((rest.flatMap fileTreeLines).foldr readTreeLine ⟨"", [], []⟩)
      rw [noTrees, List.append_nil] at trees
      rw [others] at files
      rw [List.flatMap_cons, fileTreeLines, List.cons_append, List.cons_append, List.foldr_cons,
        List.foldr_cons, List.foldr_append, isBlank, isHeader, trees, files]
      exact ⟨rfl, rfl⟩

/-- No line of the view is cut by a line feed. -/
theorem linesOf_treesView {summary : Summary} (shows : ShowsTrees summary) :
    linesOf (treesView summary) = summary.files.flatMap fileTreeLines := by
  have undivided : ∀ line ∈ summary.files.flatMap fileTreeLines, '\n' ∉ line := by
    intro line member
    obtain ⟨report, isReport, inFile⟩ := List.mem_flatMap.mp member
    rcases List.mem_cons.mp inFile with rfl | inFile
    · exact List.not_mem_nil
    · rcases List.mem_cons.mp inFile with rfl | inFunctions
      · rw [fileLine_eq, List.mem_append, not_or]
        exact ⟨by decide, shows.file report isReport⟩
      · obtain ⟨record, isRecord, inEntry⟩ := List.mem_flatMap.mp inFunctions
        obtain ⟨source, node, isSyntaxNode, written⟩ := shows.treeDump report isReport record isRecord
        have ofDump := (controlFree_dump_of_isSyntaxNode source isSyntaxNode).lineFeed_not_mem
        simp only [treeLines, List.mem_cons, List.not_mem_nil, or_false] at inEntry
        rcases inEntry with rfl | rfl | rfl
        · exact List.not_mem_nil
        · rw [List.mem_append, not_or]
          exact ⟨by decide, shows.name report isReport record isRecord⟩
        · rw [List.mem_append, not_or, written]
          exact ⟨by decide, ofDump⟩
  rw [linesOf, toList_treesView, splitOn_unlines undivided, List.dropLast_concat]

theorem readTrees_treesView {summary : Summary} (shows : ShowsTrees summary) :
    readTrees (treesView summary) = shownTrees summary := by
  rw [readTrees, linesOf_treesView shows]
  exact (files_foldr_readTreeLine summary.files).2

/-- The dump of a syntax tree has no line feed, no return and no other control character, whatever
the text of its leaves is. So a tree view can be read back: it gives the files in their order, with
the names and the dumps of their functions in theirs, and no two summaries that show different trees
have the same view. -/
theorem treesView_determines_trees :
    (∀ (source : Array Char) (node : Node), IsSyntaxNode node → ControlFree (dump source node)) ∧
    ∀ summary : Summary, ShowsTrees summary →
      readTrees (treesView summary) = shownTrees summary ∧
      ∀ other : Summary, ShowsTrees other → treesView other = treesView summary →
        shownTrees other = shownTrees summary := by
  refine ⟨fun source node => controlFree_dump_of_isSyntaxNode source, ?_⟩
  intro summary shows
  have isRead := readTrees_treesView shows
  refine ⟨isRead, ?_⟩
  intro other otherShows sameView
  rw [← readTrees_treesView otherShows, sameView, isRead]

/-- A text that could not be parsed, and that looks like the header of another file. -/
def forgedText : String := "a\n\nFile: b\n"

def forgedTree : Node :=
  .mk ⟨"ERROR", true, false, none, some .unparsed, false, .zero, ⟨11, 11, 3, 0⟩⟩ []

theorem isSyntaxNode_forgedTree : IsSyntaxNode forgedTree := by
  let tree := Parse.Subtree.leaf pythonTable Automaton.Table.errorSymbol .zero ⟨11, 11, 3, 0⟩ 0
    false none false
  have isShown : forgedTree ∈ Parse.visibleNodes pythonTable none none .zero tree :=
    List.mem_singleton.mpr rfl
  exact ⟨tree, .zero, forgedTree, isShown, forgedTree.self_mem_preorder⟩

def forgedDump : String := dump forgedText.toList.toArray forgedTree

/-- Two files, one of them with functions whose trees hold the forged text. -/
def forgedTrees : Summary :=
  let record := { forgedRecord with treeDump := forgedDump }
  ⟨[⟨"a.py", [record, record]⟩, ⟨"c.py", []⟩], [], 2⟩

theorem treesView_determines_forgedTrees :
    forgedDump = "ERROR(\"a\\n\\nFile: b\\n\", " ++
      "lineno=1, col_offset=0, end_lineno=4, end_col_offset=0)" ∧
    ControlFree forgedDump ∧
    readTrees (treesView forgedTrees) =
      [⟨"a.py", [⟨"f", forgedDump⟩, ⟨"f", forgedDump⟩]⟩, ⟨"c.py", []⟩] := by
  obtain ⟨areLines, reads⟩ := treesView_determines_trees
  have isDump : IsTreeDump forgedDump :=
    ⟨forgedText.toList.toArray, forgedTree, isSyntaxNode_forgedTree, rfl⟩
  have shows : ShowsTrees forgedTrees :=
    { file := by decide
      name := by decide
      treeDump := by simp [forgedTrees, isDump] }
  refine ⟨by decide, areLines _ _ isSyntaxNode_forgedTree, ?_⟩
  rw [(reads forgedTrees shows).1]
  rfl

end FunctionAtlas.Report
