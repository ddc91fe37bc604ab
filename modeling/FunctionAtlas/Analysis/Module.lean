import FunctionAtlas.Analysis.Problem
import FunctionAtlas.Grammar.Python
import FunctionAtlas.Parse.Visible
import FunctionAtlas.Text.Blank

/-!
Contract: texts that are valid modules.

A text is valid if its tree needed no repair and holds none of the forms that only Python 2
knows. Otherwise the first offending node, in the order of the text, gives the problem.

Owns: the search for the first defect and for the first outdated form.
-/

namespace FunctionAtlas.Analysis

open FunctionAtlas.Syntax

/-- A text with its syntax tree. -/
structure ParsedModule where
  file : String
  source : Array Char
  root : Node

/-- Where a node begins. -/
def placeOf (label : Label) : Place := ⟨label.start.rows + 1, label.start.column + 1⟩

/-! ## Defects -/

mutual

/-- The first node with a defect, looking into nodes that needed a repair only. -/
def firstDefect : Node → Option Label
  | .mk label children =>
      if label.defect.isSome then some label
      else if label.hasError then firstDefectOf children
      else none

def firstDefectOf : List Node → Option Label
  | [] => none
  | node :: rest => (firstDefect node).or (firstDefectOf rest)

end

/-- At most this many characters of a wrong text are quoted. -/
def snippetLength : Nat := 40

/-- The problem that a defect stands for. -/
def defectFault (source : Array Char) (label : Label) : SyntaxFault :=
  if label.defect = some .missing then .missing label.kind
  else
    let line := Text.firstLine (textOf source label)
    let snippet := Text.trim (String.ofList (line.toList.take snippetLength))
    if snippet.isEmpty then .unlocated else .near snippet

/-! ## Outdated forms -/

/-- The child that makes a node an outdated form. -/
def outdatedToken (children : List Node) (token : String) (fault : SyntaxFault) :
    Option (Label × SyntaxFault) :=
  (children.find? fun child => !child.isNamed && child.kind = token).map fun child =>
    (child.label, fault)

/-- The outdated form that a node is by itself. -/
def outdatedHere (label : Label) (children : List Node) : Option (Label × SyntaxFault) :=
  if label.kind = "print_statement" then some (label, .printStatement)
  else if label.kind = "exec_statement" then some (label, .execStatement)
  else if label.kind = "comparison_operator" then outdatedToken children "<>" .diamondOperator
  else if label.kind = "except_clause" then outdatedToken children "," .exceptComma
  else none

mutual

/-- The first outdated form among named nodes. -/
def firstOutdated : Node → Option (Label × SyntaxFault)
  | .mk label children => (outdatedHere label children).or (firstOutdatedOf children)

def firstOutdatedOf : List Node → Option (Label × SyntaxFault)
  | [] => none
  | node :: rest =>
      if node.isNamed then (firstOutdated node).or (firstOutdatedOf rest)
      else firstOutdatedOf rest

end

/-! ## Modules -/

/-- The parse table of the language. -/
def pythonTable : Automaton.Table := Automaton.Table.ofGrammar Grammar.Python.grammar.prepare

/-- Accepts a tree, or names the first problem in it. -/
def checkTree (file : String) (source : Array Char) (root : Node) : Except Problem ParsedModule :=
  if root.label.hasError then
    match firstDefect root with
    | some label => .error (.invalid file (placeOf label) (defectFault source label))
    | none => .error (.invalid file ⟨1, 1⟩ .unlocated)
  else
    match firstOutdated root with
    | some (label, fault) => .error (.invalid file (placeOf label) fault)
    | none => .ok ⟨file, source, root⟩

/-- Checks the tree that a parser makes of a text. -/
def parseWith (syntaxTree : Array Char → Option Node) (file text : String) :
    Except Problem ParsedModule :=
  let source := text.toList.toArray
  match syntaxTree source with
  | some root => checkTree file source root
  | none => .error (.invalid file ⟨1, 1⟩ .noTree)

/-- Parses a text. -/
def parseModule (file text : String) : Except Problem ParsedModule :=
  parseWith (Parse.syntaxTree pythonTable) file text

end FunctionAtlas.Analysis
