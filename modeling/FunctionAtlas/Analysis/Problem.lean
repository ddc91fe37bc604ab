import FunctionAtlas.Text.Quoted

/-!
Contract: why a file has no report.

Owns: the causes, their places and their wording.
-/

namespace FunctionAtlas.Analysis

/-- A place in a file; both numbers count from one. -/
structure Place where
  line : Nat
  column : Nat
deriving DecidableEq, Repr

/-- What is wrong with a text. -/
inductive SyntaxFault where
  /-- A token of this kind is missing. -/
  | missing (kind : String)
  /-- This text does not fit. -/
  | near (snippet : String)
  /-- Something is wrong that has no text of its own. -/
  | unlocated
  | printStatement
  | execStatement
  | diamondOperator
  | exceptComma
  | tupleParameter
  /-- The parser gave up. -/
  | noTree
  /-- A fault in the words of whoever found it. -/
  | stated (message : String)
deriving DecidableEq, Repr

def SyntaxFault.message : SyntaxFault → String
  | .missing kind => "syntax error: missing " ++ kind
  | .near snippet => "syntax error near " ++ Text.Quoted.quote snippet
  | .unlocated => "syntax error"
  | .printStatement => "print statement is not valid Python 3"
  | .execStatement => "exec statement is not valid Python 3"
  | .diamondOperator => "'<>' is not valid Python 3, use '!='"
  | .exceptComma => "'except X, name' is not valid Python 3, use 'as'"
  | .tupleParameter => "tuple parameters are not valid Python 3"
  | .noTree => "parser produced no tree"
  | .stated message => message

/-- What is wrong with a node of a definition. -/
inductive NodeFault where
  | noName
  | emptyName
  | noParameterList
  | noIdentifier
  | stated (detail : String)
deriving DecidableEq, Repr

def NodeFault.detail : NodeFault → String
  | .noName => "function definition has no name"
  | .emptyName => "function name is empty"
  | .noParameterList => "function definition has no parameter list"
  | .noIdentifier => "parameter has no identifier"
  | .stated detail => detail

/-- Why a file has no report. -/
inductive Problem where
  /-- The file could not be read. -/
  | unreadable (file cause : String)
  /-- The text is not a program. -/
  | invalid (file : String) (place : Place) (fault : SyntaxFault)
  /-- A node of the tree lacks a part. -/
  | malformed (file : String) (place : Place) (kind : String) (fault : NodeFault)
deriving DecidableEq, Repr

/-- The kinds of problems. -/
inductive ProblemKind where
  | reading
  | parsing
  | malformedNode
deriving DecidableEq, Repr

namespace Problem

def kind : Problem → ProblemKind
  | .unreadable _ _ => .reading
  | .invalid _ _ _ => .parsing
  | .malformed _ _ _ _ => .malformedNode

private def at_ (file : String) (place : Place) : String :=
  file ++ ":" ++ toString place.line ++ ":" ++ toString place.column ++ ": "

def message : Problem → String
  | .unreadable file cause => "cannot read " ++ file ++ ": " ++ cause
  | .invalid file place fault => at_ file place ++ fault.message
  | .malformed file place kind fault =>
      at_ file place ++ "malformed " ++ kind ++ " node: " ++ fault.detail

end Problem

/-- How a kind is called in listings. -/
def ProblemKind.title : ProblemKind → String
  | .reading => "io error"
  | .parsing => "parse error"
  | .malformedNode => "malformed node"

/-- How a kind is called in data. -/
def ProblemKind.tag : ProblemKind → String
  | .reading => "io"
  | .parsing => "parse"
  | .malformedNode => "malformed_node"

end FunctionAtlas.Analysis
