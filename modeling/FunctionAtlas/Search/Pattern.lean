import FunctionAtlas.Regex.Room
import FunctionAtlas.Regex.Run
import FunctionAtlas.Text.Quoted

/-!
Contract: what to search for.

Owns: the program of a search, and why a pattern is refused.

Does not own: where the program is run.
-/

namespace FunctionAtlas.Search

open FunctionAtlas.Regex

/-- How the text of a search is understood. -/
structure SearchOptions where
  /-- Whether case does not count. -/
  ignoreCase : Bool := false
  /-- Whether the text stands for itself and is no pattern. -/
  fixedStrings : Bool := false
deriving DecidableEq, Repr

/-- Why a pattern is refused. A fault points into the pattern as it is read. -/
inductive PatternFault where
  | invalid (pattern written : String) (fault : Regex.Fault)
  | tooLarge (pattern : String)
deriving DecidableEq, Repr

def PatternFault.message : PatternFault → String
  | .invalid pattern written fault =>
      "compiling pattern " ++ Text.Quoted.quote pattern ++ ": " ++ fault.report written
  | .tooLarge pattern =>
      "compiling pattern " ++ Text.Quoted.quote pattern ++
        ": Compiled regex exceeds size limit of " ++ toString roomLimit ++ " bytes."

/-- The pattern to read. A text that stands for itself is escaped. -/
def writtenPattern (pattern : String) (options : SearchOptions) : String :=
  if options.fixedStrings then escapedText pattern else pattern

/-- The expression to search for. -/
def expressionOf (pattern : String) (options : SearchOptions) : Except PatternFault Expr :=
  let written := writtenPattern pattern options
  match Expr.read options.ignoreCase written with
  | .error fault => .error (.invalid pattern written fault)
  | .ok expression => .ok expression

/-- The program to search with. -/
def compile (pattern : String) (options : SearchOptions) : Except PatternFault Program := do
  let expression ← expressionOf pattern options
  if expression.isTooLarge then .error (.tooLarge pattern) else .ok (Program.ofExpr expression)

end FunctionAtlas.Search
