import FunctionAtlas.Analysis.Module
import FunctionAtlas.Docstring.Body
import FunctionAtlas.Syntax.Dump

/-!
Contract: the functions of a module.

Every definition, however deeply nested, gives one record, and records come in the order in which
the definitions begin. A record holds copies of all it says.

Owns: records and their extraction from a tree.
-/

namespace FunctionAtlas.Analysis

open FunctionAtlas.Syntax

/-- The part of a text that a definition covers; lines and columns count from one. -/
structure Span where
  startByte : Nat
  endByte : Nat
  startLine : Nat
  startColumn : Nat
  endLine : Nat
  endColumn : Nat
deriving DecidableEq, Repr

def Span.ofLabel (label : Label) : Span :=
  { startByte := label.start.bytes
    endByte := label.stop.bytes
    startLine := label.start.rows + 1
    startColumn := label.start.column + 1
    endLine := label.stop.rows + 1
    endColumn := label.stop.column + 1 }

/-- Where a span begins, as text. -/
def Span.display (span : Span) : String :=
  toString span.startLine ++ ":" ++ toString span.startColumn

/-- What is recorded about a function. -/
structure FunctionRecord where
  name : String
  /-- The name after the names of the enclosing classes and functions. -/
  qualifiedName : String
  /-- The names that the parameters bind, in order. -/
  parameters : List String
  docstring : Option String
  /-- The text of the definition. -/
  sourceText : Option String
  treeDump : String
  isAsync : Bool
  /-- The expressions of the decorators. -/
  decorators : List String
  /-- The part of the text without decorators. -/
  span : Span
deriving DecidableEq, Repr

namespace FunctionRecord

def arity (record : FunctionRecord) : Nat := record.parameters.length

/-- The docstring, unless it is empty. -/
def docstringText (record : FunctionRecord) : Option String :=
  record.docstring.filter fun text => !text.isEmpty

end FunctionRecord

/-- Why no records could be made: a problem of the file, or a literal without a value. -/
inductive ExtractionFailure where
  | problem (problem : Problem)
  | literal (fault : Docstring.LiteralFault)
deriving DecidableEq, Repr

/-! ## Parameters -/

/-- Kinds of parameters whose name is in a field. -/
def bindsByField (kind : String) : Bool :=
  kind = "default_parameter" || kind = "typed_default_parameter"

/-- Kinds of parameters that begin with the pattern that binds the name. -/
def bindsByFirst (kind : String) : Bool :=
  kind = "typed_parameter" || kind = "list_splat_pattern" || kind = "dictionary_splat_pattern"

mutual

/-- The identifier that a parameter binds. -/
def boundIdentifier : Node → Option Label
  | .mk label children =>
      if label.kind = "identifier" then some label
      else if bindsByField label.kind then boundByName children
      else if bindsByFirst label.kind then boundByFirst children
      else none

/-- The identifier that the first child in the field `name` binds. -/
def boundByName : List Node → Option Label
  | [] => none
  | child :: rest =>
      if child.label.field = some "name" then boundIdentifier child else boundByName rest

/-- The identifier that the first named child binds. -/
def boundByFirst : List Node → Option Label
  | [] => none
  | child :: rest => if child.isNamed then boundIdentifier child else boundByFirst rest

end

/-- Marks that divide parameters into groups and bind nothing. -/
def isSeparator (kind : String) : Bool :=
  kind = "keyword_separator" || kind = "positional_separator"

/-- The name that a parameter binds; a separator binds none. -/
def parameterName (file : String) (source : Array Char) (parameter : Node) :
    Except Problem (Option String) :=
  let label := parameter.label
  if isSeparator label.kind then .ok none
  else if label.kind = "tuple_pattern" then
    .error (.invalid file (placeOf label) .tupleParameter)
  else
    match boundIdentifier parameter with
    | some identifier => .ok (some (textOf source identifier))
    | none => .error (.malformed file (placeOf label) label.kind .noIdentifier)

/-- The names that a list of parameters binds, up to the first problem. -/
def parameterNames (file : String) (source : Array Char) :
    List Node → Except Problem (List String)
  | [] => .ok []
  | parameter :: rest =>
      match parameterName file source parameter with
      | .error problem => .error problem
      | .ok name => (parameterNames file source rest).map fun names => name.toList ++ names

/-! ## Records -/

/-- A decorator without its sign. -/
def decoratorText (source : Array Char) (decorator : Node) : String :=
  Text.trim (String.ofList
    ((textOf source decorator.label).toList.dropWhile (· = '@')))

/-- The decorators of a definition with the given parent. -/
def decoratorsIn (source : Array Char) (parent : Option Node) : List String :=
  match parent with
  | none => []
  | some node =>
      if node.kind = "decorated_definition" then
        (node.namedChildren.filter (·.kind = "decorator")).map (decoratorText source)
      else []

/-- A definition is asynchronous if it begins with that keyword. -/
def isAsyncDefinition (node : Node) : Bool :=
  match node.children.head? with
  | some first => first.kind = "async"
  | none => false

/-- The name of a definition inside the given scopes. -/
def qualify (scopes : List String) (name : String) : String :=
  String.intercalate "." (scopes ++ [name])

/-- The docstring of a definition; without a body there is none. -/
def docstringOf (source : Array Char) (node : Node) :
    Except Docstring.LiteralFault (Option String) :=
  match node.childByField "body" with
  | some body => Docstring.ofBody source body
  | none => .ok none

/-- The name of a definition and the names that its parameters bind. -/
def signatureOf (file : String) (source : Array Char) (node : Node) :
    Except Problem (String × List String) :=
  let label := node.label
  match node.childByField "name" with
  | none => .error (.malformed file (placeOf label) label.kind .noName)
  | some nameNode =>
      let name := textOf source nameNode.label
      if name.isEmpty then
        .error (.malformed file (placeOf nameNode.label) nameNode.kind .emptyName)
      else
        match node.childByField "parameters" with
        | none => .error (.malformed file (placeOf label) label.kind .noParameterList)
        | some parameters =>
            (parameterNames file source parameters.parts).map fun names => (name, names)

/-- The record of a definition inside the given scopes. -/
def recordOf (file : String) (source : Array Char) (scopes : List String) (parent : Option Node)
    (node : Node) : Except ExtractionFailure FunctionRecord :=
  match signatureOf file source node with
  | .error problem => .error (.problem problem)
  | .ok (name, parameters) =>
      match docstringOf source node with
      | .error fault => .error (.literal fault)
      | .ok docstring =>
          .ok
            { name
              qualifiedName := qualify scopes name
              parameters
              docstring
              sourceText := some (textOf source node.label)
              treeDump := Dump.dump source node
              isAsync := isAsyncDefinition node
              decorators := decoratorsIn source parent
              span := .ofLabel node.label }

/-- The scope that a node opens for what is inside it. -/
def openedScope (source : Array Char) (node : Node) : List String :=
  if node.kind = "function_definition" || node.kind = "class_definition" then
    match node.childByField "name" with
    | some name => [textOf source name.label]
    | none => []
  else []

mutual

/-- The records of a tree, in the order in which the definitions begin. -/
def recordsOf (file : String) (source : Array Char) (scopes : List String)
    (parent : Option Node) : Node → Except ExtractionFailure (List FunctionRecord)
  | .mk label children =>
      let node := Node.mk label children
      let inner := scopes ++ openedScope source node
      if label.kind = "function_definition" then
        match recordOf file source scopes parent node with
        | .error failure => .error failure
        | .ok record =>
            (recordsOfAll file source inner node children).map fun records => record :: records
      else recordsOfAll file source inner node children

/-- The records of the named ones among several trees with the same parent. -/
def recordsOfAll (file : String) (source : Array Char) (scopes : List String)
    (parent : Node) : List Node → Except ExtractionFailure (List FunctionRecord)
  | [] => .ok []
  | node :: rest =>
      if node.isNamed then
        match recordsOf file source scopes (some parent) node with
        | .error failure => .error failure
        | .ok records =>
            (recordsOfAll file source scopes parent rest).map fun others => records ++ others
      else recordsOfAll file source scopes parent rest

end

/-- The functions of a module. -/
def ParsedModule.functions (parsed : ParsedModule) :
    Except ExtractionFailure (List FunctionRecord) :=
  recordsOf parsed.file parsed.source [] none parsed.root

/-- The functions of a text. -/
def extract (file text : String) : Except ExtractionFailure (List FunctionRecord) :=
  match parseModule file text with
  | .error problem => .error (.problem problem)
  | .ok parsed => parsed.functions

end FunctionAtlas.Analysis
