import FunctionAtlas.Grammar.Pattern

/-!
Contract: context-free rules decorated with precedence, node names and field names.

A grammar is an ordered list of named rules. Rules whose name starts with an underscore, and
those listed as supertypes, shape the parse but leave no node of their own.

Owns: the rule type, the grammar record and the combinators that grammars are written with.

Does not own: the normal form used for table construction; see `FunctionAtlas.Grammar.Prepared`.
-/

namespace FunctionAtlas.Grammar

/-- How a conflict between equal precedences is decided. -/
inductive Associativity where
  | left
  | right
deriving DecidableEq, Repr

/-- The name under which a node appears instead of its own. -/
structure NodeName where
  text : String
  isNamed : Bool
deriving DecidableEq, Repr, Hashable

/-- What a rule says about the symbols inside it. -/
structure Decoration where
  precedence : Option Int
  dynamicPrecedence : Int
  associativity : Option Associativity
  rename : Option NodeName
  fieldName : Option String
deriving DecidableEq, Repr

/-- The decoration that says nothing. -/
def Decoration.none : Decoration := ⟨.none, 0, .none, .none, .none⟩

/-- A kind of token: its pattern, how it competes with others, and whether blanks may come
before it. -/
structure TokenKind where
  literal : Option String
  pattern : Pattern
  precedence : Int
  isImmediate : Bool
deriving DecidableEq, Repr

/-- Among tokens of equal precedence that match the same text, fixed texts win over patterns
and tokens that admit no blank before them win over others. -/
def TokenKind.implicitPrecedence (kind : TokenKind) : Nat :=
  (if kind.literal.isSome then 2 else 0) + (if kind.isImmediate then 1 else 0)

inductive Rule where
  | blank
  | token (kind : TokenKind)
  | symbol (name : String)
  | choice (alternatives : List Rule)
  | sequence (parts : List Rule)
  | repeat1 (body : Rule)
  | decorated (decoration : Decoration) (body : Rule)
deriving Repr

namespace Rule

mutual

/-- Whether two rules are written alike. -/
def isSame : Rule → Rule → Bool
  | blank, blank => true
  | token kind, token other => kind = other
  | symbol name, symbol other => name = other
  | choice alternatives, choice others => areSame alternatives others
  | sequence parts, sequence others => areSame parts others
  | repeat1 body, repeat1 other => isSame body other
  | decorated decoration body, decorated otherDecoration other =>
      decoration = otherDecoration && isSame body other
  | _, _ => false

def areSame : List Rule → List Rule → Bool
  | [], [] => true
  | rule :: rest, other :: others => isSame rule other && areSame rest others
  | _, _ => false

end

instance : BEq Rule := ⟨isSame⟩

/-- A token with fixed text. -/
def text (literal : String) : Rule := token ⟨some literal, Pattern.text literal, 0, false⟩

/-- A token described by a pattern. -/
def pattern (body : Pattern) : Rule := token ⟨none, body, 0, false⟩

/-- The alternatives that a rule offers by itself. -/
def alternatives : Rule → List Rule
  | choice inner => inner
  | other => [other]

/-- Adds the alternatives of a rule to those collected so far, leaving out repeated ones. -/
def addAlternatives (collected : List Rule) (rule : Rule) : List Rule :=
  rule.alternatives.foldl
    (fun found alternative =>
      if found.contains alternative then found else found ++ [alternative])
    collected

/-- One of several rules; nested alternatives are flattened. -/
def oneOf (options : List Rule) : Rule := choice (options.foldl addAlternatives [])

def optional (body : Rule) : Rule := oneOf [body, blank]

def repeat0 (body : Rule) : Rule := oneOf [repeat1 body, blank]

/-- Decorations around decorations combine into one. -/
def decorate (change : Decoration → Decoration) : Rule → Rule
  | decorated decoration body => decorated (change decoration) body
  | other => decorated (change Decoration.none) other

def prec (value : Int) (body : Rule) : Rule :=
  body.decorate fun decoration => { decoration with precedence := some value }

def precLeft (value : Int) (body : Rule) : Rule :=
  body.decorate fun decoration =>
    { decoration with precedence := some value, associativity := some .left }

def precRight (value : Int) (body : Rule) : Rule :=
  body.decorate fun decoration =>
    { decoration with precedence := some value, associativity := some .right }

def precDynamic (value : Int) (body : Rule) : Rule :=
  body.decorate fun decoration => { decoration with dynamicPrecedence := value }

/-- Names the part of the enclosing node that a rule fills. -/
def field (name : String) (body : Rule) : Rule :=
  body.decorate fun decoration => { decoration with fieldName := some name }

/-- Shows a node under another name. -/
def renamed (body : Rule) (name : String) : Rule :=
  body.decorate fun decoration => { decoration with rename := some ⟨name, true⟩ }

/-- Shows a node as a token with the given text. -/
def renamedText (body : Rule) (literal : String) : Rule :=
  body.decorate fun decoration => { decoration with rename := some ⟨literal, false⟩ }

/-- One or more, separated by a token. -/
def sep1 (body : Rule) (separator : String) : Rule :=
  sequence [body, repeat0 (sequence [text separator, body])]

def commaSep1 (body : Rule) : Rule := sep1 body ","

end Rule

/-- A token that the layout scanner reports: one that only it can recognise, or one that other
rules mention too. -/
inductive ExternalToken where
  | scanned (name : String)
  | shared (rule : Rule)
deriving Repr

/-- A named language. -/
structure Definition where
  rules : List (String × Rule)
  extras : List String
  separators : Pattern
  externals : List ExternalToken
  inlined : List String
  supertypes : List String
  word : String

end FunctionAtlas.Grammar
