import FunctionAtlas.Proofs.Analysis.DumpedRecord
import FunctionAtlas.Proofs.Docstring.Documented

/-!
Contract: when the record of a definition has a docstring, and which one.

A definition is documented if its first statement is nothing but plain strings, extras and
parentheses aside. The record then has the cleaned value of these strings. The converse has two
exceptions: commas after the strings, which make them a tuple, are not looked at, and a literal in
back quotes that holds another quote is read from that quote on.

Owns: the docstrings of records.
-/

namespace FunctionAtlas.Analysis

open FunctionAtlas.Docstring
open FunctionAtlas.Grammar.Python
open FunctionAtlas.Syntax
open FunctionAtlas.Syntax.Node

/-- The literal at a node is written in the given way. -/
def IsWritten (source : Array Char) (literal : Node) (spelling : Spelling) : Prop :=
  (textOf source literal.label).toList = spelling.text

/-- The first statement of a definition is an expression that consists of plain strings only, and
these make up the given docstring. -/
def IsDocumentedBy (source : Array Char) (definition : Node) (value : String) : Prop :=
  ∃ body literals spellings, definition.childByField "body" = some body ∧
    BeginsWith body literals [] ∧ List.Forall₂ (IsWritten source) literals spellings ∧
    (∀ spelling ∈ spellings, spelling.IsPlain) ∧
    value = clean (String.join (spellings.map Spelling.value))

section Literals

variable {source : Array Char}

theorem decodes_iff_of_isWritten {literal : Node} {spelling : Spelling}
    (written : IsWritten source literal spelling) (quotes : isQuote spelling.quote = true)
    (value : String) :
    Decodes source literal value ↔ spelling.IsPlain ∧ value = spelling.value := by
  have text : textOf source literal.label = String.ofList spelling.text := by
    rw [← written, String.ofList_toList]
  rw [Decodes, text]
  exact spelling.decode_text_eq_some_iff quotes value

/-- Plain strings are read as their values. -/
theorem forall₂_decodes_of_isPlain {literals : List Node} {spellings : List Spelling}
    (written : List.Forall₂ (IsWritten source) literals spellings)
    (plain : ∀ spelling ∈ spellings, spelling.IsPlain) :
    List.Forall₂ (Decodes source) literals (spellings.map Spelling.value) := by
  induction written with
  | nil => exact .nil
  | @cons literal spelling _ _ isWritten _ inductionHypothesis =>
      obtain ⟨isPlain, others⟩ := List.forall_mem_cons.mp plain
      have decodes := (decodes_iff_of_isWritten isWritten isPlain.1 _).mpr ⟨isPlain, rfl⟩
      exact .cons decodes (inductionHypothesis others)

/-- The literal at a node is in back quotes, and another quote stands inside. -/
def IsBackquoted (source : Array Char) (literal : Node) : Prop :=
  ∃ spelling, IsWritten source literal spelling ∧ spelling.quote = '`' ∧
    ∃ mark ∈ spelling.body, isQuote mark = true

/-- A literal in back quotes has a value only if another quote stands inside. -/
theorem exists_isQuote_of_decodes {literal : Node} {spelling : Spelling} {value : String}
    (written : IsWritten source literal spelling) (backquoted : spelling.quote = '`')
    (decodes : Decodes source literal value) : ∃ mark ∈ spelling.body, isQuote mark = true := by
  by_contra noQuote
  have isEmpty : quotedOf spelling.text = [] := by
    apply spelling.quotedOf_eq_nil_of_backquoted backquoted
    rw [quotedOf, List.dropWhile_eq_nil_iff]
    intro character isInside
    simp only [not_exists, not_and, Bool.not_eq_true] at noQuote
    simp [noQuote character isInside]
  unfold Decodes decode at decodes
  rw [written, isEmpty] at decodes
  simp [quoteLength] at decodes

/-- Literals that are read are plain strings, or one of them is in back quotes. -/
theorem exists_isPlain_or_isBackquoted {literals : List Node} {values : List String}
    (decoded : List.Forall₂ (Decodes source) literals values)
    (written : ∀ literal ∈ literals, ∃ spelling, IsWritten source literal spelling) :
    (∃ spellings, List.Forall₂ (IsWritten source) literals spellings ∧
      (∀ spelling ∈ spellings, spelling.IsPlain) ∧ values = spellings.map Spelling.value) ∨
    ∃ literal ∈ literals, IsBackquoted source literal := by
  induction decoded with
  | nil => exact .inl ⟨[], .nil, by simp, rfl⟩
  | @cons literal value literals values decodes _ inductionHypothesis =>
      obtain ⟨⟨spelling, isWritten⟩, others⟩ := List.forall_mem_cons.mp written
      rcases spelling.quote_allowed with quotes | backquoted
      · obtain ⟨isPlain, rfl⟩ := (decodes_iff_of_isWritten isWritten quotes _).mp decodes
        rcases inductionHypothesis others with
          ⟨spellings, eachWritten, eachPlain, rfl⟩ | ⟨other, isOther, isBackquoted⟩
        · exact .inl ⟨spelling :: spellings, .cons isWritten eachWritten,
            List.forall_mem_cons.mpr ⟨isPlain, eachPlain⟩, rfl⟩
        · exact .inr ⟨other, List.mem_cons_of_mem _ isOther, isBackquoted⟩
      · have inside := exists_isQuote_of_decodes isWritten backquoted decodes
        exact .inr ⟨literal, List.mem_cons_self, spelling, isWritten, backquoted, inside⟩

end Literals

/-- The docstring of a definition, from the literals that its body begins with. -/
theorem docstringOf_eq_some_iff {source : Array Char} {root definition : Node}
    (tree : PythonTree source root) (member : definition ∈ root.preorder)
    (defines : definition.kind = "function_definition") (value : String) :
    docstringOf source definition = .ok (some value) ↔
      ∃ body literals commas values, definition.childByField "body" = some body ∧
        BeginsWith body literals commas ∧ List.Forall₂ (Decodes source) literals values ∧
        value = clean (String.join values) := by
  unfold docstringOf
  cases found : definition.childByField "body" with
  | none => simp
  | some body =>
      obtain ⟨isSolid, -⟩ := tree.block_of_body member defines found
      have reads := ofBody_eq_some_iff tree (tree.mem_of_solid member isSolid) value
      simpa using reads

/-- A record has a docstring exactly if the first statement of the body begins with an expression
that is made of literals only, with parentheses and extras set aside, and each of them is read as a
plain string; it is the cleaned text of these strings one after the other. So every documented
definition has its docstring. A docstring that does not document its definition comes from an
expression with a comma after it, or from a literal in back quotes with another quote inside. -/
theorem docstring_of_record
    (parsed : ParsedModule)
    (tree : PythonTree parsed.source parsed.root)
    (site : Site)
    (member : site ∈ definitionSites parsed.root)
    (record : FunctionRecord)
    (made : siteRecord parsed.file parsed.source site = .ok record)
    (value : String) :
    (record.docstring = some value ↔
      ∃ body literals commas values, site.node.childByField "body" = some body ∧
        BeginsWith body literals commas ∧
        List.Forall₂ (Decodes parsed.source) literals values ∧
        value = clean (String.join values)) ∧
    (IsDocumentedBy parsed.source site.node value → record.docstring = some value) ∧
    (record.docstring = some value →
      (∀ literal ∈ docstringLiteralsOf site.node,
        ∃ spelling, IsWritten parsed.source literal spelling) →
      IsDocumentedBy parsed.source site.node value ∨
      (∃ body literals comma commas, site.node.childByField "body" = some body ∧
        BeginsWith body literals (comma :: commas)) ∨
      ∃ literal ∈ docstringLiteralsOf site.node, IsBackquoted parsed.source literal) := by
  obtain ⟨isMember, defines⟩ := definition_of_mem_definitionSites member
  obtain ⟨-, -, docstring, -, documented, rfl⟩ := recordOf_eq_ok_iff.mp made
  have reads := docstringOf_eq_some_iff tree isMember defines value
  rw [documented, Except.ok.injEq] at reads
  refine ⟨reads, ?_, ?_⟩
  · intro isDocumented
    obtain ⟨body, literals, spellings, found, begins, written, plain, isValue⟩ := isDocumented
    exact reads.mpr ⟨body, literals, [], _, found, begins,
      forall₂_decodes_of_isPlain written plain, isValue⟩
  · intro hasDocstring written
    obtain ⟨body, literals, commas, values, found, begins, decoded, isValue⟩ :=
      reads.mp hasDocstring
    have literalsAre : docstringLiteralsOf site.node = literals := by
      obtain ⟨isSolid, -⟩ := tree.block_of_body isMember defines found
      rw [docstringLiteralsOf, found]
      exact docstringLiterals_of_beginsWith tree (tree.mem_of_solid isMember isSolid) begins
    cases commas with
    | cons comma others => exact .inr (.inl ⟨body, literals, comma, others, found, begins⟩)
    | nil =>
        rw [literalsAre] at written ⊢
        rcases exists_isPlain_or_isBackquoted decoded written with
          ⟨spellings, eachWritten, plain, rfl⟩ | backquoted
        · exact .inl ⟨body, literals, spellings, found, begins, eachWritten, plain, isValue⟩
        · exact .inr (.inr backquoted)

/-- A text whose only definition has a literal with a comma after it for its only statement. -/
def tupleText : Array Char := "def f():\n    \"doc\",\n".toList.toArray

def tupleLiteral : Node :=
  nodeOver tupleText "string" none 13 18
    [nodeOver tupleText "string_start" none 13 14 [],
      nodeOver tupleText "string_content" none 14 17 [],
      nodeOver tupleText "string_end" none 17 18 []]

def tupleStatement : Node :=
  nodeOver tupleText "expression_statement" none 13 19 [tupleLiteral, tokenOver tupleText 18 19]

def tupleBody : Node := nodeOver tupleText "block" (some "body") 13 19 [tupleStatement]

def tupleDefinition : Node :=
  nodeOver tupleText "function_definition" none 0 19
    [tokenOver tupleText 0 3, nodeOver tupleText "identifier" (some "name") 4 5 [],
      nodeOver tupleText "parameters" (some "parameters") 5 7
        [tokenOver tupleText 5 6, tokenOver tupleText 6 7],
      tokenOver tupleText 7 8, tupleBody]

def tupleModule : ParsedModule :=
  ⟨"m.py", tupleText, nodeOver tupleText "module" none 0 20 [tupleDefinition]⟩

def tupleSite : Site := ⟨[0], [tupleModule.root], tupleDefinition⟩

/-- It is a valid text, and the definition has a docstring although it is not documented. -/
theorem docstring_of_tupleStatement :
    PythonTree tupleText tupleModule.root ∧
    (∃ record, tupleModule.functions = .ok [record] ∧ record.docstring = some "doc") ∧
    ∀ value, ¬ IsDocumentedBy tupleText tupleDefinition value := by
  have tree : PythonTree tupleText tupleModule.root :=
    .of_checked (by decide +kernel) (by decide) (by decide) (by decide) (by decide)
  have member : tupleSite ∈ definitionSites tupleModule.root := List.mem_cons_self
  have begins : BeginsWith tupleBody [tupleLiteral] [tokenOver tupleText 18 19] :=
    ⟨tupleStatement, tupleLiteral, rfl, rfl, rfl, by simpa [IsComma] using ⟨rfl, rfl⟩, .one rfl⟩
  have decodes : Decodes tupleText tupleLiteral "doc" := by
    have decoded : decode (textOf tupleText tupleLiteral.label) =
        .ok (some (String.ofList (unescape ['d', 'o', 'c']))) := rfl
    rw [Decodes, decoded]
    simp [unescape]
  have reads : ∃ body literals commas values, tupleDefinition.childByField "body" = some body ∧
      BeginsWith body literals commas ∧ List.Forall₂ (Decodes tupleText) literals values ∧
      "doc" = clean (String.join values) :=
    ⟨tupleBody, _, _, ["doc"], rfl, begins, .cons decodes .nil, by decide +kernel⟩
  obtain ⟨isMember, defines⟩ := definition_of_mem_definitionSites member
  have documented := (docstringOf_eq_some_iff tree isMember defines "doc").mpr reads
  have signed : signatureOf "m.py" tupleText tupleDefinition = .ok ("f", []) := by decide +kernel
  have made : siteRecord "m.py" tupleText tupleSite = .ok _ :=
    recordOf_eq_ok_iff.mpr ⟨"f", [], _, signed, documented, rfl⟩
  refine ⟨tree, ⟨_, functions_eq_singleton tree.standsNamed rfl made, ?_⟩, ?_⟩
  · exact (docstring_of_record tupleModule tree tupleSite member _ made "doc").1.mpr reads
  · intro value isDocumented
    obtain ⟨body, literals, spellings, found, ⟨statement, expression, isFirst, -, inRow, -⟩, -⟩ :=
      isDocumented
    obtain rfl : tupleBody = body := Option.some.inj found
    obtain rfl : tupleStatement = statement := Option.some.inj isFirst
    have length : tupleStatement.solid.length = 2 := rfl
    rw [inRow] at length
    cases length

end FunctionAtlas.Analysis
