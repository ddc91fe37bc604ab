import FunctionAtlas.Grammar.Python
import FunctionAtlas.Proofs.Grammar.Spelling
import FunctionAtlas.Proofs.Syntax.UniqueReading
import FunctionAtlas.Proofs.Text.AsciiBytes

/-!
Contract: what is computed from the grammar.

The names of the grammar keep written forms readable, and its rules fix what stands in the rows of
particular kinds of nodes. Whoever changes the grammar finds here what relied on it.

Owns: the names of the grammar, the kinds that are told apart, and the shapes of their rows.

Does not own: what follows for the nodes of a tree; see `FunctionAtlas.Proofs.Grammar.PythonTree`.
-/

namespace FunctionAtlas.Grammar.Python

open FunctionAtlas.Syntax
open FunctionAtlas.Syntax.Dump
open FunctionAtlas.Text

/-- How deep rules are looked into. -/
def depth : Nat := 20

/-! ## Names -/

private def isAsciiName (name : String) : Bool :=
  name ≠ "" && hasAsciiOf isNameCharacter name

private theorem isName_of_isAsciiName {name : String} (checked : isAsciiName name = true) :
    isName name = true := by
  obtain ⟨nonempty, ascii⟩ := Bool.and_eq_true_iff.mp checked
  refine Bool.and_eq_true_iff.mpr ⟨?_, ?_⟩
  · simpa using nonempty
  · exact List.all_eq_true.mpr (accepts_of_hasAsciiOf ascii)

-- What the evaluation finds out about a text is kept within one proof only, so this one is for all
-- names, and there is one for all shapes below.
private theorem ascii_names :
    (∀ name ∈ grammar.symbolNames, isAsciiName name = true) ∧
    (∀ entry ∈ grammar.renamings, entry.1.isNamed = true → isAsciiName entry.1.text = true) ∧
    ∀ name ∈ grammar.fieldNames, isAsciiName name = true ∧
      name ∉ reservedNames "" ∧ ∀ entry ∈ flagTable, name ∉ entry.2 := by
  decide +kernel

theorem isName_symbolNames : ∀ name ∈ grammar.symbolNames, isName name = true :=
  fun name member => isName_of_isAsciiName (ascii_names.1 name member)

theorem isName_renamings :
    ∀ entry ∈ grammar.renamings, entry.1.isNamed = true → isName entry.1.text = true :=
  fun entry member named => isName_of_isAsciiName (ascii_names.2.1 entry member named)

theorem readable_fieldNames : ∀ name ∈ grammar.fieldNames, isName name = true ∧
    name ∉ reservedNames "" ∧ ∀ entry ∈ flagTable, name ∉ entry.2 := by
  intro name member
  obtain ⟨ascii, others⟩ := ascii_names.2.2 name member
  exact ⟨isName_of_isAsciiName ascii, others⟩

/-! ## Kinds -/

/-- The keywords that definitions begin with. -/
def definitionKeywords : List String := ["async", "def"]

/-- The kinds of parameters. -/
def parameterKinds : List String :=
  [ "identifier", "typed_parameter", "default_parameter", "typed_default_parameter"
  , "list_splat_pattern", "tuple_pattern", "keyword_separator", "positional_separator"
  , "dictionary_splat_pattern" ]

/-- The kinds of parameters with a default value. -/
def defaultKinds : List String := ["default_parameter", "typed_default_parameter"]

/-- The kinds of parameters that collect several arguments. -/
def splatKinds : List String := ["list_splat_pattern", "dictionary_splat_pattern"]

/-- The kinds of what can stand after the stars of a pattern. -/
def targetKinds : List String := ["identifier", "subscript", "attribute"]

/-- The kinds of nodes that can consist of several tokens alone. -/
def gappedKinds : List String :=
  [ "parameters", "argument_list", "list", "tuple", "dictionary", "list_pattern", "tuple_pattern"
  , "dict_pattern", "slice", "splat_pattern", "union_pattern", "import_prefix" ]

/-- The kinds of nodes that can begin with something that leaves no node: the layout of lines, or
characters of a string. -/
def hiddenStartKinds : List String := ["module", "block", "string_content"]

/-- The kinds of nodes that can end with something that leaves no node: the end of a line or of a
block, or characters of a string. -/
def openKinds : List String := ["module", "block", "decorator", "string_content"]

/-- What leaves no node can stand at the end wherever it can stand at the beginning. -/
theorem hiddenStartKinds_subset : hiddenStartKinds ⊆ openKinds := by decide

/-- The tokens that are made of several words. -/
def joinedKinds : List String := ["is not", "not in"]

/-! ## Shapes -/

/-- What the rows of definitions consist of. -/
abbrev DefinitionShape : Prop :=
  (judgeKind grammar (fun part => part.field = some "name") depth
    "function_definition").some = true ∧
  (judgeKind grammar (fun part => part.field = some "name" →
    part.kind = "identifier" ∧ part.isNamed = true) depth "function_definition").every = true ∧
  (judgeKind grammar (fun part => part.field = some "parameters") depth
    "function_definition").some = true ∧
  (judgeKind grammar (fun part => part.field = some "parameters" →
    part.kind = "parameters" ∧ part.isNamed = true) depth "function_definition").every = true ∧
  (judgeKind grammar (fun part => part.field = some "body" →
    part.kind = "block" ∧ part.isNamed = true) depth "function_definition").every = true ∧
  (judgeKind grammar (fun part => part.kind = "async" →
    part.isNamed = false ∧ part.field = none) depth "function_definition").every = true ∧
  (judgeKind grammar (fun part => part.kind ≠ "async") depth
    "function_definition").later = true ∧
  (judgeKind grammar (fun part => part.isNamed = false ∧ part.kind ∈ definitionKeywords) depth
    "function_definition").first = true ∧
  (judgeKind grammar (fun part => part.field = some "name" → part.kind = "identifier") depth
    "class_definition").every = true

/-- What the rows of parameters consist of. -/
abbrev ParametersShape : Prop :=
  (judgeKind grammar (fun part => part.isNamed = true →
    part.field = none ∧ part.kind ∈ parameterKinds) depth "parameters").every = true ∧
  (judgeKind grammar (fun part => part.field = some "name") depth
    "default_parameter").some = true ∧
  (judgeKind grammar (fun part => part.field = some "name" →
    (part.kind = "identifier" ∨ part.kind = "tuple_pattern") ∧ part.isNamed = true) depth
      "default_parameter").every = true ∧
  (judgeKind grammar (fun part => part.field = some "name") depth
    "typed_default_parameter").some = true ∧
  (judgeKind grammar (fun part => part.field = some "name" →
    part.kind = "identifier" ∧ part.isNamed = true) depth
      "typed_default_parameter").every = true ∧
  (judgeKind grammar (fun part => part.isNamed = true ∧
    (part.kind = "identifier" ∨ part.kind ∈ splatKinds)) depth
      "typed_parameter").first = true ∧
  (judgeKind grammar (fun part => part.field = none ∨ part.kind = "type") depth
    "typed_parameter").every = true ∧
  (∀ kind ∈ splatKinds,
    (judgeKind grammar (fun part => part.field = none ∧
      (part.isNamed = true → part.kind ∈ targetKinds)) depth kind).every = true ∧
    (judgeKind grammar (fun part => part.isNamed = true) depth kind).some = true) ∧
  ∀ kind ∈ defaultKinds,
    (judgeKind grammar (fun part => part.isNamed = true ∧ part.field = some "name") depth
      kind).first = true

/-- What the rows around literals consist of. -/
abbrev LiteralsShape : Prop :=
  (∀ symbol ∈ grammar.symbolsOf "block",
    (judgeSymbol grammar (fun part => part.field = none) depth symbol).every = true ∨
      (judgeSymbol grammar (fun part => part.kind ≠ "expression_statement") depth
        symbol).every = true) ∧
  (∀ kind ∈ ["expression_statement", "parenthesized_expression", "concatenated_string"],
    (judgeKind grammar (fun part => part.field = none) depth kind).every = true) ∧
  (judgeKind grammar (fun _ => False) depth "identifier").every = true ∧
  (judgeKind grammar (fun part => part.isNamed = true ∧ part.kind = "string") depth
    "concatenated_string").every = true ∧
  (judgeKind grammar (fun part => part.isNamed = true) depth
    "expression_statement").first = true ∧
  (judgeKind grammar (fun part => part.isNamed = true ∨ part = ⟨",", false, none⟩) depth
    "expression_statement").every = true

/-- What the rows of all kinds have in common as to tokens and extras. -/
abbrev TokensShape : Prop :=
  (∀ entry ∈ grammar.renamings, entry.1.isNamed = false → entry.1.text ∈ joinedKinds) ∧
  (∀ entry ∈ grammar.kindsOfSymbols,
    (judgeSymbol grammar (fun part => part.kind ∈ joinedKinds → part.field ≠ none) depth
      entry.2).every = true) ∧
  (∀ entry ∈ grammar.kindsOfSymbols, entry.1 ∈ gappedKinds ∨ entry.1 ∈ openKinds ∨
    (judgeSymbol grammar (fun part => part.field ≠ none ∨ part.isNamed = true) depth
      entry.2).someOrLone = true) ∧
  ∀ kind ∈ grammar.extras, (judgeKind grammar (fun _ => False) depth kind).every = true

private theorem shapes :
    DefinitionShape ∧ ParametersShape ∧ LiteralsShape ∧ TokensShape := by
  decide +kernel

theorem definition_shape : DefinitionShape := shapes.1

theorem parameters_shape : ParametersShape := shapes.2.1

theorem literals_shape : LiteralsShape := shapes.2.2.1

theorem tokens_shape : TokensShape := shapes.2.2.2

end FunctionAtlas.Grammar.Python
