import FunctionAtlas.Automaton.Dfa
import FunctionAtlas.Automaton.Merge

/-!
Contract: the complete table that drives the parser of a grammar.

Symbols are renumbered for parsing: 0 is the end of the text, 1 the word token, then come the
other tokens, the tokens of the layout scanner, and the categories. This order is observable:
where the parser tries tokens or compares trees, it goes by symbol number.

Owns: lexer modes, symbol descriptions and the assembly of the table.
-/

namespace FunctionAtlas.Automaton

open FunctionAtlas.Grammar

/-! ## Lexer modes -/

/-- The tokens that the lexer looks for in a state: keywords are read as words, tokens of the
layout scanner are not its business. -/
def ParseState.lexedTokens (grammar : Prepared) (numbering : Numbering) (keywords : TokenSet)
    (state : ParseState) : TokenSet :=
  state.tokens.fold numbering.tokenCount
    (fun (found : TokenSet) token =>
      if token < numbering.terminalCount then
        found.insert (if keywords.contains token then grammar.word else token)
      else if token = numbering.eof then found.insert token
      else found)
    .empty

/-- Whether two modes can be one: no token that one of them lacks competes with its tokens. -/
def modesAgree (terminalCount : Nat) (conflicts : ConflictTable) (company : Company)
    (left right : TokenSet) : Bool :=
  let clashes (token : Nat) (without : TokenSet) : Bool :=
    terminalCount.any fun existing _ =>
      without.contains existing &&
        (conflicts.conflicts token existing || conflicts.matchesPrefix token existing ||
          (!company.contains token existing &&
            (conflicts.overlaps existing token || conflicts.overlaps token existing)))
  terminalCount.all fun token _ =>
    match left.contains token, right.contains token with
    | true, false => !clashes token right
    | false, true => !clashes token left
    | _, _ => true

/-- Finds the first mode that agrees with a set of tokens, and extends it. -/
def joinMode (agree : TokenSet → TokenSet → Bool) (tokens : TokenSet) :
    List TokenSet → Nat × List TokenSet
  | [] => (0, [tokens])
  | mode :: rest =>
      if agree mode tokens then (0, mode.union tokens :: rest)
      else
        let (index, rest) := joinMode agree tokens rest
        (index + 1, mode :: rest)

/-- Assigns a mode to every set of tokens. -/
def assignModes (agree : TokenSet → TokenSet → Bool) (sets : Array TokenSet) :
    Array Nat × List TokenSet :=
  sets.foldl
    (fun (state : Array Nat × List TokenSet) tokens =>
      let (index, modes) := joinMode agree tokens state.2
      (state.1.push index, modes))
    (#[], [])

/-! ## The table -/

/-- How a symbol shows in the tree. -/
structure SymbolInfo where
  name : String
  isVisible : Bool
  isNamed : Bool

/-- A state, ready for parsing. -/
structure TableState where
  /-- Actions by symbol number of the token. -/
  actions : Array (Array Action)
  /-- Successor states by category. -/
  successors : Array Nat
  /-- Number of the lexer mode. -/
  mode : Nat
  /-- Which tokens the layout scanner may report. -/
  scanned : TokenSet

/-- The names and fields that a production gives to its children. -/
structure ChildShape where
  renames : Array (Option NodeName)
  fields : Array (Option String)

/-- A parse table. -/
structure Table where
  states : Array TableState
  symbols : Array SymbolInfo
  tokenCount : Nat
  shapes : Array ChildShape
  dfa : Array DfaState
  modeStarts : Array Nat
  keywordStart : Nat
  /-- Symbol number of each token of the layout scanner. -/
  externalSymbols : Array Nat
  /-- Symbol number of each terminal. -/
  terminalSymbols : Array Nat

/-- The symbol number of the end of the text. -/
def Table.endSymbol : Nat := 0

/-- The symbol number of words. -/
def Table.wordSymbol : Nat := 1

/-- The symbol number of text that could not be parsed. -/
def Table.errorSymbol : Nat := 65535

/-- The symbol number of a run of skipped parts. -/
def Table.skippedSymbol : Nat := 65534

/-- Tokens in the order of their symbol numbers. -/
def tokenOrder (grammar : Prepared) (numbering : Numbering) : List Nat :=
  [numbering.eof, grammar.word] ++
  ((List.range numbering.terminalCount).filter (· ≠ grammar.word)) ++
  (((List.range numbering.externalCount).filter fun index =>
    (grammar.internalOf index).isNone).map (· + numbering.terminalCount))

def symbolInfo (grammar : Prepared) (symbol : Sym) (name : String) (kind : SymbolKind) :
    SymbolInfo :=
  match grammar.defaultNames.find? (·.1 = symbol) with
  | some (_, shown) => ⟨shown.text, true, shown.isNamed⟩
  | none => ⟨name, kind.isVisible, kind = .named || kind = .hidden⟩

/-- Descriptions of all symbols, by symbol number. -/
def symbolInfos (grammar : Prepared) (numbering : Numbering) (order : List Nat) :
    List SymbolInfo :=
  let tokens := order.map fun token =>
    if token = numbering.eof then ⟨"end", false, true⟩
    else if token < numbering.terminalCount then
      match grammar.terminals[token]? with
      | some terminal => symbolInfo grammar (.terminal token) terminal.name terminal.kind
      | none => ⟨"", false, false⟩
    else
      match grammar.externals[token - numbering.terminalCount]? with
      | some external =>
          symbolInfo grammar (.external (token - numbering.terminalCount)) external.name
            external.kind
      | none => ⟨"", false, false⟩
  let categories := grammar.categories.toList.zipIdx.map fun (category, index) =>
    symbolInfo grammar (.nonterminal index) category.name category.kind
  tokens ++ categories

/-- The scanner tokens that a state admits, by scanner number. -/
def scannedTokens (grammar : Prepared) (numbering : Numbering) (tokens : TokenSet) : TokenSet :=
  TokenSet.ofList ((List.range numbering.externalCount).filter fun (index : Nat) =>
    tokens.contains (numbering.terminalCount + index) ||
    match grammar.internalOf index with
    | some terminal => tokens.contains terminal
    | none => false)

/-- Builds the table of a grammar. -/
def Table.ofGrammar (grammar : Prepared) : Table :=
  let items := ItemTable.ofGrammar grammar
  let numbering := items.numbering
  let raw := parseStates items grammar.extras
  let nfa := Nfa.ofGrammar grammar
  let conflicts := ConflictTable.ofNfa nfa (followingTokens grammar items)
  let company := Company.ofStates numbering.terminalCount grammar.word raw
  let keywordSet := keywords grammar nfa conflicts company
  let recovering := addRecoveryActions grammar numbering conflicts company keywordSet raw
  let disturbance := Disturbance.ofGrammar grammar numbering conflicts keywordSet
  let states := minimizeStates grammar numbering disturbance recovering
  let (modes, modeSets) := assignModes
    (modesAgree numbering.terminalCount conflicts company)
    (states.map fun state => state.lexedTokens grammar numbering keywordSet)
  let (starts, dfa) := modeSets.foldl
    (fun (state : Array Nat × Dfa) tokens =>
      let (start, dfa) := state.2.addMode nfa (tokens.members numbering.terminalCount)
        (tokens.contains numbering.eof)
      (state.1.push start, dfa))
    (#[], Dfa.empty)
  let (keywordStart, dfa) := dfa.addMode nfa (keywordSet.members numbering.terminalCount) false
  let order := tokenOrder grammar numbering
  let symbolOf (token : Nat) : Nat := order.idxOf token
  { states := states.mapIdx fun index state =>
      { actions := (order.map fun token => state.actions.getD token #[]).toArray
        successors := state.successors
        mode := modes.getD index 0
        scanned := scannedTokens grammar numbering state.tokens }
    symbols := (symbolInfos grammar numbering order).toArray
    tokenCount := order.length
    shapes := items.shapes.map fun shape => ⟨shape.renames.toArray, shape.fields.toArray⟩
    dfa := dfa.states
    modeStarts := starts
    keywordStart
    externalSymbols := (Array.range numbering.externalCount).map fun index =>
      match grammar.internalOf index with
      | some terminal => symbolOf terminal
      | none => symbolOf (numbering.terminalCount + index)
    terminalSymbols := (Array.range numbering.terminalCount).map symbolOf }

end FunctionAtlas.Automaton
