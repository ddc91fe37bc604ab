import FunctionAtlas.Grammar.Rule

/-!
Contract: grammars in the normal form that table construction works on.

Preparing a grammar proceeds in five steps, each a function of its own:

1. tokens are collected, numbered in order of first use, and rules that consist of one token
   used nowhere else become that token;
2. repetitions become auxiliary categories with the productions `r → r r` and `r → body`;
3. alternatives are multiplied out, so that each category has a list of plain productions;
4. a symbol that never appears under its own name gets its usual name by default;
5. occurrences of inlined categories are replaced by the productions of these categories.

Owns: symbols, productions and these steps.

Does not own: anything about parse states; see `FunctionAtlas.Automaton`.
-/

namespace FunctionAtlas.Grammar

/-- How a symbol shows in the tree. -/
inductive SymbolKind where
  | hidden
  | auxiliary
  | anonymous
  | named
deriving DecidableEq, Repr

/-- Whether nodes of this kind are part of the tree. -/
def SymbolKind.isVisible : SymbolKind → Bool
  | .anonymous | .named => true
  | .hidden | .auxiliary => false

/-- A symbol of a prepared grammar. -/
inductive Sym where
  | external (index : Nat)
  | eof
  | terminal (index : Nat)
  | nonterminal (index : Nat)
deriving DecidableEq, Repr, Hashable

/-- One symbol on the right-hand side of a production. -/
structure Step where
  symbol : Sym
  precedence : Option Int
  associativity : Option Associativity
  rename : Option NodeName
  fieldName : Option String
deriving DecidableEq, Repr

/-- A right-hand side. -/
structure Production where
  steps : List Step
  dynamicPrecedence : Int
deriving DecidableEq, Repr

/-- A token with the name and kind under which it shows. -/
structure Terminal where
  name : String
  kind : SymbolKind
  token : TokenKind
deriving Repr

/-- A token of the layout scanner. `internal` is the token of the same text, if rules have one. -/
structure External where
  name : String
  kind : SymbolKind
  internal : Option Nat
deriving Repr

/-- A syntactic category. -/
structure Category where
  name : String
  kind : SymbolKind
  productions : List Production
deriving Repr

/-- The result of preparing a grammar. -/
structure Prepared where
  terminals : Array Terminal
  externals : Array External
  categories : Array Category
  extras : List Nat
  separators : Pattern
  inlined : List Nat
  supertypes : List Nat
  word : Nat
  /-- Names of symbols that never appear under their own. -/
  defaultNames : List (Sym × NodeName)

/-- The token that rules have for a token of the layout scanner. -/
def Prepared.internalOf (grammar : Prepared) (index : Nat) : Option Nat :=
  (grammar.externals[index]?).bind (·.internal)

/-! ## Tokens -/

/-- A token seen so far, with the number of its uses. -/
structure TokenUse where
  token : TokenKind
  count : Nat
  name : String

/-- Records one use of a token. -/
def TokenUse.add (uses : List TokenUse) (ruleName : String) (token : TokenKind) : List TokenUse :=
  if uses.any (·.token = token) then
    uses.map fun use => if use.token = token then { use with count := use.count + 1 } else use
  else
    uses ++ [⟨token, 1, token.literal.getD ruleName⟩]

mutual

/-- Records the tokens of a rule in order of appearance. -/
def Rule.collectTokens (ruleName : String) (uses : List TokenUse) : Rule → List TokenUse
  | .blank => uses
  | .symbol _ => uses
  | .token kind => TokenUse.add uses ruleName kind
  | .choice alternatives => Rule.collectTokensOfAll ruleName uses alternatives
  | .sequence parts => Rule.collectTokensOfAll ruleName uses parts
  | .repeat1 body => body.collectTokens ruleName uses
  | .decorated _ body => body.collectTokens ruleName uses

def Rule.collectTokensOfAll (ruleName : String) (uses : List TokenUse) :
    List Rule → List TokenUse
  | [] => uses
  | first :: rest =>
      Rule.collectTokensOfAll ruleName (first.collectTokens ruleName uses) rest

end

/-- The kind that a rule's name announces. -/
def kindOfRule (supertypes : List String) (name : String) : SymbolKind :=
  if name.startsWith "_" || supertypes.contains name then .hidden else .named

/-- A rule with its symbols resolved. -/
inductive Body where
  | blank
  | symbol (reference : Sym)
  | choice (alternatives : List Body)
  | sequence (parts : List Body)
  | repeat1 (body : Body)
  | decorated (decoration : Decoration) (body : Body)
deriving BEq, Repr

/-- What names and tokens stand for. -/
structure Resolution where
  symbolOf : String → Sym
  terminalOf : TokenKind → Nat

mutual

def Rule.resolve (resolution : Resolution) : Rule → Body
  | .blank => .blank
  | .symbol name => .symbol (resolution.symbolOf name)
  | .token kind => .symbol (.terminal (resolution.terminalOf kind))
  | .choice alternatives => .choice (Rule.resolveAll resolution alternatives)
  | .sequence parts => .sequence (Rule.resolveAll resolution parts)
  | .repeat1 body => .repeat1 (body.resolve resolution)
  | .decorated decoration body => .decorated decoration (body.resolve resolution)

def Rule.resolveAll (resolution : Resolution) : List Rule → List Body
  | [] => []
  | first :: rest => first.resolve resolution :: Rule.resolveAll resolution rest

end

/-! ## Repetitions -/

/-- Auxiliary categories made so far. -/
structure Repetitions where
  firstIndex : Nat
  made : List (String × Body)
  known : List (Body × Nat)

/-- The alternatives of a repetition: two repetitions in a row, or the repeated body. -/
def Body.repetition (category : Nat) (body : Body) : Body :=
  let twice := Body.sequence [.symbol (.nonterminal category), .symbol (.nonterminal category)]
  match body with
  | .choice alternatives => .choice (twice :: alternatives)
  | other => .choice [twice, other]

/-- The category that repeats a body, which is made unless there is one already. -/
def Repetitions.categoryFor (repetitions : Repetitions) (owner : String) (body : Body) :
    Nat × Repetitions :=
  match repetitions.known.find? (·.1 == body) with
  | some (_, category) => (category, repetitions)
  | none =>
      let category := repetitions.firstIndex + repetitions.made.length
      ( category
      , { repetitions with
          made := repetitions.made ++ [(owner, body.repetition category)]
          known := repetitions.known ++ [(body, category)] } )

mutual

def Body.expandRepeats (owner : String) (repetitions : Repetitions) :
    Body → Body × Repetitions
  | .blank => (.blank, repetitions)
  | .symbol reference => (.symbol reference, repetitions)
  | .choice alternatives =>
      let (expanded, after) := Body.expandRepeatsOfAll owner repetitions alternatives
      (.choice expanded, after)
  | .sequence parts =>
      let (expanded, after) := Body.expandRepeatsOfAll owner repetitions parts
      (.sequence expanded, after)
  | .repeat1 body =>
      let (inner, after) := body.expandRepeats owner repetitions
      let (category, final) := after.categoryFor owner inner
      (.symbol (.nonterminal category), final)
  | .decorated decoration body =>
      let (inner, after) := body.expandRepeats owner repetitions
      (.decorated decoration inner, after)

def Body.expandRepeatsOfAll (owner : String) (repetitions : Repetitions) :
    List Body → List Body × Repetitions
  | [] => ([], repetitions)
  | first :: rest =>
      let (head, after) := first.expandRepeats owner repetitions
      let (tail, final) := Body.expandRepeatsOfAll owner after rest
      (head :: tail, final)

end

/-! ## Productions -/

mutual

/-- All ways to choose one alternative everywhere. -/
def Body.choices : Body → List Body
  | .blank => [.blank]
  | .symbol reference => [.symbol reference]
  | .choice alternatives => Body.choicesOfAny alternatives
  | .sequence parts => Body.choicesOfAll [.blank] parts
  | .repeat1 body => [.repeat1 body]
  | .decorated decoration body => body.choices.map (.decorated decoration)

def Body.choicesOfAny : List Body → List Body
  | [] => []
  | first :: rest => first.choices ++ Body.choicesOfAny rest

/-- Extends every chosen beginning by every choice for the next part. -/
def Body.choicesOfAll (beginnings : List Body) : List Body → List Body
  | [] => beginnings
  | first :: rest =>
      let options := first.choices
      Body.choicesOfAll
        (beginnings.flatMap fun beginning =>
          options.map fun option => Body.sequence [beginning, option])
        rest

end

/-- What the decorations around a symbol say about it. -/
structure Surroundings where
  precedence : Option Int
  associativity : Option Associativity
  rename : Option NodeName
  fieldName : Option String

/-- A production under construction, with its steps in reverse. -/
structure Flattening where
  reversed : List Step
  dynamicPrecedence : Int
  pushed : Bool

/-- After an decoration ends before the end of the production, the last symbol inside it takes
the precedence and associativity of what surrounds the decoration. -/
def Flattening.leave (flattening : Flattening) (decoration : Decoration) (outer : Surroundings)
    (atEnd : Bool) : Flattening :=
  if flattening.pushed && !atEnd then
    match flattening.reversed with
    | [] => flattening
    | last :: earlier =>
        let last :=
          if decoration.precedence.isSome then { last with precedence := outer.precedence }
          else last
        let last :=
          if decoration.associativity.isSome then
            { last with associativity := outer.associativity }
          else last
        { flattening with reversed := last :: earlier }
  else flattening

mutual

/-- Appends the symbols of a body without alternatives. The result says whether there was one. -/
def Body.flattenInto (around : Surroundings) (atEnd : Bool) (flattening : Flattening) :
    Body → Flattening
  | .symbol reference =>
      { flattening with
        reversed :=
          ⟨reference, around.precedence, around.associativity, around.rename, around.fieldName⟩ ::
            flattening.reversed
        pushed := true }
  | .sequence parts =>
      Body.flattenAllInto around atEnd { flattening with pushed := false } parts
  | .decorated decoration body =>
      let inner : Surroundings :=
        { precedence := decoration.precedence.or around.precedence
          associativity := decoration.associativity.or around.associativity
          rename := decoration.rename.or around.rename
          fieldName := decoration.fieldName.or around.fieldName }
      let dynamicPrecedence :=
        if flattening.dynamicPrecedence.natAbs < decoration.dynamicPrecedence.natAbs then
          decoration.dynamicPrecedence
        else flattening.dynamicPrecedence
      (body.flattenInto inner atEnd
        { flattening with dynamicPrecedence, pushed := false }).leave decoration around atEnd
  | .blank => { flattening with pushed := false }
  | .choice _ => { flattening with pushed := false }
  | .repeat1 _ => { flattening with pushed := false }

def Body.flattenAllInto (around : Surroundings) (atEnd : Bool) (flattening : Flattening) :
    List Body → Flattening
  | [] => flattening
  | first :: rest =>
      let after := first.flattenInto around (rest.isEmpty && atEnd) flattening
      let final := Body.flattenAllInto around atEnd after rest
      { final with pushed := (after.pushed || (!rest.isEmpty && final.pushed)) }

end

/-- The production of a body without alternatives. -/
def Body.production (body : Body) : Production :=
  let flattened := body.flattenInto ⟨none, none, none, none⟩ true ⟨[], 0, false⟩
  ⟨flattened.reversed.reverse, flattened.dynamicPrecedence⟩

/-- The productions of a body, without repetitions. -/
def Body.productions (body : Body) : List Production :=
  body.choices.foldl
    (fun found choice =>
      let production := choice.production
      if found.contains production then found else found ++ [production])
    []

/-! ## Default names -/

/-- The names under which a symbol appears, with the number of times each is used. -/
structure NameUse where
  names : List (NodeName × Nat)
  appearsPlain : Bool

def NameUse.ofSteps (steps : List Step) : NameUse :=
  steps.foldl
    (fun use step =>
      match step.rename with
      | none => { use with appearsPlain := true }
      | some name =>
          if use.names.any (·.1 = name) then
            { use with
              names := use.names.map fun entry =>
                if entry.1 = name then (entry.1, entry.2 + 1) else entry }
          else { use with names := use.names ++ [(name, 1)] })
    ⟨[], false⟩

/-- The most frequent name, the first of several. -/
def NameUse.usual (use : NameUse) : Option NodeName :=
  (use.names.foldl
    (fun (best : Option (NodeName × Nat)) entry =>
      match best with
      | none => some entry
      | some known => if known.2 < entry.2 then some entry else some known)
    none).map (·.1)

/-- The default name of a symbol: its usual name, if it never appears without one. -/
def defaultNameOf (steps : List Step) (extras inlined : List Nat) (symbol : Sym) :
    Option NodeName :=
  let isInlined := match symbol with
    | .nonterminal index => inlined.contains index
    | _ => false
  let isExtra := match symbol with
    | .terminal index => extras.contains index
    | _ => false
  if isInlined || isExtra then none
  else
    let use := NameUse.ofSteps (steps.filter (·.symbol = symbol))
    if use.appearsPlain then none else use.usual

/-- Drops a name that equals the default name of its symbol, unless another production of the
category uses this name at the same place for a symbol with a different default. -/
def dropDefaultName (defaults : Sym → Option NodeName) (others : List Production)
    (position : Nat) (step : Step) : Step :=
  match step.rename, defaults step.symbol with
  | some name, some default =>
      if name = default &&
          !(others.any fun other =>
            match other.steps[position]? with
            | none => false
            | some otherStep =>
                otherStep.rename = some default && defaults otherStep.symbol ≠ some default)
      then { step with rename := none }
      else step
  | _, _ => step

def Category.dropDefaultNames (defaults : Sym → Option NodeName) (category : Category) :
    Category :=
  { category with
    productions := category.productions.zipIdx.map fun (production, index) =>
      let others := category.productions.eraseIdx index
      { production with
        steps := production.steps.zipIdx.map fun (step, position) =>
          dropDefaultName defaults others position step } }

/-! ## Preparation -/

/-- Whether a rule is one token that no other rule uses; `uses` counts the uses of tokens. -/
def isTokenRule (uses : List TokenUse) (name : String) : Rule → Bool
  | .token token =>
      uses.any fun use =>
        use.token = token && use.count = 1 && (token.literal.isNone || !name.startsWith "_")
  | _ => false

/-- The normal form of a grammar. -/
def Definition.prepare (definition : Definition) : Prepared :=
  let uses :=
    definition.externals.foldl
      (fun uses external =>
        match external with
        | .scanned _ => uses
        | .shared rule => rule.collectTokens "" uses)
      (definition.rules.foldl (fun uses (name, rule) => rule.collectTokens name uses) [])
  let tokenRules := (definition.rules.drop 1).filter fun (name, rule) =>
    isTokenRule uses name rule
  let isTokenRuleName (name : String) : Bool := tokenRules.any (·.1 = name)
  let terminalOf (token : TokenKind) : Nat := uses.findIdx (·.token = token)
  let categoryRules := definition.rules.filter fun (name, _) => !isTokenRuleName name
  let categoryNames := categoryRules.map (·.1)
  let scannedNames := definition.externals.map fun
    | .scanned name => name
    | .shared _ => ""
  let symbolOf (name : String) : Sym :=
    match tokenRules.find? (·.1 = name) with
    | some (_, .token token) => .terminal (terminalOf token)
    | _ =>
        if categoryNames.contains name then .nonterminal (categoryNames.idxOf name)
        else .external (scannedNames.idxOf name)
  let terminals : List Terminal := uses.map fun use =>
    match tokenRules.find? (fun (_, rule) => rule == .token use.token) with
    | some (name, _) => ⟨name, kindOfRule definition.supertypes name, use.token⟩
    | none =>
        if use.token.literal.isSome then ⟨use.name, .anonymous, use.token⟩
        else ⟨use.name, .auxiliary, use.token⟩
  let resolution : Resolution := ⟨symbolOf, terminalOf⟩
  let externals : List External := definition.externals.map fun external =>
    match external with
    | .scanned name => ⟨name, kindOfRule definition.supertypes name, none⟩
    | .shared rule =>
        match rule.resolve resolution with
        | .symbol (.terminal index) => ⟨"", .anonymous, some index⟩
        | _ => ⟨"", .anonymous, none⟩
  let (expanded, repetitions) :=
    categoryRules.foldl
      (fun (state : List (String × Body) × Repetitions) (name, rule) =>
        let (body, after) := (rule.resolve resolution).expandRepeats name state.2
        (state.1 ++ [(name, body)], after))
      ([], ⟨categoryNames.length, [], []⟩)
  let extras := definition.extras.filterMap fun name =>
    match symbolOf name with
    | .terminal index => some index
    | _ => none
  let indicesOf (names : List String) : List Nat := names.filterMap fun name =>
    if categoryNames.contains name then some (categoryNames.idxOf name) else none
  let categories : List Category :=
    (expanded.map fun (name, body) =>
      ⟨name, kindOfRule definition.supertypes name, body.productions⟩) ++
    (repetitions.made.map fun (owner, body) =>
      ⟨owner ++ "_repeat", .auxiliary, body.productions⟩)
  let inlined := indicesOf definition.inlined
  let allSteps := categories.flatMap fun category => category.productions.flatMap (·.steps)
  let symbols : List Sym :=
    ((List.range terminals.length).map Sym.terminal) ++
    ((List.range categories.length).map Sym.nonterminal) ++
    ((List.range externals.length).map Sym.external)
  let defaultNames := symbols.filterMap fun symbol =>
    (defaultNameOf allSteps extras inlined symbol).map fun name => (symbol, name)
  let defaults (symbol : Sym) : Option NodeName :=
    (defaultNames.find? (·.1 = symbol)).map (·.2)
  { terminals := terminals.toArray
    externals := externals.toArray
    categories := (categories.map (·.dropDefaultNames defaults)).toArray
    extras
    separators := definition.separators
    inlined
    supertypes := indicesOf definition.supertypes
    word := match symbolOf definition.word with
      | .terminal index => index
      | _ => 0
    defaultNames }

end FunctionAtlas.Grammar
