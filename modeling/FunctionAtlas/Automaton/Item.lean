import FunctionAtlas.Automaton.TokenSet
import FunctionAtlas.Grammar.Prepared

/-!
Contract: parse items, numbered and tabulated.

A parse item is a production with a mark between two of its steps. Symbols are numbered
(terminals, externals, the end of the text, categories), items are numbered by production and
mark, and everything that table construction asks of an item is an array look-up.

Two items are alike if they agree on everything that can still matter: the category, the rest
of the production, and the names and fields of what has been read. Alike items share a rank,
and ranks are ordered, so that sets of items have one written form.

Owns: symbol numbering, inlining, first and last sets, item ranks, and the items that the
appearance of a category adds to a set.
-/

namespace FunctionAtlas.Automaton

open FunctionAtlas.Grammar

/-! ## Symbol numbers -/

/-- The sizes of the four ranges of symbol numbers. -/
structure Numbering where
  terminalCount : Nat
  externalCount : Nat
  categoryCount : Nat

namespace Numbering

def ofGrammar (grammar : Prepared) : Numbering :=
  ⟨grammar.terminals.size, grammar.externals.size, grammar.categories.size⟩

/-- The number of the end of the text. -/
def eof (numbering : Numbering) : Nat := numbering.terminalCount + numbering.externalCount

/-- Tokens have the numbers below this one. -/
def tokenCount (numbering : Numbering) : Nat := numbering.eof + 1

def symbolCount (numbering : Numbering) : Nat := numbering.tokenCount + numbering.categoryCount

/-- Stands for the absence of a symbol. -/
def absent (numbering : Numbering) : Nat := numbering.symbolCount

def number (numbering : Numbering) : Sym → Nat
  | .terminal index => index
  | .external index => numbering.terminalCount + index
  | .eof => numbering.eof
  | .nonterminal index => numbering.tokenCount + index

def isCategory (numbering : Numbering) (symbol : Nat) : Bool :=
  numbering.tokenCount ≤ symbol && symbol < numbering.symbolCount

end Numbering

/-! ## Inlining -/

/-- Puts the steps of `inner` in the place of one step of a production. They take the name and
field of the step they replace, and the last one its precedence unless it has its own. -/
def splice (production : Production) (position : Nat) (inner : Production) : Production :=
  match production.steps[position]? with
  | none => production
  | some removed =>
      let inserted := inner.steps.zipIdx.map fun (step, index) =>
        let isLast := index + 1 = inner.steps.length
        { step with
          rename := removed.rename.or step.rename
          fieldName := removed.fieldName.or step.fieldName
          precedence := if isLast then step.precedence.or removed.precedence else step.precedence
          associativity :=
            if isLast then step.associativity.or removed.associativity else step.associativity }
      { steps :=
          production.steps.take position ++ inserted ++ production.steps.drop (position + 1)
        dynamicPrecedence :=
          if production.dynamicPrecedence.natAbs < inner.dynamicPrecedence.natAbs then
            inner.dynamicPrecedence
          else production.dynamicPrecedence }

/-- Whether the step at a position is an inlined category. -/
def inlinedCategoryAt (grammar : Prepared) (production : Production) (position : Nat) :
    Option Category :=
  match production.steps[position]? with
  | some ⟨.nonterminal index, _, _, _, _⟩ =>
      if grammar.inlined.contains index then grammar.categories[index]? else none
  | _ => none

/-- Replaces the inlined category at a position until none is left there. -/
def expandAt (grammar : Prepared) (position : Nat) : Nat → Production → List Production
  | 0, production => [production]
  | fuel + 1, production =>
      match inlinedCategoryAt grammar production position with
      | none => [production]
      | some category =>
          category.productions.flatMap fun inner =>
            expandAt grammar position fuel (splice production position inner)

/-- A production of a category, with what replaces it where an inlined category comes next. -/
structure OwnedProduction where
  category : Nat
  production : Production
  /-- The position of the first inlined category and the numbers of the productions that replace
  this one when the mark gets there. -/
  replacement : Option (Nat × List Nat)

/-- Adds a production unless it is there; the result begins with its number. -/
def addProduction (pool : Array OwnedProduction) (category : Nat) (production : Production) :
    Nat × Array OwnedProduction :=
  match pool.findIdx? fun owned => owned.category = category && owned.production = production with
  | some index => (index, pool)
  | none => (pool.size, pool.push ⟨category, production, none⟩)

/-- The position of the first inlined category of a production. -/
def firstInlined (grammar : Prepared) (production : Production) : Option Nat :=
  (List.range production.steps.length).find? fun position =>
    (inlinedCategoryAt grammar production position).isSome

/-- Works through the pool from `index` on, adding the productions that inlining needs. -/
def closePool (grammar : Prepared) : Nat → Nat → Array OwnedProduction → Array OwnedProduction
  | 0, _, pool => pool
  | fuel + 1, index, pool =>
      match pool[index]? with
      | none => pool
      | some owned =>
          match firstInlined grammar owned.production with
          | none => closePool grammar fuel (index + 1) pool
          | some position =>
              let (numbers, pool) :=
                (expandAt grammar position 8 owned.production).foldl
                  (fun (state : List Nat × Array OwnedProduction) production =>
                    let (number, pool) := addProduction state.2 owned.category production
                    (state.1 ++ [number], pool))
                  ([], pool)
              closePool grammar fuel (index + 1)
                (pool.modify index fun known =>
                  { known with replacement := some (position, numbers) })

/-- All productions, those of the grammar first. The last argument bounds the work. -/
def productionPool (grammar : Prepared) : Array OwnedProduction :=
  let declared := grammar.categories.toList.zipIdx.flatMap fun (category, index) =>
    category.productions.map fun production => (⟨index, production, none⟩ : OwnedProduction)
  closePool grammar 100000 0 declared.toArray

/-! ## First and last sets -/

/-- The tokens at one end of what each symbol derives; `pick` chooses the step at that end. -/
def edgeSets (grammar : Prepared) (numbering : Numbering) (pick : List Step → Option Step) :
    Array TokenSet :=
  let edges : Array (List Nat) := grammar.categories.map fun category =>
    category.productions.filterMap fun production =>
      (pick production.steps).map fun step => numbering.number step.symbol
  let start : Array TokenSet := (Array.range numbering.symbolCount).map fun symbol =>
    if numbering.isCategory symbol then .empty else .singleton symbol
  let round (sets : Array TokenSet) : Array TokenSet :=
    (List.range numbering.categoryCount).foldl
      (fun sets category =>
        let gathered := (edges.getD category []).foldl
          (fun set symbol => set.union (sets.getD symbol .empty)) TokenSet.empty
        sets.set! (numbering.tokenCount + category) gathered)
      sets
  (List.range numbering.categoryCount).foldl (fun sets _ => round sets) start

/-! ## Fields of hidden categories -/

/-- Whether nodes of a step merge into their parent and bring their fields with them. -/
def inheritsFields (grammar : Prepared) (step : Step) : Bool :=
  match step.symbol with
  | .nonterminal index =>
      step.rename.isNone && !(grammar.defaultNames.any (·.1 = step.symbol)) &&
        !grammar.supertypes.contains index &&
        (match grammar.categories[index]? with
        | some category => !category.kind.isVisible || grammar.inlined.contains index
        | none => false)
  | _ => false

/-- Inserts into an increasing list of names. -/
def insertName (name : String) : List String → List String
  | [] => [name]
  | first :: rest =>
      if name < first then name :: first :: rest
      else if name = first then first :: rest
      else first :: insertName name rest

/-- The field names that can appear among the children of each category. -/
def fieldNames (grammar : Prepared) : Array (List String) :=
  let round (known : Array (List String)) : Array (List String) :=
    grammar.categories.mapIdx fun index category =>
      category.productions.foldl
        (fun names production =>
          production.steps.foldl
            (fun names step =>
              let names := match step.fieldName with
                | some name => insertName name names
                | none => names
              match step.symbol with
              | .nonterminal child =>
                  if inheritsFields grammar step then
                    (known.getD child []).foldl (fun names name => insertName name names) names
                  else names
              | _ => names)
            names)
        (known.getD index [])
  (List.range grammar.categories.size).foldl (fun known _ => round known)
    (Array.replicate grammar.categories.size [])

/-! ## How a production shows in the tree -/

/-- The names and fields that a production gives to its children. -/
structure ProductionShape where
  renames : List (Option NodeName)
  fields : List (Option String)
  /-- Fields that children bring with them, with the positions of these children. -/
  inherited : List (String × Nat)
deriving DecidableEq

/-- The shape that gives no names and no fields. -/
def ProductionShape.plain : ProductionShape := ⟨[], [], []⟩

/-- Drops trailing absent entries. -/
def dropTrailing {α : Type} (entries : List (Option α)) : List (Option α) :=
  (entries.reverse.dropWhile Option.isNone).reverse

def ProductionShape.ofProduction (grammar : Prepared) (names : Array (List String))
    (production : Production) : ProductionShape :=
  { renames := dropTrailing (production.steps.map (·.rename))
    fields := dropTrailing (production.steps.map (·.fieldName))
    inherited := production.steps.zipIdx.flatMap fun (step, position) =>
      match step.symbol with
      | .nonterminal index =>
          match grammar.categories[index]? with
          | some category =>
              if category.kind.isVisible then []
              else (names.getD index []).map fun name => (name, position)
          | none => []
      | _ => [] }

/-! ## Item ranks -/

/-- What an item must agree on with an alike item, in the order that ranks follow. -/
structure ItemKey where
  numbers : List Int
  item : Nat

def precedenceNumber : Option Int → Int
  | none => -1000000
  | some value => value

def associativityNumber : Option Associativity → Int
  | none => 0
  | some .left => 1
  | some .right => 2

/-- Position of an entry in a list of known ones, counted from one; absent entries come first. -/
def positionNumber {α : Type} [BEq α] (known : List α) : Option α → Int
  | none => 0
  | some value => Int.ofNat (known.idxOf value + 1)

/-- The order of symbols: externals, the end of the text, terminals, categories. -/
def symbolNumber : Sym → Int
  | .external index => Int.ofNat index
  | .eof => 1000
  | .terminal index => Int.ofNat (2000 + index)
  | .nonterminal index => Int.ofNat (10000 + index)

/-- Whether a step is a hidden category whose nodes bring fields with them. -/
def bringsFields (grammar : Prepared) (names : Array (List String)) (step : Step) : Bool :=
  match step.symbol with
  | .nonterminal index =>
      match grammar.categories[index]? with
      | some category => !category.kind.isVisible && !(names.getD index []).isEmpty
      | none => false
  | _ => false

/-- The key of an item: a production with `mark` steps read. -/
def itemNumbers (grammar : Prepared) (names : Array (List String)) (nodeNames : List NodeName)
    (allFields : List String) (category : Nat) (production : Production) (mark : Nat) :
    List Int :=
  let read := production.steps.take mark
  let bringing := read.any (bringsFields grammar names)
  let last := read.getLast?
  [ Int.ofNat mark, Int.ofNat category, production.dynamicPrecedence
  , Int.ofNat production.steps.length
  , precedenceNumber (last.bind (·.precedence))
  , associativityNumber (last.bind (·.associativity))
  , if bringing then 1 else 0 ] ++
  (read.flatMap fun step =>
    [positionNumber nodeNames step.rename, positionNumber allFields step.fieldName]) ++
  ((production.steps.drop mark).flatMap fun step =>
    [ symbolNumber step.symbol, precedenceNumber step.precedence
    , associativityNumber step.associativity, positionNumber nodeNames step.rename
    , positionNumber allFields step.fieldName ]) ++
  (if bringing then read.map fun step => symbolNumber step.symbol else [])

/-- Lexicographic order. -/
def lexLess : List Int → List Int → Bool
  | [], [] => false
  | [], _ :: _ => true
  | _ :: _, [] => false
  | left :: lefts, right :: rights =>
      if left < right then true else if right < left then false else lexLess lefts rights

/-- Numbers the items in the order of their keys; items with equal keys share a number. -/
def ranksOf (keys : List ItemKey) (itemCount : Nat) : Array Nat :=
  let sorted := keys.mergeSort fun left right => !lexLess right.numbers left.numbers
  (sorted.foldl
    (fun (state : Array Nat × Nat × Option (List Int)) key =>
      let (ranks, next, previous) := state
      if previous = some key.numbers then
        (ranks.set! key.item (next - 1), next, previous)
      else (ranks.set! key.item next, next + 1, some key.numbers))
    (Array.replicate itemCount 0, 0, none)).1

/-! ## The item table -/

/-- What the appearance of a category adds to a set of items. -/
structure Addition where
  item : Nat
  lookaheads : TokenSet
  /-- Whether what follows the category may follow the item too. -/
  propagates : Bool

/-- What an item shows once its production is complete. -/
structure Reduction where
  category : Nat
  childCount : Nat
  dynamicPrecedence : Int
  shape : Nat

/-- Everything about items that table construction needs. -/
structure ItemTable where
  numbering : Numbering
  /-- The symbol after the mark. -/
  next : Array Nat
  /-- The symbol after that one. -/
  afterNext : Array Nat
  ranks : Array Nat
  rankCount : Nat
  /-- Items that stand for an item whose next symbol is inlined. -/
  replacements : Array (List Nat)
  category : Array Nat
  mark : Array Nat
  precedence : Array (Option Int)
  associativity : Array (Option Associativity)
  reduction : Array Reduction
  firstSets : Array TokenSet
  lastSets : Array TokenSet
  additions : Array (Array Addition)
  shapes : Array ProductionShape
  auxiliary : Array Bool
  startItem : Nat

/-- What is known about the tokens after a category at the beginning of another. -/
structure FollowInfo where
  lookaheads : TokenSet
  propagates : Bool

/-- Collects, for one category, the categories that can begin it with what may follow them. -/
def followInfos (grammar : Prepared) (numbering : Numbering) (firstSets : Array TokenSet) :
    Nat → List (Nat × TokenSet × Bool) → Array (Option FollowInfo) → Array (Option FollowInfo)
  | 0, _, infos => infos
  | _ + 1, [], infos => infos
  | fuel + 1, (category, lookaheads, propagates) :: pending, infos =>
      let known := (infos.getD category none).getD ⟨.empty, false⟩
      let (changed, info) :=
        if propagates then (!known.propagates, { known with propagates := true })
        else
          ( !known.lookaheads.covers lookaheads
          , { known with lookaheads := known.lookaheads.union lookaheads } )
      let infos := infos.set! category (some info)
      if changed then
        let productions := match grammar.categories[category]? with
          | some found => found.productions
          | none => []
        let pending := productions.foldl
          (fun pending production =>
            match production.steps with
            | ⟨.nonterminal first, _, _, _, _⟩ :: rest =>
                match rest with
                | [] => (first, lookaheads, propagates) :: pending
                | second :: _ =>
                    (first, firstSets.getD (numbering.number second.symbol) .empty, false) ::
                      pending
            | _ => pending)
          pending
        followInfos grammar numbering firstSets fuel pending infos
      else followInfos grammar numbering firstSets fuel pending infos

/-- Adds a shape unless it is there; the result begins with its number. -/
def addShape (shapes : Array ProductionShape) (shape : ProductionShape) :
    Nat × Array ProductionShape :=
  match shapes.findIdx? (· = shape) with
  | some index => (index, shapes)
  | none => (shapes.size, shapes.push shape)

/-- Tabulates the items of a grammar. -/
def ItemTable.ofGrammar (grammar : Prepared) : ItemTable :=
  let numbering := Numbering.ofGrammar grammar
  let startProduction : Production := ⟨[⟨.nonterminal 0, none, none, none, none⟩], 0⟩
  let pool := (productionPool grammar).push
    ⟨numbering.categoryCount, startProduction, none⟩
  let bases : Array Nat := (pool.foldl
    (fun (state : Array Nat × Nat) owned =>
      (state.1.push state.2, state.2 + owned.production.steps.length + 1))
    (#[], 0)).1
  let marked : List (OwnedProduction × Nat × Nat) := pool.toList.zipIdx.flatMap
    fun (owned, index) =>
      (List.range (owned.production.steps.length + 1)).map fun mark => (owned, index, mark)
  let items := marked.toArray
  let names := fieldNames grammar
  let allSteps := pool.toList.flatMap fun owned => owned.production.steps
  let nodeNames := ((allSteps.filterMap (·.rename)).eraseDups).mergeSort fun left right =>
    left.text < right.text || (left.text = right.text && (!left.isNamed || right.isNamed))
  let allFields := (allSteps.filterMap (·.fieldName)).foldl
    (fun known name => insertName name known) []
  let keys : List ItemKey := marked.zipIdx.map fun ((owned, _, mark), item) =>
    ⟨itemNumbers grammar names nodeNames allFields owned.category owned.production mark, item⟩
  let ranks := ranksOf keys items.size
  let firstSets := edgeSets grammar numbering List.head?
  let symbolAt (owned : OwnedProduction) (position : Nat) : Nat :=
    match owned.production.steps[position]? with
    | some step => numbering.number step.symbol
    | none => numbering.absent
  let readStep (owned : OwnedProduction) (mark : Nat) : Option Step :=
    if mark = 0 then none else owned.production.steps[mark - 1]?
  let replacements : Array (List Nat) := items.map fun (owned, _, mark) =>
    match owned.replacement with
    | some (position, numbers) =>
        if position = mark then numbers.map fun number => bases.getD number 0 + mark else []
    | none => []
  let (shapeNumbers, shapes) := pool.foldl
    (fun (state : Array Nat × Array ProductionShape) owned =>
      let (number, shapes) := addShape state.2
        (ProductionShape.ofProduction grammar names owned.production)
      (state.1.push number, shapes))
    (#[], #[ProductionShape.plain])
  let firstOf : Array (List Nat) := (pool.toList.zipIdx).foldl
    (fun (found : Array (List Nat)) (owned, index) =>
      found.modify owned.category fun known => known ++ [index])
    (Array.replicate (numbering.categoryCount + 1) [])
  let declaredCount := (grammar.categories.toList.map fun category =>
    category.productions.length).foldr (· + ·) 0
  let additions : Array (Array Addition) := (Array.range numbering.categoryCount).map
    fun category =>
      let infos := followInfos grammar numbering firstSets 1000000
        [(category, .empty, true)] (Array.replicate numbering.categoryCount none)
      (infos.toList.zipIdx.flatMap fun (info, found) =>
        match info with
        | none => []
        | some info =>
            if grammar.inlined.contains found then []
            else
              ((firstOf.getD found []).filter (· < declaredCount)).flatMap fun number =>
                let item := bases.getD number 0
                let started := match replacements.getD item [] with
                  | [] => [item]
                  | others => others
                started.map fun item => (⟨item, info.lookaheads, info.propagates⟩ : Addition)
      ).toArray
  { numbering
    next := items.map fun (owned, _, mark) => symbolAt owned mark
    afterNext := items.map fun (owned, _, mark) => symbolAt owned (mark + 1)
    ranks
    rankCount := ranks.foldl max 0 + 1
    replacements
    category := items.map fun (owned, _, _) => owned.category
    mark := items.map fun (_, _, mark) => mark
    precedence := items.map fun (owned, _, mark) => (readStep owned mark).bind (·.precedence)
    associativity := items.map fun (owned, _, mark) =>
      (readStep owned mark).bind (·.associativity)
    reduction := items.map fun (owned, index, mark) =>
      ⟨owned.category, mark, owned.production.dynamicPrecedence, shapeNumbers.getD index 0⟩
    firstSets
    lastSets := edgeSets grammar numbering List.getLast?
    additions
    shapes
    auxiliary := grammar.categories.map fun category => category.kind = .auxiliary
    startItem := bases.getD (pool.size - 1) 0 }

/-- The tokens that may come directly after each token. -/
def followingTokens (grammar : Prepared) (table : ItemTable) : Array TokenSet :=
  let numbering := table.numbering
  let allTerminals := TokenSet.ofList (List.range numbering.terminalCount)
  let extras := TokenSet.ofList grammar.extras
  let pairs : List (Nat × Nat) := (productionPool grammar).toList.flatMap fun owned =>
    owned.production.steps.zipWith
      (fun left right => (numbering.number left.symbol, numbering.number right.symbol))
      (owned.production.steps.drop 1)
  let direct := pairs.foldl
    (fun (found : Array TokenSet) (left, right) =>
      let followers := table.firstSets.getD right .empty
      (table.lastSets.getD left .empty).fold numbering.terminalCount
        (fun found token => found.modify token (·.union followers)) found)
    (Array.replicate numbering.terminalCount TokenSet.empty)
  direct.mapIdx fun token followers =>
    if extras.contains token then allTerminals else followers.union extras

end FunctionAtlas.Automaton
