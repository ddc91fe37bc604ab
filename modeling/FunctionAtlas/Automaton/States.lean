import FunctionAtlas.Automaton.Item
import Std.Data.HashMap

/-!
Contract: the parse states of a grammar, one for every set of items with lookahead tokens.

States are found breadth first from the start item. Where a state could both read a token and
complete a production, or complete two, the precedences decide; what they leave open stays in
the table as several actions, and the parser follows all of them.

Owns: closure of item sets, the actions of states, and the resolution of conflicts.

Does not own: the merging of states; see `FunctionAtlas.Automaton.Merge`.
-/

namespace FunctionAtlas.Automaton

open FunctionAtlas.Grammar

/-- What a state does with a token. -/
inductive Action where
  | shift (state : Nat) (isRepetition : Bool)
  | shiftExtra
  | reduce (category childCount : Nat) (dynamicPrecedence : Int) (shape : Nat)
  | accept
  | recover
deriving DecidableEq, Repr

/-- A set of items with lookahead tokens, ordered by rank. -/
structure ItemSet where
  items : Array Nat
  lookaheads : Array TokenSet

/-- The written form of an item set: alike sets have equal keys. -/
structure ItemSetKey where
  ranks : Array Nat
  lookaheads : Array TokenSet
deriving BEq, Hashable

/-- A parse state. -/
structure ParseState where
  /-- Actions by token number. -/
  actions : Array (Array Action)
  /-- Successor states by category; zero where there is none. -/
  successors : Array Nat
  /-- States with the same items, whatever their lookaheads, have the same core. -/
  core : Nat

/-! ## Closure -/

/-- An item set under construction. `slots` holds, for each rank, its place counted from one. -/
structure Closing where
  items : Array Nat
  lookaheads : Array TokenSet
  slots : Array Nat

namespace Closing

/-- Adds an item, or lookaheads to an item that is there. -/
@[inline] def add (table : ItemTable) (closing : Closing) (item : Nat) (tokens : TokenSet) :
    Closing :=
  let rank := table.ranks.getD item 0
  let slot := closing.slots.getD rank 0
  if slot = 0 then
    let size := closing.items.size
    { items := closing.items.push item
      lookaheads := closing.lookaheads.push tokens
      slots := closing.slots.set! rank (size + 1) }
  else
    { closing with
      lookaheads := closing.lookaheads.modify (slot - 1) fun known => known.union tokens }

/-- Adds an item with the items that its next symbol brings. -/
def addExpanded (table : ItemTable) (closing : Closing) (item : Nat) (tokens : TokenSet) :
    Closing :=
  let next := table.next.getD item 0
  let closing :=
    if table.numbering.isCategory next then
      let after := table.afterNext.getD item 0
      let following :=
        if after = table.numbering.absent then tokens else table.firstSets.getD after .empty
      (table.additions.getD (next - table.numbering.tokenCount) #[]).foldl
        (fun closing addition =>
          closing.add table addition.item
            (if addition.propagates then addition.lookaheads.union following
             else addition.lookaheads))
        closing
    else closing
  closing.add table item tokens

end Closing

/-- All items that a kernel stands for. `slots` is all zero before and after. -/
def ItemSet.closure (table : ItemTable) (kernel : ItemSet) (slots : Array Nat) : Closing :=
  let start : Closing := ⟨#[], #[], slots⟩
  let closed := kernel.items.size.fold
    (fun index _ (closing : Closing) =>
      let item := kernel.items.getD index 0
      let tokens := kernel.lookaheads.getD index .empty
      match table.replacements.getD item [] with
      | [] => closing.addExpanded table item tokens
      | others => others.foldl (fun closing other => closing.addExpanded table other tokens)
          closing)
    start
  { closed with
    slots := closed.items.foldl (fun slots item => slots.set! (table.ranks.getD item 0) 0)
      closed.slots }

/-! ## Successors -/

/-- Inserts into an item set ordered by rank. -/
def ItemSet.insert (table : ItemTable) (set : ItemSet) (item : Nat) (tokens : TokenSet) :
    ItemSet :=
  let rank := table.ranks.getD item 0
  let rankAt (index : Nat) : Nat := table.ranks.getD (set.items.getD index 0) 0
  let size := set.items.size
  if size = 0 || rankAt (size - 1) < rank then
    ⟨set.items.push item, set.lookaheads.push tokens⟩
  else
    let place := (List.range size).find? fun index => rank ≤ rankAt index
    match place with
    | none => ⟨set.items.push item, set.lookaheads.push tokens⟩
    | some index =>
        if rankAt index = rank then
          ⟨set.items, set.lookaheads.modify index fun known => known.union tokens⟩
        else
          ⟨set.items.insertIdxIfInBounds index item,
            set.lookaheads.insertIdxIfInBounds index tokens⟩

def ItemSet.key (table : ItemTable) (set : ItemSet) : ItemSetKey :=
  ⟨set.items.map fun item => table.ranks.getD item 0, set.lookaheads⟩

/-! ## Construction -/

/-- States found so far. -/
structure Construction where
  kernels : Array ItemSet
  numbers : Std.HashMap ItemSetKey Nat
  cores : Std.HashMap (Array Nat) Nat
  coreOf : Array Nat
  states : Array ParseState
  slots : Array Nat

/-- The number of a state with the given kernel, which is added unless it is known. -/
def Construction.stateFor (table : ItemTable) (construction : Construction) (kernel : ItemSet) :
    Nat × Construction :=
  let key := kernel.key table
  match construction.numbers[key]? with
  | some number => (number, construction)
  | none =>
      let number := construction.kernels.size
      let coreCount := construction.cores.size
      let core := (construction.cores[key.ranks]?).getD coreCount
      ( number
      , { construction with
          kernels := construction.kernels.push kernel
          numbers := construction.numbers.insert key number
          cores := construction.cores.insertIfNew key.ranks coreCount
          coreOf := construction.coreOf.push core } )

/-- What is known about the completed productions for one token. -/
structure ReductionInfo where
  precedence : Option Int
  hasLeft : Bool
  hasRight : Bool
  hasNeither : Bool

/-- No precedence counts as zero. -/
def comparePrecedence (left right : Option Int) : Ordering := compare (left.getD 0) (right.getD 0)

/-- Actions of a state under construction. -/
structure Acting where
  actions : Array (Array Action)
  infos : Array ReductionInfo
  conflicts : TokenSet

/-- Adds the completion of a production for one token. Of two completions the one with the
higher precedence stays. -/
def Acting.addReduction (acting : Acting) (action : Action) (precedence : Option Int)
    (associativity : Option Associativity) (token : Nat) : Acting :=
  let fresh : ReductionInfo := ⟨none, false, false, false⟩
  let note (info : ReductionInfo) : ReductionInfo :=
    match associativity with
    | some .left => { info with precedence, hasLeft := true }
    | some .right => { info with precedence, hasRight := true }
    | none => { info with precedence, hasNeither := true }
  let known := acting.actions.getD token #[]
  if known.isEmpty then
    { acting with
      actions := acting.actions.set! token #[action]
      infos := acting.infos.set! token (note fresh) }
  else
    let info := acting.infos.getD token fresh
    match comparePrecedence precedence info.precedence with
    | .gt =>
        { actions := acting.actions.set! token #[action]
          infos := acting.infos.set! token (note fresh)
          conflicts := acting.conflicts.erase token }
    | .eq =>
        { actions := acting.actions.modify token fun actions => actions.push action
          infos := acting.infos.set! token (note info)
          conflicts := acting.conflicts.insert token }
    | .lt => acting

/-- Adds the reading of a token. -/
def Acting.addShift (acting : Acting) (token state : Nat) : Acting :=
  let conflicts :=
    if (acting.actions.getD token #[]).isEmpty then acting.conflicts
    else acting.conflicts.insert token
  { acting with
    actions := acting.actions.modify token fun actions => actions.push (.shift state false)
    conflicts }

/-- The items that take part in a conflict over a token: those that can read it and those that
are complete before it. -/
def conflictingItems (table : ItemTable) (closed : Closing) (token : Nat) :
    List Nat × List Nat :=
  closed.items.size.fold
    (fun index _ (state : List Nat × List Nat) =>
      let item := closed.items.getD index 0
      let next := table.next.getD item 0
      if next = table.numbering.absent then
        if (closed.lookaheads.getD index .empty).contains token then (state.1, item :: state.2)
        else state
      else if 0 < table.mark.getD item 0 && (table.firstSets.getD next .empty).contains token then
        (item :: state.1, state.2)
      else state)
    ([], [])

/-- Decides between reading a token and completing productions before it. -/
def resolve (table : ItemTable) (closed : Closing) (info : ReductionInfo) (token : Nat)
    (actions : Array Action) : Array Action :=
  match actions.back? with
  | some (.shift state _) =>
      let (reading, complete) := conflictingItems table closed token
      let isDeclared (item : Nat) : Bool :=
        table.category.getD item 0 < table.numbering.categoryCount
      let categories := ((reading ++ complete).filter isDeclared).map fun item =>
        table.category.getD item 0
      let isRepetition := match categories with
        | [] => false
        | first :: rest => table.auxiliary.getD first false && rest.all (· = first)
      if isRepetition then actions.pop.push (.shift state true)
      else
        let comparisons := reading.map fun item =>
          comparePrecedence (table.precedence.getD item none) info.precedence
        let isMore := comparisons.contains .gt
        let isLess := comparisons.contains .lt
        if isMore && !isLess then #[.shift state false]
        else if isLess && !isMore then actions.pop
        else if !isLess && !isMore then
          if info.hasLeft && !info.hasNeither && !info.hasRight then actions.pop
          else if !info.hasLeft && !info.hasNeither && info.hasRight then #[.shift state false]
          else actions
        else actions
  | _ => actions

/-- The symbols in the order in which successor states are numbered. -/
def successorOrder (numbering : Numbering) : List Nat :=
  (List.range numbering.externalCount).map (· + numbering.terminalCount) ++
  [numbering.eof] ++ List.range numbering.terminalCount ++
  (List.range numbering.categoryCount).map (· + numbering.tokenCount)

/-- Indices into a closed set, by the symbol that comes next. -/
def indicesByNext (table : ItemTable) (closed : Closing) : Array (Array Nat) :=
  closed.items.size.fold
    (fun index _ (found : Array (Array Nat)) =>
      found.modify (table.next.getD (closed.items.getD index 0) 0) fun known => known.push index)
    (Array.replicate (table.numbering.symbolCount + 1) #[])

/-- The kernel that reading one symbol leads to. -/
def successorKernel (table : ItemTable) (closed : Closing) (indices : Array Nat) : ItemSet :=
  indices.foldl
    (fun set index =>
      set.insert table (closed.items.getD index 0 + 1) (closed.lookaheads.getD index .empty))
    ⟨#[], #[]⟩

/-- Completes the productions of a closed set before their lookaheads. -/
def addReductions (table : ItemTable) (closed : Closing) (complete : Array Nat)
    (acting : Acting) : Acting :=
  let ordered := complete.toList.mergeSort fun left right =>
    table.ranks.getD (closed.items.getD left 0) 0 ≤ table.ranks.getD (closed.items.getD right 0) 0
  ordered.foldl
    (fun acting index =>
      let item := closed.items.getD index 0
      let action := match table.reduction[item]? with
        | some reduction =>
            if reduction.category < table.numbering.categoryCount then
              Action.reduce reduction.category reduction.childCount reduction.dynamicPrecedence
                reduction.shape
            else .accept
        | none => .accept
      let precedence := table.precedence.getD item none
      let associativity := table.associativity.getD item none
      (closed.lookaheads.getD index .empty).fold table.numbering.tokenCount
        (fun acting token => acting.addReduction action precedence associativity token) acting)
    acting

/-- Completes one state: finds its successors and its actions. -/
def Construction.process (table : ItemTable) (extras order : List Nat)
    (construction : Construction) (number : Nat) : Construction :=
  let kernel := construction.kernels.getD number ⟨#[], #[]⟩
  let slots := construction.slots
  let construction := { construction with slots := #[] }
  let closed := kernel.closure table slots
  let slots := closed.slots
  let closed := { closed with slots := #[] }
  let numbering := table.numbering
  let byNext := indicesByNext table closed
  let fresh : ReductionInfo := ⟨none, false, false, false⟩
  let acting := addReductions table closed (byNext.getD numbering.absent #[])
    ⟨Array.replicate numbering.tokenCount #[], Array.replicate numbering.tokenCount fresh, .empty⟩
  let (construction, acting, successors) := order.foldl
    (fun (state : Construction × Acting × Array Nat) symbol =>
      let indices := byNext.getD symbol #[]
      if indices.isEmpty then state
      else
        let (construction, acting, successors) := state
        let (next, construction) :=
          construction.stateFor table (successorKernel table closed indices)
        if numbering.isCategory symbol then
          (construction, acting, successors.set! (symbol - numbering.tokenCount) next)
        else (construction, acting.addShift symbol next, successors))
    (construction, acting, Array.replicate numbering.categoryCount 0)
  let actions := acting.conflicts.fold numbering.tokenCount
    (fun (actions : Array (Array Action)) token =>
      actions.modify token (resolve table closed (acting.infos.getD token fresh) token))
    acting.actions
  let actions := extras.foldl
    (fun (actions : Array (Array Action)) token =>
      actions.modify token fun known => if known.isEmpty then #[.shiftExtra] else known)
    actions
  { construction with
    states := construction.states.push ⟨actions, successors, construction.coreOf.getD number 0⟩
    slots }

/-- Completes states in order of number until none is left. -/
def Construction.run (table : ItemTable) (extras order : List Nat) :
    Nat → Construction → Construction
  | 0, construction => construction
  | fuel + 1, construction =>
      if construction.states.size < construction.kernels.size then
        run table extras order fuel
          (construction.process table extras order construction.states.size)
      else construction

/-- The parse states of a grammar. State 0 is for recovery from errors and has no items; state 1
is the start. The bound on their number is far above what grammars need. -/
def parseStates (table : ItemTable) (extras : List Nat) : Array ParseState :=
  let empty : Construction :=
    ⟨#[], ∅, ∅, #[], #[], Array.replicate (table.rankCount + 1) 0⟩
  let (_, construction) := empty.stateFor table ⟨#[], #[]⟩
  let (_, construction) :=
    construction.stateFor table ⟨#[table.startItem], #[.singleton table.numbering.eof]⟩
  (construction.run table extras (successorOrder table.numbering) 1000000).states

end FunctionAtlas.Automaton
