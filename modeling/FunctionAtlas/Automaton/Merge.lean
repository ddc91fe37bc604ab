import FunctionAtlas.Automaton.Keywords

/-!
Contract: fewer parse states with the same behaviour on correct texts.

States with the same items are united when their actions agree and the tokens that each would
gain cannot disturb the lexing of the other. Then states that only rename one symbol are
bypassed, unused states are dropped, and the rest are ordered by size.

Owns: the partition of states and the three clean-up steps.
-/

namespace FunctionAtlas.Automaton

open FunctionAtlas.Grammar

/-- A partition of the states. -/
structure Partition where
  groups : Array (Array Nat)
  groupOf : Array Nat

/-- The start: one group for every core. -/
def Partition.ofCores (states : Array ParseState) : Partition :=
  let coreCount := states.foldl (fun count state => max count (state.core + 1)) 0
  states.size.fold
    (fun index _ (partition : Partition) =>
      let core := (states[index]?.map (·.core)).getD 0
      { groups := partition.groups.modify core (·.push index)
        groupOf := partition.groupOf.push core })
    ⟨Array.replicate coreCount #[], #[]⟩

/-- Marks the members of a group that some earlier unmarked member disagrees with. -/
def markSplit (members : Array Nat) (differ : Nat → Nat → Bool) : Array Bool :=
  members.size.fold
    (fun left _ (marks : Array Bool) =>
      if marks.getD left false then marks
      else
        members.size.fold
          (fun right _ (marks : Array Bool) =>
            if right ≤ left || marks.getD right false then marks
            else if differ (members.getD left 0) (members.getD right 0) then
              marks.set! right true
            else marks)
          marks)
    (Array.replicate members.size false)

/-- Splits the members of one group off that disagree with those before them. -/
def Partition.splitGroup (partition : Partition) (group : Nat)
    (differ : Array Nat → Nat → Nat → Bool) : Partition × Bool :=
  let members := partition.groups.getD group #[]
  if members.size ≤ 1 then (partition, false)
  else
    let marks := markSplit members (differ partition.groupOf)
    if marks.contains true then
      let pairs := members.zip marks
      let staying := (pairs.filter fun pair => !pair.2).map (·.1)
      let leaving := (pairs.filter fun pair => pair.2).map (·.1)
      let fresh := partition.groups.size
      ( { groups := (partition.groups.set! group staying).push leaving
          groupOf := leaving.foldl (fun groupOf state => groupOf.set! state fresh)
            partition.groupOf }
      , true )
    else (partition, false)

/-- Splits all groups once, new groups included. -/
def Partition.splitAll (differ : Array Nat → Nat → Nat → Bool) :
    Nat → Nat → Partition → Bool → Partition × Bool
  | 0, _, partition, changed => (partition, changed)
  | fuel + 1, group, partition, changed =>
      if group < partition.groups.size then
        let (partition, split) := partition.splitGroup group differ
        splitAll differ fuel (group + 1) partition (changed || split)
      else (partition, changed)

/-- Splits until nothing changes. -/
def Partition.refine (differ : Array Nat → Nat → Nat → Bool) (bound : Nat) :
    Nat → Partition → Partition
  | 0, partition => partition
  | fuel + 1, partition =>
      let (partition, changed) := partition.splitAll differ bound 0 false
      if changed then refine differ bound fuel partition else partition

/-- Whether two states do different things with the same token. -/
def actionsDiffer (groupOf : Array Nat) (left right : Array Action) : Bool :=
  left.size != right.size ||
  (left.zip right).any fun pair =>
    match pair with
    | (.shift leftState leftRepetition, .shift rightState rightRepetition) =>
        groupOf.getD leftState 0 != groupOf.getD rightState 0 ||
          leftRepetition != rightRepetition
    | (leftAction, rightAction) => leftAction ≠ rightAction

/-- For every token, the terminals whose lexing it would disturb, and whether a state must not
gain it at all because the layout scanner knows it. -/
structure Disturbance where
  terminals : Array TokenSet
  scanned : TokenSet

def Disturbance.ofGrammar (grammar : Prepared) (numbering : Numbering)
    (conflicts : ConflictTable) (keywords : TokenSet) : Disturbance :=
  let isExempt (token other : Nat) : Bool :=
    (token = grammar.word && keywords.contains other) ||
      (other = grammar.word && keywords.contains token)
  { terminals := (Array.range numbering.terminalCount).map fun token =>
      TokenSet.ofList ((List.range numbering.terminalCount).filter fun other =>
        !isExempt token other &&
          (conflicts.conflicts token other || conflicts.matchesSame token other))
    scanned := TokenSet.ofList
      ((List.range numbering.externalCount).map (· + numbering.terminalCount) ++
        grammar.externals.toList.filterMap (·.internal)) }

/-- Whether a state with the given tokens must not gain another one. -/
def Disturbance.forbids (disturbance : Disturbance) (tokens : TokenSet) (added : Nat) : Bool :=
  if disturbance.scanned.contains added then true
  else
    let disturbed := disturbance.terminals.getD added .empty
    disturbed.low &&& tokens.low != 0 || disturbed.high &&& tokens.high != 0

/-- Whether two states cannot be one: they act differently on a token, or one would gain a token
that disturbs the other. -/
def statesConflict (disturbance : Disturbance) (tokenCount : Nat) (states : Array ParseState)
    (tokens : Array TokenSet) (groupOf : Array Nat) (left right : Nat) : Bool :=
  let leftTokens := tokens.getD left .empty
  let rightTokens := tokens.getD right .empty
  let noActions : Array (Array Action) := #[]
  let leftActions := (states[left]?.map (·.actions)).getD noActions
  let rightActions := (states[right]?.map (·.actions)).getD noActions
  tokenCount.any fun token _ =>
    let inLeft := leftTokens.contains token
    let inRight := rightTokens.contains token
    if inLeft then
      if inRight then
        actionsDiffer groupOf (leftActions.getD token #[]) (rightActions.getD token #[])
      else disturbance.forbids rightTokens token
    else inRight && disturbance.forbids leftTokens token

/-- The states that a state leads to: by token if the last action reads it, then by category. -/
def ParseState.targets (state : ParseState) : Array Nat :=
  (state.actions.map fun actions =>
    match actions.back? with
    | some (.shift next _) => next
    | _ => 0) ++ state.successors

/-- Whether two states lead to states of different groups. -/
def targetsDiffer (targets : Array (Array Nat)) (groupOf : Array Nat) (left right : Nat) : Bool :=
  let leftTargets := targets.getD left #[]
  let rightTargets := targets.getD right #[]
  leftTargets.size.any fun index _ =>
    let leftTarget := leftTargets.getD index 0
    let rightTarget := rightTargets.getD index 0
    leftTarget != 0 && rightTarget != 0 &&
      groupOf.getD leftTarget 0 != groupOf.getD rightTarget 0

/-- Renumbers the states that a state refers to. -/
def ParseState.renumber (rename : Nat → Nat) (state : ParseState) : ParseState :=
  { state with
    actions := state.actions.map fun actions => actions.map fun action =>
      match action with
      | .shift next isRepetition => .shift (rename next) isRepetition
      | other => other
    successors := state.successors.map fun next => if next = 0 then 0 else rename next }

/-- Takes over the actions and successors of another state, which win where both have some. -/
def ParseState.extend (state other : ParseState) : ParseState :=
  { state with
    actions := state.actions.zipWith
      (fun known added => if added.isEmpty then known else added) other.actions
    successors := state.successors.zipWith
      (fun known added => if added = 0 then known else added) other.successors }

/-- Unites compatible states. -/
def mergeCompatible (disturbance : Disturbance) (tokenCount : Nat) (states : Array ParseState) :
    Array ParseState :=
  let tokens := states.map (·.tokens)
  let targets := states.map (·.targets)
  let bound := 2 * states.size + 2
  let start := Partition.ofCores states
  let (partition, _) :=
    start.splitAll (statesConflict disturbance tokenCount states tokens) bound 0 false
  let partition := partition.refine (targetsDiffer targets) bound bound
  let empty : ParseState := ⟨#[], #[], 0⟩
  partition.groups.map fun group =>
    let first := states.getD (group.getD 0 0) empty
    let whole := (group.toList.drop 1).foldl
      (fun (whole : ParseState) index => whole.extend (states.getD index empty)) first
    whole.renumber fun state => partition.groupOf.getD state 0

/-- The category that a state does nothing but complete from a single child, if completing it
leaves no trace. -/
def unitCategory (isTraceless : Nat → Bool) (state : ParseState) : Option Nat :=
  let actions := state.actions.toList.flatMap (·.toList)
  let units := actions.map fun action =>
    match action with
    | .shiftExtra => some none
    | .reduce category 1 0 0 => if isTraceless category then some (some category) else none
    | _ => none
  if units.any Option.isNone then none
  else
    match units.filterMap (·.join) with
    | [] => none
    | first :: rest => if rest.all (· = first) then some first else none

/-- Follows states that only complete a traceless category. -/
def bypass (units : Array (Option Nat)) (state : ParseState) : Nat → Nat → Nat
  | 0, next => next
  | fuel + 1, next =>
      match units.getD next none with
      | none => next
      | some category =>
          let after := state.successors.getD category 0
          if after = 0 then next else bypass units state fuel after

/-- Whether nodes of a category vanish without a trace: not named, not a supertype, never shown
under another name. -/
def isTraceless (grammar : Prepared) (category : Nat) : Bool :=
  let isRenamed := grammar.categories.any fun owner =>
    owner.productions.any fun production =>
      production.steps.any fun step =>
        step.symbol = .nonterminal category && step.rename.isSome
  let isNamed := match grammar.categories[category]? with
    | some found => found.kind = .named
    | none => true
  !isRenamed && !isNamed && !grammar.supertypes.contains category &&
    !grammar.defaultNames.any (·.1 = .nonterminal category)

/-- Bypasses all states that only complete a traceless category. -/
def removeUnits (grammar : Prepared) (states : Array ParseState) : Array ParseState :=
  let traceless := (Array.range grammar.categories.size).map (isTraceless grammar)
  let units := states.map (unitCategory fun category => traceless.getD category false)
  states.map fun state => state.renumber (bypass units state 100)

/-- Keeps the states with the given old numbers, in this order. -/
def selectStates (states : Array ParseState) (order : List Nat) : Array ParseState :=
  let numbers : Array Nat := (order.zipIdx).foldl
    (fun (numbers : Array Nat) (old, fresh) => numbers.set! old fresh)
    (Array.replicate states.size 0)
  let empty : ParseState := ⟨#[], #[], 0⟩
  (order.map fun old =>
    (states.getD old empty).renumber fun next => numbers.getD next 0).toArray

/-- Drops states that no state refers to, apart from the first two. -/
def removeUnused (states : Array ParseState) : Array ParseState :=
  let used : Array Bool := states.foldl
    (fun (used : Array Bool) state =>
      let used := state.actions.foldl
        (fun (used : Array Bool) actions => actions.foldl
          (fun (used : Array Bool) action =>
            match action with
            | .shift next _ => used.set! next true
            | _ => used)
          used)
        used
      state.successors.foldl
        (fun (used : Array Bool) next => if next = 0 then used else used.set! next true) used)
    (Array.replicate states.size false)
  selectStates states
    ((List.range states.size).filter fun number => number < 2 || used.getD number false)

/-- The number of symbols that a state knows. -/
def ParseState.weight (state : ParseState) : Nat :=
  (state.actions.filter fun actions => !actions.isEmpty).size +
    (state.successors.filter (· ≠ 0)).size

/-- Orders the states by decreasing size, apart from the first two. -/
def orderBySize (states : Array ParseState) : Array ParseState :=
  let weights := states.map (·.weight)
  let sorted := ((List.range states.size).drop 2).mergeSort fun left right =>
    weights.getD right 0 ≤ weights.getD left 0
  selectStates states ([0, 1] ++ sorted)

/-- The final parse states. -/
def minimizeStates (grammar : Prepared) (numbering : Numbering) (disturbance : Disturbance)
    (states : Array ParseState) : Array ParseState :=
  orderBySize (removeUnused (removeUnits grammar
    (mergeCompatible disturbance numbering.tokenCount states)))

end FunctionAtlas.Automaton
