import FunctionAtlas.Parse.Stack

/-!
Contract: the parser.

All versions of the stack read the text in step. Where the table has several actions, versions
are added; where versions meet, they are joined; where all are stuck, the best one is repaired,
either by putting in a token or by leaving out text until a state fits that the version has gone
through. The tree with the cheapest repairs wins.

Every loop is bounded by a number that grows with the text. Texts of any length are parsed
completely within these bounds, as each round of the outer loop reads a token or ends a version.

Owns: actions, repairs, the comparison of versions, and the outer loop.
-/

namespace FunctionAtlas.Parse

open FunctionAtlas.Text
open FunctionAtlas.Automaton (Table Action)

/-! ## State -/

/-- The last token read, with the place and the scanner memory it was read at. -/
structure CachedToken where
  token : Subtree
  bytes : Nat
  layout : Option Layout

structure Parser where
  stack : Stack
  finished : Option Subtree
  acceptCount : Nat
  cache : Option CachedToken
  /-- The flag that the layout scanner keeps before its first token. -/
  insideFormat : Bool

/-- What stays fixed during a parse. -/
structure Setting where
  table : Table
  source : Array Char

abbrev ParseM := StateM Parser

/-- At most this many versions survive a round. -/
def maxVersions : Nat := 6

/-- This many more may exist within a round. -/
def versionOverflow : Nat := 4

/-- Repairs go back over at most this many trees. -/
def maxPastDepth : Nat := 16

/-- A version whose repairs cost this much more than those of another is given up. -/
def maxCostDifference : Nat := 18 * costPerSkippedNode

def getStack : ParseM Stack := do return (← get).stack

def setStack (stack : Stack) : ParseM Unit := modify fun parser => { parser with stack }

def modifyStack (change : Stack → Stack) : ParseM Unit :=
  modify fun parser => { parser with stack := change parser.stack }

def pushTree (version : Nat) (tree : Option Subtree) (state : Nat) : ParseM Unit :=
  modifyStack fun stack => stack.push version tree state

/-! ## Comparing versions -/

/-- How promising a version is. -/
structure VersionStatus where
  cost : Nat
  nodeCount : Nat
  dynamicPrecedence : Int
  isInError : Bool

inductive Comparison where
  | takeLeft
  | preferLeft
  | neither
  | preferRight
  | takeRight
deriving DecidableEq

/-- Compares two versions. A version without an error at hand goes before one with an error; then
the cost of repairs decides, the more clearly the more has been read since; then precedence. -/
def compareVersions (left right : VersionStatus) : Comparison :=
  if !left.isInError && right.isInError then
    if left.cost < right.cost then .takeLeft else .preferLeft
  else if left.isInError && !right.isInError then
    if right.cost < left.cost then .takeRight else .preferRight
  else if left.cost < right.cost then
    if maxCostDifference < (right.cost - left.cost) * (1 + left.nodeCount) then .takeLeft
    else .preferLeft
  else if right.cost < left.cost then
    if maxCostDifference < (left.cost - right.cost) * (1 + right.nodeCount) then .takeRight
    else .preferRight
  else if right.dynamicPrecedence < left.dynamicPrecedence then .preferLeft
  else if left.dynamicPrecedence < right.dynamicPrecedence then .preferRight
  else .neither

def countSinceError (version : Nat) : ParseM Nat := do
  let (count, stack) := (← getStack).countSinceError version
  setStack stack
  return count

def versionStatus (version : Nat) : ParseM VersionStatus := do
  let count ← countSinceError version
  let stack ← getStack
  let isPaused := stack.isPaused version
  return {
    cost := stack.errorCost version + (if isPaused then costPerSkippedNode else 0)
    nodeCount := count
    dynamicPrecedence := (stack.top version).dynamicPrecedence
    isInError := isPaused || stack.state version = 0 }

/-- Looks for a version that makes a given one with a given cost pointless. -/
def betterAmong (version : Nat) (status : VersionStatus) (position : Extent) :
    List Nat → ParseM Bool
  | [] => return false
  | other :: rest => do
      let stack ← getStack
      if other = version || !stack.isActive other ||
          (stack.position other).bytes < position.bytes then
        betterAmong version status position rest
      else
        let otherStatus ← versionStatus other
        match compareVersions status otherStatus with
        | .takeRight => return true
        | .preferRight =>
            if (← getStack).canMerge other version then return true
            else betterAmong version status position rest
        | _ => betterAmong version status position rest

/-- Whether a repair of the given cost is pointless. -/
def betterExists (version cost : Nat) : ParseM Bool := do
  let parser ← get
  let isBeaten := parser.finished.any fun tree => tree.errorCost ≤ cost
  if isBeaten then return true
  else
    let count ← countSinceError version
    let stack ← getStack
    let status : VersionStatus :=
      ⟨cost, count, (stack.top version).dynamicPrecedence, false⟩
    betterAmong version status (stack.position version) (List.range stack.versionCount)

/-! ## Actions -/

/-- Reads a token. -/
def shift (version state : Nat) (lookahead : Subtree) (isExtra : Bool) : ParseM Unit := do
  let tree := if isExtra = lookahead.isExtra then lookahead else lookahead.setExtra isExtra
  pushTree version (some tree) state
  match tree.summary.lastLayout with
  | some layout =>
      modifyStack fun stack =>
        stack.modifyHead version fun head => { head with layout := some layout }
  | none => return ()

/-- Takes the slices of the same version as the first one off a list. -/
def sameVersion (version : Nat) : List Slice → List Slice × List Slice
  | [] => ([], [])
  | slice :: rest =>
      if slice.version = version then
        let (same, others) := sameVersion version rest
        (slice :: same, others)
      else ([], slice :: rest)

/-- The best parent over several lists of children, with the extras that come after it. -/
def bestParent (table : Table) (symbol shape : Nat) (first : List Subtree)
    (others : List Slice) : Subtree × List Subtree :=
  let (children, extras) := Subtree.splitTrailingExtras first
  others.foldl
    (fun (best : Subtree × List Subtree) slice =>
      let (children, extras) := Subtree.splitTrailingExtras slice.trees
      if best.1.isWorseThan (Subtree.make table symbol children 0) then
        (Subtree.make table symbol children shape, extras)
      else best)
    (Subtree.make table symbol children shape, extras)

/-- Joins a version into the first earlier one that it fits, other than `except`. -/
def mergeIntoEarlier (except version : Nat) : List Nat → Stack → Option Stack
  | [], _ => none
  | earlier :: rest, stack =>
      if earlier = except then mergeIntoEarlier except version rest stack
      else
        match stack.merge? earlier version with
        | some merged => some merged
        | none => mergeIntoEarlier except version rest stack

/-- What completing a production needs to know. -/
structure Completion where
  symbol : Nat
  childCount : Nat
  dynamicPrecedence : Int
  shape : Nat

/-- Completes a production over each group of slices that end at the same node. -/
def completeSlices (setting : Setting) (version : Nat) (completion : Completion) :
    Nat → Nat → List Slice → ParseM Unit
  | 0, _, _ => return ()
  | _ + 1, _, [] => return ()
  | fuel + 1, removed, slice :: rest => do
      let (same, others) := sameVersion slice.version rest
      let sliceVersion := slice.version - removed
      if maxVersions + versionOverflow < sliceVersion then
        modifyStack fun stack => stack.remove sliceVersion
        completeSlices setting version completion fuel (removed + 1) others
      else
        let (parent, extras) :=
          bestParent setting.table completion.symbol completion.shape slice.trees same
        let parent := parent.addDynamicPrecedence completion.dynamicPrecedence
        let stack ← getStack
        let next := nextState setting.table (stack.state sliceVersion) completion.symbol
        let stack := stack.push sliceVersion (some parent) next
        let stack := extras.foldl (fun stack extra => stack.push sliceVersion (some extra) next)
          stack
        match mergeIntoEarlier version sliceVersion (List.range sliceVersion) stack with
        | some merged =>
            setStack merged
            completeSlices setting version completion fuel (removed + 1) others
        | none =>
            setStack stack
            completeSlices setting version completion fuel removed others

/-- Completes a production on top of a version. The result is the first version that this made,
unless all were joined into others. -/
def reduce (setting : Setting) (version : Nat) (completion : Completion) :
    ParseM (Option Nat) := do
  let stack ← getStack
  let before := stack.versionCount
  let (slices, popped) := stack.popCount version completion.childCount
  setStack popped
  completeSlices setting version completion (slices.length + 1) 0 slices
  return if before < (← getStack).versionCount then some before else none

/-- The trees of a finished stack under one root: the last tree that is no extra takes in
everything around it. A token cannot do so. -/
def rootOf (table : Table) (trees : List Subtree) : Option Subtree :=
  let reversed := trees.reverse
  let after := (reversed.takeWhile (·.isExtra)).reverse
  match reversed.dropWhile (·.isExtra) with
  | [] => none
  | tree :: before =>
      if tree.children.isEmpty && 0 < tree.totalSize.bytes then none
      else
        some (Subtree.make table tree.symbol (before.reverse ++ tree.children ++ after)
          tree.summary.shape)

/-- Ends a version at the end of the text. -/
def accept (setting : Setting) (version : Nat) (lookahead : Subtree) : ParseM Unit := do
  pushTree version (some lookahead) 1
  let (slices, stack) := (← getStack).popAll version
  let made := slices.filterMap fun slice => rootOf setting.table slice.trees
  let stack := match slices with
    | slice :: _ => stack.remove slice.version
    | [] => stack
  modify fun parser =>
    { parser with
      stack := stack.halt version
      acceptCount := parser.acceptCount + made.length
      finished := made.foldl
        (fun finished root =>
          match finished with
          | none => some root
          | some known => if known.isWorseThan root then some root else some known)
        parser.finished }

/-! ## Repairs -/

/-- The productions that a state can complete before one of the given tokens, and whether it can
read one of them. -/
def completionsFor (setting : Setting) (state : Nat) (symbols : List Nat) :
    Bool × List Completion :=
  symbols.foldl
    (fun (found : Bool × List Completion) symbol =>
      (actionsFor setting.table state symbol).foldl
        (fun (found : Bool × List Completion) action =>
          match action with
          | .shift _ isRepetition => (found.1 || !isRepetition, found.2)
          | .recover => (true, found.2)
          | .reduce category childCount dynamicPrecedence shape =>
              let symbol := setting.table.tokenCount + category
              if childCount = 0 ||
                  found.2.any fun known =>
                    known.symbol = symbol && known.childCount = childCount then found
              else (found.1, found.2 ++ [⟨symbol, childCount, dynamicPrecedence, shape⟩])
          | _ => found)
        found)
    (false, [])

/-- Joins a version into one of the versions made since `first`. -/
def mergeIntoMade (first version : Nat) (stack : Stack) : Option Stack :=
  mergeIntoEarlier version version ((List.range version).drop first) stack

/-- Completes productions as long as possible, whatever the next token (`lookahead = 0`) or before
a given one. The result says whether that token can then be read. -/
def completeAll (setting : Setting) (starting first lookahead : Nat) :
    Nat → Nat → Nat → Bool → ParseM Bool
  | 0, _, _, canShift => return canShift
  | fuel + 1, round, version, canShift => do
      let stack ← getStack
      let count := stack.versionCount
      if count ≤ version then return canShift
      else
        match mergeIntoMade first version stack with
        | some merged =>
            setStack merged
            completeAll setting starting first lookahead fuel (round + 1) version canShift
        | none =>
            let symbols :=
              if lookahead = 0 then (List.range setting.table.tokenCount).drop 1
              else [lookahead]
            let (hasShift, completions) :=
              completionsFor setting (stack.state version) symbols
            let made ← completions.foldlM
              (fun _ completion => reduce setting version completion) (none : Option Nat)
            let following := if version = starting then count else version + 1
            if hasShift then
              completeAll setting starting first lookahead fuel (round + 1) following true
            else
              match made with
              | some reduced =>
                  if round < maxVersions then
                    modifyStack fun stack => stack.renumber reduced version
                    completeAll setting starting first lookahead fuel (round + 1) version
                      canShift
                  else
                    if lookahead ≠ 0 then modifyStack fun stack => stack.remove version
                    completeAll setting starting first lookahead fuel (round + 1) following
                      canShift
              | none =>
                  if lookahead ≠ 0 then modifyStack fun stack => stack.remove version
                  completeAll setting starting first lookahead fuel (round + 1) following
                    canShift

/-- Completes productions from one version on. -/
def completeFrom (setting : Setting) (version lookahead : Nat) : ParseM Bool := do
  let count := (← getStack).versionCount
  completeAll setting version count lookahead 10000 0 version false

/-- Tries to put in one of the given tokens so that the next token fits after it. -/
def insertMissing (setting : Setting) (version lookahead : Nat) : List Nat → ParseM Bool
  | [] => return false
  | symbol :: rest => do
      let stack ← getStack
      let state := stack.state version
      let after := nextState setting.table state symbol
      let startsCompletion := match (actionsFor setting.table after lookahead)[0]? with
        | some (.reduce _ _ _ _) => true
        | _ => false
      if after = 0 || after = state || !startsCompletion then
        insertMissing setting version lookahead rest
      else
        let (copied, stack) := stack.copy version
        setStack (stack.push copied (some (.missingLeaf setting.table symbol)) after)
        if ← completeFrom setting copied lookahead then return true
        else insertMissing setting version lookahead rest

/-- Marks the error on all versions that the completions made, after trying to put in a token. -/
def markErrors (setting : Setting) (version previous count lookahead : Nat) :
    Nat → Nat → Bool → ParseM Unit
  | 0, _, _ => return ()
  | fuel + 1, current, inserted => do
      if count ≤ current then return ()
      else
        let candidates := (List.range setting.table.tokenCount).drop 1
        let inserted ←
          if inserted then pure true else insertMissing setting current lookahead candidates
        pushTree current none 0
        let next := if current = version then previous else current + 1
        markErrors setting version previous count lookahead fuel next inserted

/-- Goes back to a state that a version has gone through, wrapping what came after it. -/
def recoverSlices (setting : Setting) (goal : Nat) :
    Option Nat → List Slice → ParseM Bool
  | done, [] => return done.isSome
  | done, slice :: rest => do
      if done = some slice.version then recoverSlices setting goal done rest
      else if (← getStack).state slice.version ≠ goal then
        modifyStack fun stack => stack.halt slice.version
        recoverSlices setting goal done rest
      else
        let (error, stack) := (← getStack).popError slice.version
        setStack stack
        let trees := match error with
          | some error => error.children ++ slice.trees
          | none => slice.trees
        let (wrapped, extras) := Subtree.splitTrailingExtras trees
        if !wrapped.isEmpty then
          pushTree slice.version (some (.errorNode setting.table wrapped true)) goal
        modifyStack fun stack =>
          extras.foldl (fun stack extra => stack.push slice.version (some extra) goal) stack
        recoverSlices setting goal (some slice.version) rest

def recoverToState (setting : Setting) (version depth goal : Nat) : ParseM Bool := do
  let (slices, stack) := (← getStack).popCount version depth
  setStack stack
  recoverSlices setting goal none slices

/-- Tries the states that a version has gone through, for one in which the next token is valid. -/
def recoverToPast (setting : Setting) (version previous count cost : Nat)
    (lookahead : Subtree) : List PastState → ParseM Bool
  | [] => return false
  | past :: rest => do
      let stack ← getStack
      let position := stack.position version
      let wouldMerge := (List.range previous).any fun other =>
        stack.state other = past.state &&
          (stack.position other).bytes = position.bytes
      if past.state = 0 || past.position.bytes = position.bytes || wouldMerge then
        recoverToPast setting version previous count cost lookahead rest
      else
        let newCost := cost + past.depth * costPerSkippedNode +
          (position.bytes - past.position.bytes) +
          (position.rows - past.position.rows) * costPerSkippedLine
        if ← betterExists version newCost then return false
        else if (actionsFor setting.table past.state lookahead.symbol).isEmpty then
          recoverToPast setting version previous count cost lookahead rest
        else
          let depth := if 0 < count then past.depth + 1 else past.depth
          if ← recoverToState setting version depth past.state then return true
          else recoverToPast setting version previous count cost lookahead rest

/-- Removes versions from a number on that are not active. -/
def removeInactive : Nat → Nat → ParseM Unit
  | 0, _ => return ()
  | fuel + 1, version => do
      let stack ← getStack
      if stack.versionCount ≤ version then return ()
      else if stack.isActive version then removeInactive fuel (version + 1)
      else
        setStack (stack.remove version)
        removeInactive fuel version

/-- Removes all versions after a number. -/
def truncateVersions (count : Nat) (stack : Stack) : Stack :=
  { stack with heads := stack.heads.take count }

/-- Leaves out the next token, together with what has been left out before it. -/
def skipToken (setting : Setting) (version count : Nat) (lookahead : Subtree) :
    ParseM Unit := do
  let isExtra := match (actionsFor setting.table 1 lookahead.symbol).back? with
    | some .shiftExtra => true
    | _ => false
  let lookahead := if isExtra then lookahead.setExtra true else lookahead
  let alone := Subtree.make setting.table Table.skippedSymbol [lookahead] 0
  let skipped ←
    if 0 < count then
      let (slices, stack) := (← getStack).popCount version 1
      match slices with
      | [] =>
          setStack stack
          pure alone
      | slice :: others =>
          let stack :=
            if others.isEmpty then stack else truncateVersions (slice.version + 1) stack
          setStack (stack.renumber slice.version version)
          pure (Subtree.make setting.table Table.skippedSymbol (slice.trees ++ [alone]) 0)
    else pure alone
  pushTree version (some skipped) 0
  match lookahead.summary.lastLayout with
  | some layout =>
      modifyStack fun stack =>
        stack.modifyHead version fun head => { head with layout := some layout }
  | none => return ()

/-- Repairs a version in the recovery state: go back to an earlier state that fits the next token
and, besides, leave that token out. -/
def recover (setting : Setting) (version : Nat) (lookahead : Subtree) : ParseM Unit := do
  let previous := (← getStack).versionCount
  let count ← countSinceError version
  let stack ← getStack
  let cost := stack.errorCost version
  let didRecover ← match (stack.head version).past with
    | some past =>
        if lookahead.isError then pure false
        else recoverToPast setting version previous count cost lookahead past
    | none => pure false
  removeInactive ((← getStack).versionCount + 1) previous
  let stack ← getStack
  if didRecover &&
      (maxVersions < stack.versionCount || lookahead.summary.changesLayout) then
    setStack (stack.halt version)
  else if lookahead.isEnd then
    pushTree version (some (.errorNode setting.table [] false)) 1
    accept setting version lookahead
  else
    let total := lookahead.totalSize
    let newCost := cost + costPerSkippedNode + total.bytes + total.rows * costPerSkippedLine
    if ← betterExists version newCost then
      modifyStack fun stack => stack.halt version
    else skipToken setting version count lookahead

/-- Joins the versions that the completions made into the one that met the error. -/
def mergeMarked (version previous : Nat) : Nat → ParseM Unit
  | 0 => return ()
  | count + 1 => do
      match (← getStack).merge? version previous with
      | some merged => setStack merged
      | none => return ()
      mergeMarked version previous count

/-- Begins the repair of a version that no action fits. -/
def handleError (setting : Setting) (version : Nat) (lookahead : Subtree) : ParseM Unit := do
  let previous := (← getStack).versionCount
  let _ ← completeFrom setting version 0
  let count := (← getStack).versionCount
  markErrors setting version previous count lookahead.symbol (count + 2) version false
  mergeMarked version previous (count - previous)
  modifyStack fun stack => stack.recordPast version maxPastDepth
  recover setting version lookahead

/-! ## Moving on -/

/-- The last token, if it is valid for a state at the same place. -/
def cachedToken (setting : Setting) (version : Nat) : ParseM (Option Subtree) := do
  let parser ← get
  let stack := parser.stack
  let state := stack.state version
  match parser.cache with
  | none => return none
  | some cached =>
      if cached.bytes = (stack.position version).bytes &&
          cached.layout = (stack.head version).layout then
        let token := cached.token
        let sameLexing := match setting.table.states[state]?,
            setting.table.states[token.summary.parseState]? with
          | some here, some there => here.mode = there.mode && here.scanned = there.scanned
          | _, _ => false
        let isReusable := !(actionsFor setting.table state token.symbol).isEmpty && sameLexing &&
          (token.symbol ≠ Table.wordSymbol ||
            (!token.summary.isKeyword && token.summary.parseState = state))
        return if isReusable then some token else none
      else return none

/-- Reads the next token for a version. -/
def lexFor (setting : Setting) (version : Nat) : ParseM Subtree := do
  let parser ← get
  let stack := parser.stack
  let context : LexContext :=
    { table := setting.table
      source := setting.source
      state := stack.state version
      origin := stack.position version
      layout := (stack.head version).layout
      hasAdvanced := stack.hasAdvanced version }
  let result := lex context parser.insideFormat
  set { parser with
    insideFormat := result.insideFormat
    cache := some ⟨result.token, context.origin.bytes, context.layout⟩ }
  return result.token

/-- What the actions for a token came to. -/
inductive Outcome where
  /-- The version has read the token or ended. -/
  | done
  /-- Productions were completed; the first version that they made, if it is still there. -/
  | reduced (made : Option Nat)
  /-- There was no action. -/
  | stuck

/-- Performs the actions for a token in order. -/
def performActions (setting : Setting) (version state : Nat) (lookahead : Subtree) :
    List Action → Bool → Option Nat → ParseM Outcome
  | [], didReduce, made => return if didReduce then .reduced made else .stuck
  | action :: rest, didReduce, made => do
      match action with
      | .shift next isRepetition =>
          if isRepetition then
            performActions setting version state lookahead rest didReduce made
          else
            shift version next lookahead false
            return .done
      | .shiftExtra =>
          shift version state lookahead true
          return .done
      | .reduce category childCount dynamicPrecedence shape =>
          let reduced ← reduce setting version
            ⟨setting.table.tokenCount + category, childCount, dynamicPrecedence, shape⟩
          performActions setting version state lookahead rest true (reduced.or made)
      | .accept =>
          accept setting version lookahead
          return .done
      | .recover =>
          recover setting version lookahead
          return .done

/-- Processes one token on a version: completes productions until the token is read or no action
is left. -/
def processToken (setting : Setting) (version : Nat) : Nat → Subtree → ParseM Unit
  | 0, _ => modifyStack fun stack => stack.halt version
  | fuel + 1, lookahead => do
      let state := (← getStack).state version
      let actions := actionsFor setting.table state lookahead.symbol
      match ← performActions setting version state lookahead actions.toList false none with
      | .done => return ()
      | .reduced (some made) =>
          modifyStack fun stack => stack.renumber made version
          processToken setting version fuel lookahead
      | .reduced none => modifyStack fun stack => stack.halt version
      | .stuck =>
          if lookahead.summary.isKeyword && lookahead.symbol ≠ Table.wordSymbol &&
              !(actionsFor setting.table state Table.wordSymbol).isEmpty then
            processToken setting version fuel
              (lookahead.withSymbol setting.table Table.wordSymbol)
          else if state = 0 then recover setting version lookahead
          else modifyStack fun stack => stack.pause version lookahead

/-- Lets a version read one token. -/
def advance (setting : Setting) (version : Nat) : ParseM Unit := do
  let lookahead ← match ← cachedToken setting version with
    | some token => pure token
    | none => lexFor setting version
  processToken setting version (100 * (setting.source.size + 100)) lookahead

/-! ## Rounds -/

/-- Compares a version with the earlier ones: removes the worse, joins what fits, and keeps the
better in front. The version is judged by its status before the comparison. The result is the
number of the next version to look at. -/
def condenseAgainst (right : VersionStatus) : Nat → Nat → Nat → ParseM Nat
  | 0, version, _ => return version + 1
  | fuel + 1, version, earlier => do
      if version ≤ earlier then return version + 1
      else
        let left ← versionStatus earlier
        match compareVersions left right with
        | .takeLeft =>
            modifyStack fun stack => stack.remove version
            return version
        | .preferLeft | .neither =>
            match (← getStack).merge? earlier version with
            | some merged =>
                setStack merged
                return version
            | none => condenseAgainst right fuel version (earlier + 1)
        | .preferRight =>
            match (← getStack).merge? earlier version with
            | some merged =>
                setStack merged
                return version
            | none =>
                modifyStack fun stack => stack.swap version earlier
                condenseAgainst right fuel version (earlier + 1)
        | .takeRight =>
            modifyStack fun stack => stack.remove earlier
            condenseAgainst right fuel (version - 1) earlier

/-- Condenses all versions from a number on; the result is the lowest cost of a version without
an error at hand. -/
def condenseFrom : Nat → Nat → Option Nat → ParseM (Option Nat)
  | 0, _, lowest => return lowest
  | fuel + 1, version, lowest => do
      let stack ← getStack
      if stack.versionCount ≤ version then return lowest
      else if stack.isHalted version then
        setStack (stack.remove version)
        condenseFrom fuel version lowest
      else
        let status ← versionStatus version
        let lowest :=
          if status.isInError then lowest
          else some (min status.cost (lowest.getD status.cost))
        let next ← condenseAgainst status (2 * stack.versionCount + 2) version 0
        condenseFrom fuel next lowest

/-- Resumes the best paused version if no other version is before it, and removes the other
paused ones. -/
def resumeFrom (setting : Setting) : Nat → Nat → Nat → Bool → Option Nat → ParseM (Option Nat)
  | 0, _, _, _, lowest => return lowest
  | fuel + 1, version, count, hasActive, lowest => do
      if count ≤ version then return lowest
      else
        let parser ← get
        let stack := parser.stack
        match (stack.head version).status with
        | .paused lookahead =>
            if !hasActive && parser.acceptCount < maxVersions then
              let cost := stack.errorCost version
              setStack (stack.resume version)
              handleError setting version lookahead
              resumeFrom setting fuel (version + 1) count true (some cost)
            else
              setStack (stack.remove version)
              resumeFrom setting fuel version (count - 1) hasActive lowest
        | _ => resumeFrom setting fuel (version + 1) count true lowest

/-- Puts the versions in order after a round. -/
def condense (setting : Setting) : ParseM (Option Nat) := do
  let count := (← getStack).versionCount
  let lowest ← condenseFrom (4 * count + 4) 0 none
  modifyStack (truncateVersions maxVersions)
  let count := (← getStack).versionCount
  resumeFrom setting (count + 1) 0 count false lowest

/-- Advances one version until it has got further than the versions before it. -/
def advancePast (setting : Setting) (version : Nat) : Nat → Nat → ParseM Nat
  | 0, last => return last
  | fuel + 1, last => do
      if (← getStack).isActive version then
        advance setting version
        let bytes := ((← getStack).position version).bytes
        if last < bytes || (0 < version && bytes = last) then return bytes
        else advancePast setting version fuel last
      else return last

/-- Advances all versions, those made on the way included. -/
def advanceAll (setting : Setting) (bound : Nat) : Nat → Nat → Nat → ParseM Nat
  | 0, _, last => return last
  | fuel + 1, version, last => do
      if (← getStack).versionCount ≤ version then return last
      else
        let last ← advancePast setting version bound last
        advanceAll setting bound fuel (version + 1) last

/-- Rounds until no version is left or the finished tree is better than all. -/
def rounds (setting : Setting) (bound : Nat) : Nat → Nat → ParseM Unit
  | 0, _ => return ()
  | fuel + 1, last => do
      let last ← advanceAll setting bound bound 0 last
      let lowest ← condense setting
      let parser ← get
      let isDone := match parser.finished, lowest with
        | some tree, some cost => tree.errorCost < cost
        | some _, none => true
        | none, _ => false
      if isDone || parser.stack.versionCount = 0 then return ()
      else rounds setting bound fuel last

/-- Parses a text. A table of a grammar gives a tree for every text. -/
def parse (table : Table) (source : Array Char) : Option Subtree :=
  let setting : Setting := ⟨table, source⟩
  let bound := 20 * (source.size + 100)
  let start : Parser := ⟨.start, none, 0, none, false⟩
  ((rounds setting bound bound 0).run start).2.finished

end FunctionAtlas.Parse
