import FunctionAtlas.Parse.Lexer

/-!
Contract: a parse stack with several versions that share their common parts.

A version is a head that points to a stack node; nodes point back to earlier nodes, and a node
has several links back where versions have met. Nodes live in one array and are named by their
position in it.

Owns: pushing, popping along all paths, joining and ordering of versions, and the bookkeeping
that tells how promising a version is.
-/

namespace FunctionAtlas.Parse

open FunctionAtlas.Text
open FunctionAtlas.Automaton (Table)

/-! ## Types -/

/-- A way back from a node. Without a tree it marks the place where an error was met. -/
structure Link where
  node : Nat
  tree : Option Subtree

structure StackNode where
  state : Nat
  position : Extent
  links : List Link
  errorCost : Nat
  nodeCount : Nat
  dynamicPrecedence : Int

inductive Status where
  | active
  /-- Stopped at a token that no action fits. -/
  | paused (lookahead : Subtree)
  | halted

/-- A state that a version has gone through, at the given number of trees below the top. -/
structure PastState where
  position : Extent
  depth : Nat
  state : Nat

structure Head where
  node : Nat
  /-- Number of nodes when the last error was met. -/
  countAtError : Nat
  /-- Scanner memory after the last token of the scanner. -/
  layout : Option Layout
  status : Status
  past : Option (List PastState)

structure Stack where
  nodes : Array StackNode
  heads : Array Head

/-- Trees popped along one path, and the version that was made where the path ended. -/
structure Slice where
  trees : List Subtree
  version : Nat

namespace Stack

/-- At most this many links lead back from a node. -/
def maxLinks : Nat := 8

/-- At most this many paths are followed at once. -/
def maxPaths : Nat := 64

def startNode : StackNode := ⟨1, .zero, [], 0, 0, 0⟩

def startHead : Head := ⟨0, 0, none, .active, none⟩

/-- One version, in the start state. -/
def start : Stack := ⟨#[startNode], #[startHead]⟩

def node (stack : Stack) (index : Nat) : StackNode := stack.nodes.getD index startNode

def head (stack : Stack) (version : Nat) : Head := stack.heads.getD version startHead

def top (stack : Stack) (version : Nat) : StackNode := stack.node (stack.head version).node

def versionCount (stack : Stack) : Nat := stack.heads.size

def state (stack : Stack) (version : Nat) : Nat := (stack.top version).state

def position (stack : Stack) (version : Nat) : Extent := (stack.top version).position

def isActive (stack : Stack) (version : Nat) : Bool :=
  match (stack.head version).status with
  | .active => true
  | _ => false

def isPaused (stack : Stack) (version : Nat) : Bool :=
  match (stack.head version).status with
  | .paused _ => true
  | _ => false

def isHalted (stack : Stack) (version : Nat) : Bool :=
  match (stack.head version).status with
  | .halted => true
  | _ => false

def modifyHead (stack : Stack) (version : Nat) (change : Head → Head) : Stack :=
  { stack with heads := stack.heads.modify version change }

/-! ## Pushing -/

/-- The number of nodes that a tree counts for. Runs of skipped text count, so that skipping is
seen as moving on. -/
def treeCount (tree : Subtree) : Nat :=
  tree.summary.visibleDescendantCount + (if tree.summary.isVisible then 1 else 0) +
    (if tree.symbol = Table.skippedSymbol then 1 else 0)

/-- Pushes a tree, or the mark of an error, and enters a state. -/
def push (stack : Stack) (version : Nat) (tree : Option Subtree) (state : Nat) : Stack :=
  let before := (stack.head version).node
  let below := stack.node before
  let made : StackNode := match tree with
    | none =>
        { state
          position := below.position
          links := [⟨before, none⟩]
          errorCost := below.errorCost
          nodeCount := below.nodeCount
          dynamicPrecedence := below.dynamicPrecedence }
    | some tree =>
        { state
          position := below.position.add tree.totalSize
          links := [⟨before, some tree⟩]
          errorCost := below.errorCost + tree.errorCost
          nodeCount := below.nodeCount + treeCount tree
          dynamicPrecedence := below.dynamicPrecedence + tree.dynamicPrecedence }
  let index := stack.nodes.size
  { nodes := stack.nodes.push made
    heads := stack.heads.modify version fun head =>
      { head with
        node := index
        countAtError := if tree.isNone then made.nodeCount else head.countAtError } }

/-! ## Joining -/

/-- Whether two trees on links count as the same. -/
def treesMatch (left right : Option Subtree) : Bool :=
  match left, right with
  | none, none => true
  | some left, some right =>
      left.symbol = right.symbol &&
      ((0 < left.errorCost && 0 < right.errorCost) ||
        (left.summary.padding.bytes = right.summary.padding.bytes &&
          left.summary.size.bytes = right.summary.size.bytes &&
          left.summary.childCount = right.summary.childCount &&
          left.isExtra = right.isExtra && left.summary.layout = right.summary.layout))
  | _, _ => false

def linkPrecedence (link : Link) : Int :=
  match link.tree with
  | some tree => tree.dynamicPrecedence
  | none => 0

/-- What is to be done with a link that is added to a node. -/
inductive Joining where
  /-- It takes the place of a link to the same node, or adds nothing. -/
  | replace (links : List Link) (precedence : Option Int)
  /-- The nodes behind it are joined with those of an equal link. -/
  | descend (target : Nat)
  | append

/-- Compares a new link with those that a node has. -/
def joining (stack : Stack) (link : Link) : List Link → List Link → Joining
  | _, [] => .append
  | before, known :: rest =>
      if treesMatch known.tree link.tree then
        if known.node = link.node then
          if linkPrecedence known < linkPrecedence link then
            .replace (before.reverse ++ { known with tree := link.tree } :: rest)
              (some ((stack.node link.node).dynamicPrecedence + linkPrecedence link))
          else .replace (before.reverse ++ known :: rest) none
        else
          let left := stack.node known.node
          let right := stack.node link.node
          if left.state = right.state && left.position.bytes = right.position.bytes &&
              left.errorCost = right.errorCost then .descend known.node
          else joining stack link (known :: before) rest
      else joining stack link (known :: before) rest

/-- Adds a link to a node, joining what is alike. -/
def addLink : Nat → Stack → Nat → Link → Stack
  | 0, stack, _, _ => stack
  | fuel + 1, stack, index, link =>
      if link.node = index then stack
      else
        let self := stack.node index
        let behind := stack.node link.node
        let precedence := behind.dynamicPrecedence + linkPrecedence link
        match joining stack link [] self.links with
        | .replace links changed =>
            { stack with
              nodes := stack.nodes.modify index fun node =>
                { node with
                  links
                  dynamicPrecedence := changed.getD node.dynamicPrecedence } }
        | .descend target =>
            let stack := behind.links.foldl
              (fun stack inner => addLink fuel stack target inner) stack
            { stack with
              nodes := stack.nodes.modify index fun node =>
                { node with dynamicPrecedence := max node.dynamicPrecedence precedence } }
        | .append =>
            if maxLinks ≤ self.links.length then stack
            else
              let count := behind.nodeCount + match link.tree with
                | some tree => treeCount tree
                | none => 0
              { stack with
                nodes := stack.nodes.modify index fun node =>
                  { node with
                    links := node.links ++ [link]
                    nodeCount := max node.nodeCount count
                    dynamicPrecedence := max node.dynamicPrecedence precedence } }

/-- Whether two versions can be joined. -/
def canMerge (stack : Stack) (left right : Nat) : Bool :=
  let leftTop := stack.top left
  let rightTop := stack.top right
  stack.isActive left && stack.isActive right && leftTop.state = rightTop.state &&
    leftTop.position.bytes = rightTop.position.bytes &&
    leftTop.errorCost = rightTop.errorCost &&
    (stack.head left).layout = (stack.head right).layout

def remove (stack : Stack) (version : Nat) : Stack :=
  { stack with heads := stack.heads.eraseIdxIfInBounds version }

/-- Joins the second version into the first, if they can be joined. -/
def merge? (stack : Stack) (left right : Nat) : Option Stack :=
  if stack.canMerge left right then
    let target := (stack.head left).node
    let stack := (stack.top right).links.foldl
      (fun stack link => addLink (stack.nodes.size + 1) stack target link) stack
    let merged := stack.node target
    let stack :=
      if merged.state = 0 then
        stack.modifyHead left fun head => { head with countAtError := merged.nodeCount }
      else stack
    some (stack.remove right)
  else none

/-! ## Popping -/

/-- A path on its way back: the trees passed so far and how many of them are no extras. -/
structure Path where
  node : Nat
  trees : List Subtree
  count : Nat

/-- Follows a link back. -/
def Path.follow (path : Path) (link : Link) : Path :=
  match link.tree with
  | some tree =>
      { node := link.node
        trees := tree :: path.trees
        count := if tree.isExtra then path.count else path.count + 1 }
  | none => { path with node := link.node, count := path.count + 1 }

/-- Inserts a slice after the last one of the same version. -/
def insertSlice (stack : Stack) (node : Nat) (trees : List Subtree) :
    List Slice → Option (List Slice)
  | [] => none
  | slice :: rest =>
      match insertSlice stack node trees rest with
      | some rest => some (slice :: rest)
      | none =>
          if (stack.head slice.version).node = node then
            some (slice :: ⟨trees, slice.version⟩ :: rest)
          else none

/-- Records the end of a path. Paths that end at the same node share a version. -/
def addSlice (source : Nat) (stack : Stack) (slices : List Slice) (path : Path) :
    Stack × List Slice :=
  match insertSlice stack path.node path.trees slices with
  | some slices => (stack, slices)
  | none =>
      let head := stack.head source
      let made : Head := ⟨path.node, head.countAtError, head.layout, .active, none⟩
      ( { stack with heads := stack.heads.push made }
      , slices ++ [⟨path.trees, stack.heads.size⟩] )

/-- What to do with a path. -/
structure Verdict where
  takes : Bool
  stops : Bool

/-- A walk along all paths: those still to follow in this round, those of the next round, and
those that branched off. `memory` is what the visitor remembers. -/
structure Walk (μ : Type) where
  stack : Stack
  slices : List Slice
  advanced : List Path
  branched : List Path
  size : Nat
  memory : μ

/-- Branches off the links after the first, as long as there is room. -/
def branch (path : Path) : List Link → Nat → List Path → List Path × Nat
  | [], size, branched => (branched, size)
  | link :: rest, size, branched =>
      if maxPaths ≤ size then branch path rest size branched
      else branch path rest (size + 1) (path.follow link :: branched)

/-- One path of one round. -/
def Walk.visit {μ : Type} (source : Nat) (visitor : μ → Stack → Path → Verdict × μ)
    (walk : Walk μ) (path : Path) : Walk μ :=
  let links := (walk.stack.node path.node).links
  let (verdict, memory) := visitor walk.memory walk.stack path
  let (stack, slices) :=
    if verdict.takes then addSlice source walk.stack walk.slices path
    else (walk.stack, walk.slices)
  let walk := { walk with stack, slices, memory }
  match links with
  | [] => { walk with size := walk.size - 1 }
  | first :: others =>
      if verdict.stops then { walk with size := walk.size - 1 }
      else
        let (branched, size) := branch path others walk.size walk.branched
        { walk with advanced := path.follow first :: walk.advanced, branched, size }

/-- Walks until all paths have ended. -/
def walkPaths {μ : Type} (source : Nat) (visitor : μ → Stack → Path → Verdict × μ) :
    Nat → Walk μ → List Path → Walk μ
  | 0, walk, _ => walk
  | fuel + 1, walk, paths =>
      match paths with
      | [] => walk
      | _ =>
          let walked := paths.foldl (Walk.visit source visitor)
            { walk with advanced := [], branched := [] }
          walkPaths source visitor fuel walked
            (walked.advanced.reverse ++ walked.branched.reverse)

/-- Walks back from the top of a version. -/
def walkBack {μ : Type} (stack : Stack) (version : Nat) (memory : μ)
    (visitor : μ → Stack → Path → Verdict × μ) : Walk μ :=
  walkPaths version visitor (stack.nodes.size + 2) ⟨stack, [], [], [], 1, memory⟩
    [⟨(stack.head version).node, [], 0⟩]

/-- Pops the given number of trees, extras not counted, along all paths. -/
def popCount (stack : Stack) (version count : Nat) : List Slice × Stack :=
  let walked := stack.walkBack version () fun _ _ path =>
    (⟨path.count = count, path.count = count⟩, ())
  (walked.slices, walked.stack)

/-- Pops everything. -/
def popAll (stack : Stack) (version : Nat) : List Slice × Stack :=
  let walked := stack.walkBack version () fun _ stack path =>
    (⟨(stack.node path.node).links.isEmpty, false⟩, ())
  (walked.slices, walked.stack)

/-- Puts one version in the place of another, earlier one. -/
def renumber (stack : Stack) (from_ target : Nat) : Stack :=
  if from_ = target then stack
  else
    let source := stack.head from_
    let past := match source.past with
      | some past => some past
      | none => (stack.head target).past
    { stack with
      heads := (stack.heads.set! target { source with past }).eraseIdxIfInBounds from_ }

/-- Pops a node of wrong text from the top, if there is one. -/
def popError (stack : Stack) (version : Nat) : Option Subtree × Stack :=
  let hasError := (stack.top version).links.any fun link => link.tree.any (·.isError)
  if hasError then
    let walked := stack.walkBack version false fun found _ path =>
      match path.trees with
      | [] => (⟨false, false⟩, found)
      | tree :: _ => if !found && tree.isError then (⟨true, true⟩, true) else (⟨false, true⟩, found)
    match walked.slices with
    | slice :: _ => (slice.trees.head?, walked.stack.renumber slice.version version)
    | [] => (none, walked.stack)
  else (none, stack)

/-- Records the states that a version has gone through, down to a depth. -/
def recordPast (stack : Stack) (version maxDepth : Nat) : Stack :=
  let walked := stack.walkBack version ([] : List PastState) fun past stack path =>
    let node := stack.node path.node
    if maxDepth < path.count then (⟨false, true⟩, past)
    else if (past.takeWhile fun entry => path.count ≤ entry.depth).any fun entry =>
        entry.depth = path.count && entry.state = node.state then (⟨false, false⟩, past)
    else (⟨false, false⟩, ⟨node.position, path.count, node.state⟩ :: past)
  stack.modifyHead version fun head => { head with past := some walked.memory.reverse }

/-! ## Bookkeeping -/

def halt (stack : Stack) (version : Nat) : Stack :=
  stack.modifyHead version fun head => { head with status := .halted }

def pause (stack : Stack) (version : Nat) (lookahead : Subtree) : Stack :=
  let count := (stack.top version).nodeCount
  stack.modifyHead version fun head =>
    { head with status := .paused lookahead, countAtError := count }

def resume (stack : Stack) (version : Nat) : Stack :=
  stack.modifyHead version fun head => { head with status := .active }

/-- Adds a copy of a version; the result begins with its number. -/
def copy (stack : Stack) (version : Nat) : Nat × Stack :=
  let copy := { stack.head version with past := none }
  (stack.heads.size, { stack with heads := stack.heads.push copy })

def swap (stack : Stack) (left right : Nat) : Stack :=
  let leftHead := stack.head left
  let rightHead := stack.head right
  { stack with heads := (stack.heads.set! left rightHead).set! right leftHead }

/-- What the repairs of a version cost; one that has just met an error counts as repaired. -/
def errorCost (stack : Stack) (version : Nat) : Nat :=
  let top := stack.top version
  let atError := top.state = 0 && match top.links with
    | link :: _ => link.tree.isNone
    | [] => false
  top.errorCost + (if stack.isPaused version || atError then costPerRecovery else 0)

/-- The number of nodes since the last error. A count that has fallen below the recorded one
replaces it. -/
def countSinceError (stack : Stack) (version : Nat) : Nat × Stack :=
  let count := (stack.top version).nodeCount
  let recorded := (stack.head version).countAtError
  if count < recorded then
    (0, stack.modifyHead version fun head => { head with countAtError := count })
  else (count - recorded, stack)

/-- Follows first links back over empty trees in search of text read since the last error. -/
def advancedFrom (stack : Stack) (countAtError : Nat) : Nat → Nat → Bool
  | 0, _ => false
  | fuel + 1, index =>
      let node := stack.node index
      match node.links with
      | [] => false
      | link :: _ =>
          match link.tree with
          | none => false
          | some tree =>
              if 0 < tree.totalSize.bytes then true
              else if countAtError < node.nodeCount && tree.errorCost = 0 then
                advancedFrom stack countAtError fuel link.node
              else false

/-- Whether a version has read text since it last met an error. -/
def hasAdvanced (stack : Stack) (version : Nat) : Bool :=
  let head := stack.head version
  if (stack.node head.node).errorCost = 0 then true
  else stack.advancedFrom head.countAtError (stack.nodes.size + 1) head.node

end Stack

end FunctionAtlas.Parse
