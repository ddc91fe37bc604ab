import FunctionAtlas.Grammar.Prepared

/-!
Contract: one nondeterministic automaton for all tokens of a grammar.

Every token has a start state from which blanks lead back to it, unless the token admits no
blank before it. A transition remembers whether it reads a blank and with which precedence its
token competes.

Owns: compilation of patterns, closure under empty moves, and the grouping of transitions by
character.
-/

namespace FunctionAtlas.Automaton

open FunctionAtlas.Grammar

inductive NfaState where
  | accept (token : Nat)
  | split (left right : Nat)
  | advance (letters : CharSet) (target : Nat) (isSeparator : Bool)
deriving Repr

/-- The automaton of all tokens. -/
structure Nfa where
  states : Array NfaState
  /-- The token that each state belongs to. -/
  owners : Array Nat
  starts : Array Nat
  /-- Declared precedence of each token. -/
  precedences : Array Int
  /-- Precedence among tokens of equal declared precedence. -/
  implicitPrecedences : Array Nat

namespace Nfa

/-- Adds a pattern in front of the state `next`; the result begins with the entry state. -/
def compile (isSeparator : Bool) : Pattern → Nat → Array NfaState → Nat × Array NfaState
  | .empty, next, states => (next, states)
  | .set letters, next, states => (states.size, states.push (.advance letters next isSeparator))
  | .seq first second, next, states =>
      let (middle, states) := compile isSeparator second next states
      compile isSeparator first middle states
  | .alt first second, next, states =>
      let (left, states) := compile isSeparator first next states
      let (right, states) := compile isSeparator second next states
      (states.size, states.push (.split left right))
  | .plus body, next, states =>
      let again := states.size
      let (entry, states) := compile isSeparator body again (states.push (.split next next))
      (entry, states.set! again (.split entry next))

/-- Adds the states of one token. -/
def addToken (separators : Pattern) (nfa : Nfa) (kind : TokenKind) : Nfa :=
  let token := nfa.starts.size
  let accepting := nfa.states.size
  let (entry, states) := compile false kind.pattern accepting (nfa.states.push (.accept token))
  let (start, states) :=
    if kind.isImmediate then (entry, states)
    else compile true separators.star entry states
  { states
    owners := nfa.owners ++ Array.replicate (states.size - nfa.owners.size) token
    starts := nfa.starts.push start
    precedences := nfa.precedences.push kind.precedence
    implicitPrecedences := nfa.implicitPrecedences.push kind.implicitPrecedence }

/-- The automaton of the tokens of a grammar. -/
def ofGrammar (grammar : Prepared) : Nfa :=
  grammar.terminals.foldl (fun nfa terminal => nfa.addToken grammar.separators terminal.token)
    ⟨#[], #[], #[], #[], #[]⟩

/-- Inserts into an increasing list. -/
def insertSorted (value : Nat) : List Nat → List Nat
  | [] => [value]
  | first :: rest =>
      if value < first then value :: first :: rest
      else if value = first then first :: rest
      else first :: insertSorted value rest

/-- Follows empty moves; `pending` holds states still to visit. -/
def closeUnder (nfa : Nfa) : Nat → List Nat → List Nat → List Nat → List Nat
  | 0, _, _, closed => closed
  | _ + 1, [], _, closed => closed
  | fuel + 1, state :: pending, visited, closed =>
      if visited.contains state then closeUnder nfa fuel pending visited closed
      else
        match nfa.states[state]? with
        | some (.split left right) =>
            closeUnder nfa fuel (left :: right :: pending) (state :: visited) closed
        | _ => closeUnder nfa fuel pending (state :: visited) (insertSorted state closed)

/-- The states that accept or read a character, reachable by empty moves, in increasing order. -/
def closure (nfa : Nfa) (states : List Nat) : List Nat :=
  states.foldl
    (fun closed state => nfa.closeUnder (2 * nfa.states.size + 2) [state] [] closed) []

/-- Where a set of characters leads. -/
structure Transition where
  letters : CharSet
  targets : List Nat
  isSeparator : Bool
  precedence : Int

/-- Splits the transitions found so far by one more; `letters` are the characters of the new
one that no earlier transition reads. -/
def splitBy (target : Nat) (isSeparator : Bool) (precedence : Int) :
    CharSet → List Transition → List Transition
  | letters, [] =>
      if letters.mask = 0 then []
      else [⟨letters, [target], isSeparator, precedence⟩]
  | letters, first :: rest =>
      let shared := first.letters.mask &&& letters.mask
      if shared = 0 then first :: splitBy target isSeparator precedence letters rest
      else
        let both : Transition :=
          { letters := ⟨shared⟩
            targets := insertSorted target first.targets
            isSeparator := first.isSeparator && isSeparator
            precedence := max first.precedence precedence }
        let remaining := splitBy target isSeparator precedence ⟨letters.mask ^^^ shared⟩ rest
        if first.letters.mask = shared then both :: remaining
        else both :: { first with letters := ⟨first.letters.mask ^^^ shared⟩ } :: remaining

/-- Unites transitions that differ in their characters only. -/
def uniteInto (found : List Transition) (transition : Transition) : List Transition :=
  match found with
  | [] => [transition]
  | first :: rest =>
      if first.targets = transition.targets && first.isSeparator = transition.isSeparator &&
          first.precedence = transition.precedence then
        { first with letters := first.letters.union transition.letters } :: rest
      else first :: uniteInto rest transition

/-- The transitions of a closed set of states, with disjoint sets of characters. -/
def transitions (nfa : Nfa) (closed : List Nat) : List Transition :=
  let split := closed.foldl
    (fun (found : List Transition) (state : Nat) =>
      match nfa.states[state]? with
      | some (.advance letters target isSeparator) =>
          let precedence :=
            if isSeparator then 0 else nfa.precedences.getD (nfa.owners.getD state 0) 0
          splitBy target isSeparator precedence letters found
      | _ => found)
    []
  split.foldl uniteInto []

/-- The tokens that end in a closed set of states. -/
def completions (nfa : Nfa) (closed : List Nat) : List Nat :=
  closed.filterMap fun (state : Nat) =>
    match nfa.states[state]? with
    | some (.accept token) => some token
    | _ => none

/-- Whether one of the states reads a blank. -/
def readsSeparator (nfa : Nfa) (closed : List Nat) : Bool :=
  closed.any fun (state : Nat) =>
    match nfa.states[state]? with
    | some (.advance _ _ isSeparator) => isSeparator
    | _ => false

/-- The tokens that a set of states belongs to, without repetition. -/
def ownersOf (nfa : Nfa) (states : List Nat) : List Nat :=
  states.foldl (fun found state => insertSorted (nfa.owners.getD state 0) found) []

/-- Of two tokens that match the same text, whether the first is chosen. -/
def prefersToken (nfa : Nfa) (left right : Nat) : Bool :=
  let leftPrecedence := nfa.precedences.getD left 0
  let rightPrecedence := nfa.precedences.getD right 0
  if leftPrecedence ≠ rightPrecedence then rightPrecedence < leftPrecedence
  else
    let leftImplicit := nfa.implicitPrecedences.getD left 0
    let rightImplicit := nfa.implicitPrecedences.getD right 0
    if leftImplicit ≠ rightImplicit then rightImplicit < leftImplicit else left < right

/-- Whether reading on is chosen over ending the token `completed`. -/
def prefersTransition (nfa : Nfa) (transition : Transition) (completed : Nat)
    (readsSeparator : Bool) : Bool :=
  let completedPrecedence := nfa.precedences.getD completed 0
  if transition.precedence < completedPrecedence then false
  else if transition.precedence = completedPrecedence then
    !transition.isSeparator &&
      (!readsSeparator || (nfa.ownersOf transition.targets).contains completed)
  else true

end Nfa

end FunctionAtlas.Automaton
