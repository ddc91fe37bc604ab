import FunctionAtlas.Automaton.Nfa
import FunctionAtlas.Automaton.TokenSet

/-!
Contract: how pairs of tokens compete for the same text.

Two parse states may share a lexer, and two lexer modes may be united, only if the tokens that
one of them adds cannot take text away from the tokens of the other. This module decides, for
every ordered pair of tokens, in which ways the first can do that to the second.

Owns: the pairwise analysis and the questions asked of it.
-/

namespace FunctionAtlas.Automaton

open FunctionAtlas.Grammar

/-- The ways in which a token competes with another. -/
structure TokenConflict where
  /-- It ends, and wins, where the other would read on. -/
  matchesPrefix : Bool
  /-- It reads on where the other has ended. -/
  continues : Bool
  /-- It reads on with a character that can follow the other. -/
  continuesValidly : Bool
  /-- It matches blanks that may come before the other. -/
  matchesSeparators : Bool
  /-- It wins on a text that both match. -/
  matchesSame : Bool
  /-- It matches a text that the other does not. -/
  matchesDifferent : Bool
deriving DecidableEq

def TokenConflict.none : TokenConflict := ⟨false, false, false, false, false, false⟩

/-- The conflicts of a pair, in both directions. -/
structure ConflictPair where
  first : TokenConflict
  second : TokenConflict

namespace ConflictPair

/-- Changes the direction that a token is the first of. -/
def update (pair : ConflictPair) (isFirst : Bool) (change : TokenConflict → TokenConflict) :
    ConflictPair :=
  if isFirst then { pair with first := change pair.first }
  else { pair with second := change pair.second }

/-- What the tokens that end in one set of states say; also the token that wins there. -/
def noteCompletions (nfa : Nfa) (first : Nat) :
    List Nat → Option Nat → ConflictPair → Option Nat × ConflictPair
  | [], completed, pair => (completed, pair)
  | token :: rest, .none, pair => noteCompletions nfa first rest (some token) pair
  | token :: rest, some previous, pair =>
      if token = previous then noteCompletions nfa first rest (some previous) pair
      else
        let winner := if nfa.prefersToken previous token then previous else token
        noteCompletions nfa first rest (some winner)
          (pair.update (winner = first) fun conflict => { conflict with matchesSame := true })

/-- What one transition says, given the token that has ended, if any. -/
def noteTransition (nfa : Nfa) (first second : Nat) (following : Array CharSet)
    (readsSeparator : Bool) (completed : Option Nat) (pair : ConflictPair)
    (transition : Nfa.Transition) : ConflictPair :=
  match completed with
  | .none => pair
  | some token =>
      let owners := nfa.ownersOf transition.targets
      if owners.contains token then pair
      else
        match owners.getLast? with
        | .none => pair
        | some advanced =>
            if nfa.prefersTransition transition token readsSeparator then
              let other := if advanced = first then second else first
              let isValid := transition.letters.intersects (following.getD other .empty)
              pair.update (advanced = first) fun conflict =>
                { conflict with
                  continues := true
                  continuesValidly := conflict.continuesValidly || isValid }
            else
              pair.update (token = first) fun conflict =>
                { conflict with matchesPrefix := true }

/-- Explores the sets of states that the two tokens reach on common texts. -/
def explore (nfa : Nfa) (first second : Nat) (following : Array CharSet) :
    Nat → List (List Nat) → List (List Nat) → ConflictPair → ConflictPair
  | 0, _, _, pair => pair
  | _ + 1, [], _, pair => pair
  | fuel + 1, states :: queue, visited, pair =>
      match nfa.ownersOf states with
      | [] => explore nfa first second following fuel queue visited pair
      | [only] =>
          explore nfa first second following fuel queue visited
            (pair.update (only = first) fun conflict =>
              { conflict with matchesDifferent := true })
      | _ =>
          let closed := nfa.closure states
          let readsSeparator := nfa.readsSeparator closed
          let ended := nfa.completions closed
          let (completed, pair) :=
            if readsSeparator then
              match ended with
              | [] => (Option.none, pair)
              | token :: _ =>
                  ( .none
                  , pair.update (token = first) fun conflict =>
                      { conflict with matchesSeparators := true } )
            else noteCompletions nfa first ended .none pair
          let transitions := nfa.transitions closed
          let pair := transitions.foldl
            (noteTransition nfa first second following readsSeparator completed) pair
          let (queue, visited) := transitions.foldl
            (fun (state : List (List Nat) × List (List Nat)) transition =>
              if state.2.contains transition.targets then state
              else (transition.targets :: state.1, transition.targets :: state.2))
            (queue, visited)
          explore nfa first second following fuel queue visited pair

/-- The conflicts of two tokens. -/
def ofTokens (nfa : Nfa) (following : Array CharSet) (first second : Nat) : ConflictPair :=
  explore nfa first second following 100000
    [[nfa.starts.getD first 0, nfa.starts.getD second 0]] [] ⟨.none, .none⟩

end ConflictPair

/-- The conflicts of all ordered pairs of tokens. -/
structure ConflictTable where
  size : Nat
  entries : Array TokenConflict

namespace ConflictTable

/-- The conflicts of a token with another. -/
def entry (table : ConflictTable) (token other : Nat) : TokenConflict :=
  table.entries.getD (token * table.size + other) .none

/-- The characters with which a token can begin, blanks included. -/
def startingLetters (nfa : Nfa) (token : Nat) : CharSet :=
  (nfa.transitions (nfa.closure [nfa.starts.getD token 0])).foldl
    (fun letters transition => letters.union transition.letters) .empty

/-- Analyses all pairs; `following` gives the tokens that may come after each token. -/
def ofNfa (nfa : Nfa) (following : Array TokenSet) : ConflictTable :=
  let size := nfa.starts.size
  let starting := (Array.range size).map (startingLetters nfa)
  let followingLetters := following.map fun tokens =>
    (tokens.members size).foldl (fun letters token => letters.union (starting.getD token .empty))
      CharSet.empty
  let pairs : Array (Array ConflictPair) := (Array.range size).map fun first =>
    (Array.range first).map (ConflictPair.ofTokens nfa followingLetters first)
  let pairOf (first second : Nat) : TokenConflict :=
    if second < first then
      match (pairs.getD first #[])[second]? with
      | some pair => pair.first
      | none => .none
    else
      match (pairs.getD second #[])[first]? with
      | some pair => pair.second
      | none => .none
  { size
    entries := (Array.range (size * size)).map fun index => pairOf (index / size) (index % size) }

/-- Adding the token to a lexer mode could take text from the other. -/
def conflicts (table : ConflictTable) (token other : Nat) : Bool :=
  let conflict := table.entry token other
  conflict.continuesValidly || conflict.matchesSeparators || conflict.matchesSame

def matchesSame (table : ConflictTable) (token other : Nat) : Bool :=
  (table.entry token other).matchesSame

def matchesDifferent (table : ConflictTable) (token other : Nat) : Bool :=
  (table.entry token other).matchesDifferent

def matchesPrefix (table : ConflictTable) (token other : Nat) : Bool :=
  (table.entry token other).matchesPrefix

/-- The token matches texts shorter or longer than the other where both could stand. -/
def matchesShorterOrLonger (table : ConflictTable) (token other : Nat) : Bool :=
  let conflict := table.entry token other
  (conflict.continuesValidly || conflict.matchesSeparators) &&
    !(table.entry other token).matchesSeparators

def overlaps (table : ConflictTable) (token other : Nat) : Bool :=
  let conflict := table.entry token other
  conflict.matchesSeparators || conflict.matchesPrefix || conflict.matchesSame ||
    conflict.continues

end ConflictTable

end FunctionAtlas.Automaton
