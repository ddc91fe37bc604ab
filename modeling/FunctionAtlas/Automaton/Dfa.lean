import FunctionAtlas.Automaton.Nfa
import FunctionAtlas.Automaton.TokenSet
import Std.Data.HashMap

/-!
Contract: deterministic automata that recognise the tokens of a lexer mode.

A mode is a set of tokens, possibly with the end of the text. Its automaton prefers longer
tokens, except where a token of higher precedence has ended, and among tokens that end at the
same place the preferred one. Letters that are blanks before a token are marked, so that the
token begins after them.

Owns: the subset construction.
-/

namespace FunctionAtlas.Automaton

open FunctionAtlas.Grammar

/-- What a state recognises. -/
inductive Recognized where
  | nothing
  | endOfText
  | token (number : Nat)
deriving DecidableEq, Repr

/-- A state of a deterministic automaton. -/
structure DfaState where
  recognized : Recognized
  /-- Whether the end of the text is recognised here. -/
  endsText : Bool
  /-- Next states by letter code, counted from one; zero where there is none. -/
  targets : Array Nat
  /-- The letter codes that are blanks here. -/
  blanks : CharSet

/-- A state to be completed: its states of the underlying automaton, and whether the text may
end here. -/
structure DfaSeed where
  closed : List Nat
  endsText : Bool
deriving DecidableEq, Hashable

structure Dfa where
  states : Array DfaState
  seeds : Array DfaSeed
  numbers : Std.HashMap DfaSeed Nat

namespace Dfa

def empty : Dfa := ⟨#[], #[], ∅⟩

/-- The number of the state for a seed, which is added unless it is known. -/
def stateFor (dfa : Dfa) (seed : DfaSeed) : Nat × Dfa :=
  match dfa.numbers[seed]? with
  | some number => (number, dfa)
  | none =>
      ( dfa.seeds.size
      , { dfa with
          seeds := dfa.seeds.push seed
          numbers := dfa.numbers.insert seed dfa.seeds.size } )

/-- The preferred one of the tokens that end in a state. -/
def winner (nfa : Nfa) (tokens : List Nat) : Option Nat :=
  tokens.foldl
    (fun best token =>
      match best with
      | none => some token
      | some known => if nfa.prefersToken known token then some known else some token)
    none

/-- Sets the target of every letter of a transition. The null character follows only
transitions that name it; a class of all but a few characters leaves it out. -/
def setTargets (targets : Array Nat) (letters : CharSet) (target : Nat) : Array Nat :=
  let letters := if letters.contains LetterCode.other then
      letters.codes.filter (· ≠ 0)
    else letters.codes
  letters.foldl (fun targets letter => targets.set! letter (target + 1)) targets

/-- Completes one state. -/
def process (nfa : Nfa) (dfa : Dfa) (seed : DfaSeed) : Dfa :=
  let completed := winner nfa (nfa.completions seed.closed)
  let readsSeparator := nfa.readsSeparator seed.closed
  let transitions := (nfa.transitions seed.closed).filter fun transition =>
    match completed with
    | none => true
    | some token => nfa.prefersTransition transition token readsSeparator
  let (dfa, targets, blanks) := transitions.foldl
    (fun (state : Dfa × Array Nat × CharSet) transition =>
      let (dfa, targets, blanks) := state
      let (target, dfa) := dfa.stateFor
        ⟨nfa.closure transition.targets, seed.endsText && transition.isSeparator⟩
      ( dfa
      , setTargets targets transition.letters target
      , if transition.isSeparator then blanks.union transition.letters else blanks ))
    (dfa, Array.replicate LetterCode.count 0, CharSet.empty)
  let recognized := match completed with
    | some token => .token token
    | none => if seed.closed.isEmpty then .endOfText else .nothing
  { dfa with states := dfa.states.push ⟨recognized, seed.endsText, targets, blanks⟩ }

/-- Completes states in order of number until none is left. -/
def run (nfa : Nfa) : Nat → Dfa → Dfa
  | 0, dfa => dfa
  | fuel + 1, dfa =>
      match dfa.seeds[dfa.states.size]? with
      | none => dfa
      | some seed => run nfa fuel (process nfa dfa seed)

/-- Adds the automaton of a mode; the result begins with its start state. -/
def addMode (nfa : Nfa) (dfa : Dfa) (tokens : List Nat) (endsText : Bool) : Nat × Dfa :=
  let starts := tokens.map fun token => nfa.starts.getD token 0
  let (start, dfa) := dfa.stateFor ⟨nfa.closure starts, endsText⟩
  (start, run nfa 100000 dfa)

end Dfa

end FunctionAtlas.Automaton
