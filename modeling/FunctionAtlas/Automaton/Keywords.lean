import FunctionAtlas.Automaton.States
import FunctionAtlas.Automaton.TokenConflict

/-!
Contract: which tokens are keywords, and which tokens the recovery state knows.

A keyword is a fixed text that the word token matches too. The lexer reads a word first and
then looks whether it is a keyword, so keywords never compete with each other in a lexer mode.

Owns: the sets of tokens that occur together in some state, the choice of keywords, and the
actions of the recovery state.
-/

namespace FunctionAtlas.Automaton

open FunctionAtlas.Grammar

/-- The tokens that a state has an action for. -/
def ParseState.tokens (state : ParseState) : TokenSet :=
  state.actions.size.fold
    (fun token _ (found : TokenSet) =>
      if (state.actions.getD token #[]).isEmpty then found else found.insert token)
    .empty

/-- For every token, the tokens that are valid together with it in some state. -/
structure Company where
  all : Array TokenSet
  /-- The same for the states in which the word token is not valid. -/
  withoutWord : Array TokenSet

def Company.ofStates (terminalCount word : Nat) (states : Array ParseState) : Company :=
  let start : Array TokenSet := Array.replicate terminalCount .empty
  states.foldl
    (fun (company : Company) state =>
      let tokens := state.tokens
      let add (sets : Array TokenSet) : Array TokenSet :=
        tokens.fold terminalCount (fun sets token => sets.modify token (·.union tokens)) sets
      { all := add company.all
        withoutWord :=
          if tokens.contains word then company.withoutWord else add company.withoutWord })
    ⟨start, start⟩

/-- Whether two tokens are valid together in some state. -/
def Company.contains (company : Company) (token other : Nat) : Bool :=
  (company.all.getD token .empty).contains other

/-- Whether a token begins with letters or an underscore only. -/
def beginsLikeWord (nfa : Nfa) (token : Nat) : Bool :=
  let letters := CharSet.nameStart.union (.ofCode LetterCode.nameStart)
  (nfa.transitions (nfa.closure [nfa.starts.getD token 0])).all fun transition =>
    transition.isSeparator || transition.letters.mask &&& letters.complement.mask = 0

/-- The keywords of a grammar. -/
def keywords (grammar : Prepared) (nfa : Nfa) (conflicts : ConflictTable) (company : Company) :
    TokenSet :=
  let word := grammar.word
  let all := List.range grammar.terminals.size
  let candidates := all.filter fun token =>
    beginsLikeWord nfa token && conflicts.matchesSame token word &&
      !conflicts.matchesDifferent token word
  let unshadowed := candidates.filter fun token =>
    candidates.all fun other => other = token || !conflicts.matchesSame other token
  let kept := unshadowed.filter fun token =>
    all.all fun other =>
      candidates.contains other ||
      !(company.withoutWord.getD token .empty).contains other ||
      conflicts.entry token other = conflicts.entry word other
  TokenSet.ofList kept

/-- Adds to the recovery state a recovery action for every token, except for tokens that could
swallow the text of tokens without any competitor. -/
def addRecoveryActions (grammar : Prepared) (numbering : Numbering) (conflicts : ConflictTable)
    (company : Company) (keywords : TokenSet) (states : Array ParseState) : Array ParseState :=
  let terminals := List.range numbering.terminalCount
  let isConflictFree (token : Nat) : Bool := terminals.all fun other =>
    other = token || company.contains token other ||
      !conflicts.matchesShorterOrLonger token other
  let conflictFree := terminals.filter isConflictFree
  let isKept (token : Nat) : Bool :=
    conflictFree.contains token || keywords.contains token || token = grammar.word ||
    conflictFree.all fun other =>
      company.contains token other || !conflicts.conflicts token other
  let scanned := ((List.range numbering.externalCount).filter fun index =>
    (grammar.internalOf index).isNone).map (· + numbering.terminalCount)
  let recovering := terminals.filter isKept ++ scanned
  states.modify 0 fun state =>
    let actions := recovering.foldl
      (fun (actions : Array (Array Action)) token =>
        actions.modify token fun known => if known.isEmpty then #[.recover] else known)
      state.actions
    { state with actions := actions.set! numbering.eof #[.recover] }

end FunctionAtlas.Automaton
