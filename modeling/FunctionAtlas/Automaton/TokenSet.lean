/-!
Contract: sets of token numbers below 128, as two machine words.

Table construction unites such sets millions of times, so they are words and not trees.

Owns: the set type and its operations.
-/

namespace FunctionAtlas.Automaton

/-- A set of numbers below 128. -/
structure TokenSet where
  low : UInt64
  high : UInt64
deriving DecidableEq, Hashable, Repr

namespace TokenSet

def empty : TokenSet := ⟨0, 0⟩

def contains (set : TokenSet) (token : Nat) : Bool :=
  if token < 64 then (set.low >>> token.toUInt64) &&& 1 == 1
  else (set.high >>> (token - 64).toUInt64) &&& 1 == 1

def singleton (token : Nat) : TokenSet :=
  if token < 64 then ⟨1 <<< token.toUInt64, 0⟩ else ⟨0, 1 <<< (token - 64).toUInt64⟩

def union (left right : TokenSet) : TokenSet := ⟨left.low ||| right.low, left.high ||| right.high⟩

def insert (set : TokenSet) (token : Nat) : TokenSet := set.union (singleton token)

def erase (set : TokenSet) (token : Nat) : TokenSet :=
  let single := singleton token
  ⟨set.low &&& ~~~single.low, set.high &&& ~~~single.high⟩

/-- Whether every member of the second set is in the first. -/
def covers (set other : TokenSet) : Bool := set.union other == set

def ofList (tokens : List Nat) : TokenSet := tokens.foldl insert empty

/-- The members below `bound` in increasing order. -/
def members (set : TokenSet) (bound : Nat) : List Nat := (List.range bound).filter set.contains

/-- Folds over the members below `bound` in increasing order. -/
@[inline] def fold {α : Type} (set : TokenSet) (bound : Nat) (step : α → Nat → α) (start : α) : α :=
  bound.fold (fun token _ value => if set.contains token then step value token else value) start

end TokenSet

end FunctionAtlas.Automaton
