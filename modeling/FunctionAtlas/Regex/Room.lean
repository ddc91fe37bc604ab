import FunctionAtlas.Regex.Expr

/-!
Contract: the room that a pattern takes, and its limit.

A pattern is refused if an automaton over bytes that matches it, or one that matches it backwards,
takes too much room. The room is that of the states, of their transitions and of their branches.
A set of characters takes as many states as the byte sequences of its members need: forwards,
states with the same future are shared; backwards, those with the same past.

Owns: byte sequences of ranges of characters, the room of an expression, and the limit.
-/

namespace FunctionAtlas.Regex

/-! ## Byte sequences -/

/-- A sequence of ranges of bytes. -/
abbrev ByteSequence := List (Nat × Nat)

/-- The bytes of a code point. -/
def bytesOfCode (code : Nat) : List Nat :=
  if code < 0x80 then [code]
  else if code < 0x800 then [0xC0 + code / 0x40, 0x80 + code % 0x40]
  else if code < 0x10000 then
    [0xE0 + code / 0x1000, 0x80 + code / 0x40 % 0x40, 0x80 + code % 0x40]
  else
    [0xF0 + code / 0x40000, 0x80 + code / 0x1000 % 0x40, 0x80 + code / 0x40 % 0x40,
      0x80 + code % 0x40]

/-- Where a range has to be cut so that its parts have encodings of one length, in which the bytes
after the first that differs run through all values. A cut comes before the code point given. -/
def cut? (low high : Nat) : Option Nat :=
  let lengths := [0x80, 0x800, 0x10000]
  match lengths.find? fun bound => low < bound && bound ≤ high with
  | some bound => some bound
  | none =>
      if high < 0x80 then none
      else
        [0x40, 0x1000, 0x40000].findSome? fun block =>
          if low / block = high / block then none
          else if low % block ≠ 0 then some ((low / block + 1) * block)
          else if high % block ≠ block - 1 then some (high / block * block)
          else none

/-- The byte sequences of the characters in a range, in order. -/
def sequencesOf : Nat → Nat → Nat → List ByteSequence
  | 0, _, _ => []
  | fuel + 1, low, high =>
      if high < low then []
      else if low < 0xE000 && 0xD7FF < high then
        sequencesOf fuel low 0xD7FF ++ sequencesOf fuel 0xE000 high
      else
        match cut? low high with
        | some place => sequencesOf fuel low (place - 1) ++ sequencesOf fuel place high
        | none => [(bytesOfCode low).zip (bytesOfCode high)]

/-- The byte sequences of the characters in a set. -/
def CharClass.sequences (set : CharClass) : List ByteSequence :=
  set.ranges.flatMap fun range => sequencesOf 64 range.1 range.2

/-! ## States of a set -/

/-- The sequences that begin with the same range, without it. -/
def groupByHead (sequences : List ByteSequence) : List ((Nat × Nat) × List ByteSequence) :=
  sequences.foldr
    (fun sequence groups =>
      match sequence with
      | [] => groups
      | head :: tail =>
          match groups with
          | (first, tails) :: rest =>
              if first = head then (first, tail :: tails) :: rest
              else (head, [tail]) :: groups
          | [] => [(head, [tail])])
    []

/-- A state as its transitions: ranges of bytes and the numbers of the states they lead to. -/
abbrev SharedState := List ((Nat × Nat) × Nat)

mutual

/-- Adds the states that tell sequences apart, and gives the number of the first. States with the
same transitions are one state; the end has number zero. -/
def shareStates : Nat → List ByteSequence → List SharedState → Nat × List SharedState
  | 0, _, states => (0, states)
  | fuel + 1, sequences, states =>
      if sequences.all List.isEmpty then (0, states)
      else
        let (state, states) := shareGroups fuel (groupByHead sequences) states
        match states.findIdx? (· == state) with
        | some index => (index + 1, states)
        | none => (states.length + 1, states ++ [state])

def shareGroups : Nat → List ((Nat × Nat) × List ByteSequence) → List SharedState →
    SharedState × List SharedState
  | 0, _, states => ([], states)
  | _ + 1, [], states => ([], states)
  | fuel + 1, (head, tails) :: groups, states =>
      let (target, states) := shareStates fuel tails states
      let (state, states) := shareGroups fuel groups states
      ((head, target) :: state, states)

end

/-- The number of different beginnings of sequences. -/
def countBeginnings : Nat → List ByteSequence → Nat
  | 0, _ => 0
  | fuel + 1, sequences =>
      (groupByHead sequences).foldl
        (fun count group => count + 1 + countBeginnings fuel group.2) 0

/-! ## Room -/

/-- The room of a state. -/
def stateRoom : Nat := 32

/-- The room of a state with transitions; a single one takes none. -/
def transitionsRoom (count : Nat) : Nat := stateRoom + if count = 1 then 0 else 8 * count

/-- The room of a state with branches. -/
def branchesRoom (count : Nat) : Nat := stateRoom + 4 * count

/-- The room of a set in one direction. -/
def CharClass.room (isForward : Bool) (set : CharClass) : Nat :=
  match set.ranges with
  | [] => stateRoom
  | [(low, high)] =>
      if low = high then stateRoom * (bytesOfCode low).length
      else if high < 0x80 then 2 * stateRoom
      else setRoom
  | ranges =>
      if ranges.all fun range => range.2 < 0x80 then
        stateRoom + transitionsRoom ranges.length
      else setRoom
where
  setRoom : Nat :=
    let sequences := set.sequences
    if isForward then
      let states := (shareStates (sequences.length + 8) sequences []).2
      states.foldl (fun room state => room + transitionsRoom state.length) stateRoom
    else
      branchesRoom sequences.length + stateRoom * (countBeginnings 4 sequences + 1)

/-- The room of an expression in one direction. -/
def Expr.room (isForward : Bool) : Expr → Nat
  | .empty => stateRoom
  | .one set => set.room isForward
  | .look _ => stateRoom
  | .sequence first second => first.room isForward + second.room isForward
  | .either preferred other =>
      let own := match other with
        | .either _ _ => 4
        | _ => stateRoom + branchesRoom 2
      own + preferred.room isForward + other.room isForward
  | .repeated body least most _ =>
      let once := body.room isForward
      match most with
      | none => least.max 1 * once + branchesRoom 2
      | some most =>
          if most = least then least * once + if least = 0 then stateRoom else 0
          else least * once + stateRoom + (most - least) * (once + branchesRoom 2)
  | .captured body => body.room isForward + if isForward then 2 * stateRoom else 0

/-- The room that no pattern may exceed. -/
def roomLimit : Nat := 10 * Nat.pow 2 20

/-- The room of the states that every pattern has. -/
def frameRoom : Nat := 5 * stateRoom

/-- Whether a pattern takes too much room. -/
def Expr.isTooLarge (expression : Expr) : Bool :=
  roomLimit < frameRoom + expression.room true || roomLimit < frameRoom + expression.room false

end FunctionAtlas.Regex
