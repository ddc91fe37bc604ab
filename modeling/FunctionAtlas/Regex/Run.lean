import FunctionAtlas.Regex.Program
import Std.Data.HashSet

/-!
Contract: running programs on texts.

A program runs along a text with several threads at once, ordered by preference. A thread is the
address of an instruction that reads a character. When a thread reaches the end of the program, it
matches, and the threads that are less preferred are given up. So the match at a position is the
most preferred one.

Owns: the match of a program at a position, and the matches in a text from left to right.
-/

namespace FunctionAtlas.Regex

/-! ## Conditions -/

/-- ASCII word characters. -/
def isAsciiWord (character : Char) : Bool := character.isAlphanum || character = '_'

/-- Whether a condition holds between the characters before and after a position. -/
def Look.holds (words : Text.RangeTable) (before after : Option Char) (condition : Look) : Bool :=
  let isWord := fun (isUnicode : Bool) (character : Option Char) =>
    match character with
    | none => false
    | some character =>
        if isUnicode then words.contains character.toNat else isAsciiWord character
  match condition with
  | .textStart => before = none
  | .textEnd => after = none
  | .lineStart => before = none || before = some '\n'
  | .lineEnd => after = none || after = some '\n'
  | .anyLineStart =>
      before = none || before = some '\n' || (before = some '\r' && after ≠ some '\n')
  | .anyLineEnd =>
      after = none || after = some '\r' || (after = some '\n' && before ≠ some '\r')
  | .wordBoundary isUnicode => isWord isUnicode before != isWord isUnicode after
  | .notWordBoundary isUnicode => isWord isUnicode before == isWord isUnicode after
  | .wordStart isUnicode => !isWord isUnicode before && isWord isUnicode after
  | .wordEnd isUnicode => isWord isUnicode before && !isWord isUnicode after
  | .wordStartHalf isUnicode => !isWord isUnicode before
  | .wordEndHalf isUnicode => !isWord isUnicode after

/-! ## Threads -/

namespace Program

/-- Follows addresses, in order of preference, up to the instructions that read a character and to
the end of the program. An address is followed once. -/
def follow (program : Program) (before after : Option Char) :
    Nat → List Nat → Std.HashSet Nat → List Nat
  | 0, _, _ => []
  | _ + 1, [], _ => []
  | fuel + 1, address :: pending, seen =>
      if seen.contains address then follow program before after fuel pending seen
      else
        let seen := seen.insert address
        match program.code[address]? with
        | some (.fork preferred other) =>
            follow program before after fuel (preferred :: other :: pending) seen
        | some (.jump target) => follow program before after fuel (target :: pending) seen
        | some (.check condition) =>
            if condition.holds program.words before after then
              follow program before after fuel ((address + 1) :: pending) seen
            else follow program before after fuel pending seen
        | some (.read _) | none => address :: follow program before after fuel pending seen

/-- The threads that addresses lead to. An address that is followed adds at most two, so the steps
are enough. -/
def threadsFrom (program : Program) (before after : Option Char) (addresses : List Nat) :
    List Nat :=
  program.follow before after (2 * program.code.size + addresses.length + 3) addresses ∅

/-- Where a thread goes on after it reads a character. -/
def advance (program : Program) (character : Char) (address : Nat) : Option Nat :=
  match program.code[address]? with
  | some (.read set) => if set.contains character.toNat then some (address + 1) else none
  | _ => none

/-- The number of characters in the preferred match, for threads that have read some already and
the best match so far. -/
def run (program : Program) : List Nat → Nat → Option Nat → List Char → Option Nat
  | threads, taken, best, rest =>
      let isMatch := threads.contains program.code.size
      let alive := threads.takeWhile (· ≠ program.code.size)
      let best := if isMatch then some taken else best
      match rest with
      | [] => best
      | character :: rest =>
          if alive.isEmpty then best
          else
            let next := alive.filterMap (program.advance character)
            run program (program.threadsFrom (some character) rest.head? next) (taken + 1) best rest

/-- The number of characters in the preferred match that begins at a position, given by the
character before it and the characters after it. -/
def matchLength? (program : Program) (before : Option Char) (rest : List Char) : Option Nat :=
  program.run (program.threadsFrom before rest.head? [0]) 0 none rest

/-- The matches that are not empty, from left to right, each one behind the one before it. They
are given as byte offsets, of which `offset` is the first; `taken` characters still belong to the
last match. -/
def matchesFrom (program : Program) (before : Option Char) (offset taken : Nat) :
    List Char → List (Nat × Nat)
  | [] => []
  | character :: rest =>
      let following := offset + character.utf8Size
      match taken with
      | taken + 1 => matchesFrom program (some character) following taken rest
      | 0 =>
          match program.matchLength? before (character :: rest) with
          | some (length + 1) =>
              let matched := (character :: rest).take (length + 1)
              let stop := matched.foldl (fun stop character => stop + character.utf8Size) offset
              (offset, stop) :: matchesFrom program (some character) following length rest
          | _ => matchesFrom program (some character) following 0 rest

/-- The matches in a text that are not empty, as ranges of bytes. -/
def matches_ (program : Program) (text : List Char) : List (Nat × Nat) :=
  program.matchesFrom none 0 0 text

end Program

end FunctionAtlas.Regex
