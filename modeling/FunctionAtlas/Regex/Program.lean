import FunctionAtlas.Regex.Expr

/-!
Contract: expressions as instructions.

The code of an expression continues behind its last instruction, and a program matches when it
runs off its end. The code of a part depends on where it stands only through the targets of its
forks and jumps.

Owns: instructions, and the program of an expression.

Does not own: how programs run.
-/

namespace FunctionAtlas.Regex

/-- A step of a program. -/
inductive Instruction where
  /-- Reads one character of a set. -/
  | read (set : Text.RangeTable)
  /-- Goes on only where a condition holds. -/
  | check (condition : Look)
  /-- Goes on at two places, the first one preferred. -/
  | fork (preferred other : Nat)
  | jump (target : Nat)

namespace Expr

/-- The number of instructions of an expression. -/
def width : Expr → Nat
  | .empty => 0
  | .one _ => 1
  | .look _ => 1
  | .sequence first second => first.width + second.width
  | .either preferred other => preferred.width + other.width + 2
  | .repeated body least most _ =>
      match most with
      | some most => least * body.width + (most - least) * (body.width + 1)
      | none => if least = 0 then body.width + 2 else least * body.width + 1
  | .captured body => body.width

/-- A fork that prefers to stay in a repetition if it is greedy. -/
def choose (isGreedy : Bool) (stay leave : Nat) : Instruction :=
  if isGreedy then .fork stay leave else .fork leave stay

/-- The instructions of an expression that stands at an address. -/
def code : Expr → Nat → List Instruction
  | .empty, _ => []
  | .one set, _ => [.read (Text.RangeTable.ofRanges set.ranges)]
  | .look condition, _ => [.check condition]
  | .sequence first second, start => first.code start ++ second.code (start + first.width)
  | .either preferred other, start =>
      let second := start + preferred.width + 2
      [.fork (start + 1) second] ++ preferred.code (start + 1) ++
        [.jump (second + other.width)] ++ other.code second
  | .repeated body least most isGreedy, start =>
      let copies := (List.range least).flatMap fun index => body.code (start + index * body.width)
      let behind := start + least * body.width
      match most with
      | some most =>
          let stop := behind + (most - least) * (body.width + 1)
          copies ++ (List.range (most - least)).flatMap fun index =>
            let here := behind + index * (body.width + 1)
            choose isGreedy (here + 1) stop :: body.code (here + 1)
      | none =>
          if least = 0 then
            let stop := start + body.width + 2
            [choose isGreedy (start + 1) stop] ++ body.code (start + 1) ++
              [choose isGreedy (start + 1) stop]
          else copies ++ [choose isGreedy (behind - body.width) (behind + 1)]
  | .captured body, start => body.code start

end Expr

/-- Instructions, and what counts as a word character. -/
structure Program where
  code : Array Instruction
  words : Text.RangeTable

namespace Look

def usesWords : Look → Bool
  | .wordBoundary isUnicode | .notWordBoundary isUnicode | .wordStart isUnicode
  | .wordEnd isUnicode | .wordStartHalf isUnicode | .wordEndHalf isUnicode => isUnicode
  | _ => false

end Look

/-- Whether instructions ask for word characters in all of Unicode. -/
def Instruction.usesWords : Instruction → Bool
  | .check condition => condition.usesWords
  | _ => false

/-- The program of an expression. -/
def Program.ofExpr (expression : Expr) : Program :=
  let code := (expression.code 0).toArray
  let words := if code.any Instruction.usesWords then Property.word else CharClass.empty
  { code, words := Text.RangeTable.ofRanges words.ranges }

end FunctionAtlas.Regex
