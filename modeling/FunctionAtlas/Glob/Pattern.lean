/-!
Contract: glob patterns and how they are written.

A question mark stands for any byte, a star for any bytes, brackets for one byte of a class, and
braces for one of several patterns. Two stars that fill a whole piece of a path stand for any
number of pieces. A backslash takes away the meaning of the character after it.

Owns: the tokens of patterns, the reader, and what is wrong with a text that is no pattern.

Does not own: which paths match.
-/

namespace FunctionAtlas.Glob

/-- A part of a pattern. -/
inductive Token where
  | literal (character : Char)
  /-- Any byte. -/
  | any
  /-- Any bytes. -/
  | anything
  /-- Any number of pieces at the start of a path. -/
  | leadingPieces
  /-- A slash and all that follows, at the end of a path. -/
  | trailingPieces
  /-- Any number of pieces between slashes. -/
  | innerPieces
  | oneOf (isNegated : Bool) (ranges : List (Char × Char))
  | alternatives (branches : List (List Token))
deriving Repr

/-- Why a text is no pattern. -/
inductive Fault where
  | unclosedClass
  | invalidRange (low high : Char)
  | unopenedGroup
  | unclosedGroup
  | danglingEscape
deriving DecidableEq, Repr

def Fault.message : Fault → String
  | .unclosedClass => "unclosed character class; missing ']'"
  | .invalidRange low high =>
      "invalid range; '" ++ low.toString ++ "' > '" ++ high.toString ++ "'"
  | .unopenedGroup =>
      "unopened alternate group; missing '\x7b' (maybe escape '\x7d' with '[\x7d]'?)"
  | .unclosedGroup =>
      "unclosed alternate group; missing '\x7d' (maybe escape '\x7b' with '[\x7b]'?)"
  | .danglingEscape => "dangling '\\'"

/-! ## Reading -/

/-- Tokens that are being read, newest first, and the finished branches of their group, newest
first. -/
structure Branch where
  tokens : List Token
  finished : List (List Token)

/-- The branch that is being read, and those of the groups around it, innermost first. -/
structure Reading where
  current : Branch
  outer : List Branch

namespace Reading

def start : Reading := { current := ⟨[], []⟩, outer := [] }

def push (reading : Reading) (token : Token) : Reading :=
  { reading with current.tokens := token :: reading.current.tokens }

/-- Two stars that do not fill a piece are two single ones. -/
def pushStars (reading : Reading) : Reading := (reading.push .anything).push .anything

def isInGroup (reading : Reading) : Bool := !reading.outer.isEmpty

/-- Begins a group. -/
def openGroup (reading : Reading) : Reading :=
  { current := ⟨[], []⟩, outer := reading.current :: reading.outer }

/-- Begins the next branch of the group. -/
def nextBranch (reading : Reading) : Reading :=
  { reading with
    current := ⟨[], reading.current.tokens.reverse :: reading.current.finished⟩ }

/-- Ends the group. -/
def closeGroup (reading : Reading) : Except Fault Reading :=
  match reading.outer with
  | [] => .error .unopenedGroup
  | branch :: outer =>
      let branches := (reading.current.tokens.reverse :: reading.current.finished).reverse
      .ok { current := { branch with tokens := .alternatives branches :: branch.tokens }, outer }

/-- The token that stands for two stars after a slash, in place of that slash. Pieces that are
already unlimited stay so. -/
def absorb (isLast : Bool) (reading : Reading) : Reading :=
  let replacement := if isLast then Token.trailingPieces else .innerPieces
  match reading.current.tokens with
  | .leadingPieces :: _ => reading
  | .trailingPieces :: _ => reading
  | _ :: tokens => { reading with current.tokens := replacement :: tokens }
  | [] => reading.push replacement

/-- Reads two stars, after the character `previous` and before `rest`. Gives back what is left. -/
def doubleStar (reading : Reading) (previous : Option Char) (rest : List Char) :
    Reading × List Char :=
  if reading.current.tokens.isEmpty then
    match rest with
    | [] => (reading.push .leadingPieces, [])
    | '/' :: rest => (reading.push .leadingPieces, rest)
    | rest => (reading.pushStars, rest)
  else if previous ≠ some '/' then (reading.pushStars, rest)
  else
    match rest with
    | [] => (reading.absorb true, [])
    | '/' :: rest => (reading.absorb false, rest)
    | other :: rest =>
        if reading.isInGroup && (other = ',' || other = '\x7d') then
          (reading.absorb true, other :: rest)
        else (reading.pushStars, other :: rest)

end Reading

/-! ## Classes -/

/-- Sets the upper bound of the newest range. -/
def closeRange (high : Char) : List (Char × Char) → Except Fault (List (Char × Char))
  | [] => .ok []
  | (low, _) :: ranges =>
      if high < low then .error (.invalidRange low high) else .ok ((low, high) :: ranges)

/-- The rest of a class: its ranges so far, newest first, whether it has just begun, and whether a
range waits for its upper bound. Gives back the ranges and what follows the class. -/
def readRanges (ranges : List (Char × Char)) (isFirst inRange : Bool) :
    List Char → Except Fault (List (Char × Char) × List Char)
  | [] => .error .unclosedClass
  | ']' :: rest =>
      if isFirst then readRanges ((']', ']') :: ranges) false inRange rest
      else
        let ranges := if inRange then ('-', '-') :: ranges else ranges
        .ok (ranges.reverse, rest)
  | '-' :: rest =>
      if isFirst then readRanges (('-', '-') :: ranges) false inRange rest
      else if inRange then
        match closeRange '-' ranges with
        | .error fault => .error fault
        | .ok ranges => readRanges ranges false false rest
      else readRanges ranges false true rest
  | character :: rest =>
      if inRange then
        match closeRange character ranges with
        | .error fault => .error fault
        | .ok ranges => readRanges ranges false false rest
      else readRanges ((character, character) :: ranges) false false rest

/-- A class after its opening bracket. -/
def readClass (rest : List Char) : Except Fault (Token × List Char) :=
  let (isNegated, body) := match rest with
    | '!' :: body => (true, body)
    | '^' :: body => (true, body)
    | body => (false, body)
  (readRanges [] true false body).map fun (ranges, rest) => (.oneOf isNegated ranges, rest)

/-! ## Patterns -/

/-- The character that ends what has been consumed of a text. -/
def lastConsumed (before after : List Char) : Option Char :=
  (before.take (before.length - after.length)).getLast?

/-- Reads the rest of a pattern after the character `previous`. Every step consumes a character,
so the length of the text is fuel enough. -/
def readTokens : Nat → Reading → Option Char → List Char → Except Fault Reading
  | 0, reading, _, _ => .ok reading
  | _ + 1, reading, _, [] => .ok reading
  | fuel + 1, reading, previous, character :: rest =>
      match character with
      | '?' => readTokens fuel (reading.push .any) (some '?') rest
      | '*' =>
          match rest with
          | '*' :: after =>
              let (reading, remaining) := reading.doubleStar previous after
              readTokens fuel reading (lastConsumed (character :: rest) remaining) remaining
          | _ => readTokens fuel (reading.push .anything) (some '*') rest
      | '[' =>
          match readClass rest with
          | .error fault => .error fault
          | .ok (token, remaining) => readTokens fuel (reading.push token) (some ']') remaining
      | '\x7b' => readTokens fuel reading.openGroup (some character) rest
      | '\x7d' =>
          match reading.closeGroup with
          | .error fault => .error fault
          | .ok reading => readTokens fuel reading (some character) rest
      | ',' =>
          let reading := if reading.isInGroup then reading.nextBranch
            else reading.push (.literal ',')
          readTokens fuel reading (some ',') rest
      | '\\' =>
          match rest with
          | [] => .error .danglingEscape
          | escaped :: rest => readTokens fuel (reading.push (.literal escaped)) (some escaped) rest
      | _ => readTokens fuel (reading.push (.literal character)) (some character) rest

/-- Reads a pattern. -/
def read (text : String) : Except Fault (List Token) :=
  let characters := text.toList
  match readTokens characters.length .start none characters with
  | .error fault => .error fault
  | .ok reading =>
      if reading.isInGroup then .error .unclosedGroup else .ok reading.current.tokens.reverse

end FunctionAtlas.Glob
