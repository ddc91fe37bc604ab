import FunctionAtlas.Glob.Pattern

/-!
Contract: which paths a pattern matches.

Paths are matched as bytes. A token is understood as the ways in which it can consume the start of
a path, that is by the remainders it leaves, and a pattern matches if its tokens in a row can leave
nothing.

Owns: matching of patterns, and sets of patterns.
-/

namespace FunctionAtlas.Glob

/-! ## Bytes -/

/-- The bytes of a character. -/
def bytesOf (character : Char) : List UInt8 := (String.singleton character).toUTF8.toList

/-- Inclusive ranges of bytes. A range of characters gives its bounds byte by byte, and the range
from the last byte of the one to the first byte of the other. -/
def byteRanges (range : Char × Char) : List (UInt8 × UInt8) :=
  let low := bytesOf range.1
  let high := bytesOf range.2
  let single := fun byte => (byte, byte)
  if range.1 = range.2 then low.map single
  else
    low.dropLast.map single ++ [(low.getLastD 0, high.headD 0)] ++ (high.drop 1).map single

/-- Whether a byte is in a class. -/
def inClass (ranges : List (Char × Char)) (byte : UInt8) : Bool :=
  (ranges.flatMap byteRanges).any fun range => range.1 ≤ byte && byte ≤ range.2

def slash : UInt8 := 0x2f

/-! ## Remainders -/

/-- What is left after consuming a slash in all possible ways. -/
def afterSlashes : List UInt8 → List (List UInt8)
  | [] => []
  | byte :: rest => if byte = slash then rest :: afterSlashes rest else afterSlashes rest

/-- What is left after a text at the start. -/
def afterText : List UInt8 → List UInt8 → List (List UInt8)
  | [], path => [path]
  | _ :: _, [] => []
  | expected :: text, byte :: path => if expected = byte then afterText text path else []

/-- What is left after one byte of some kind. -/
def afterByte (accepts : UInt8 → Bool) : List UInt8 → List (List UInt8)
  | [] => []
  | byte :: path => if accepts byte then [path] else []

/-- Remainders of one path differ by their lengths; keeps one of each. -/
def distinct (remainders : List (List UInt8)) : List (List UInt8) :=
  remainders.foldr
    (fun remainder kept =>
      if kept.any fun other => other.length = remainder.length then kept else remainder :: kept) []

/-- A path and all its ends. -/
def suffixes : List UInt8 → List (List UInt8)
  | [] => [[]]
  | byte :: rest => (byte :: rest) :: suffixes rest

mutual

/-- Whether a token says nothing: it is a group without a branch that says something. -/
def isSilentToken : Token → Bool
  | .alternatives branches => areSilentBranches branches
  | _ => false

def areSilentBranches : List (List Token) → Bool
  | [] => true
  | branch :: branches => areSilentTokens branch && areSilentBranches branches

def areSilentTokens : List Token → Bool
  | [] => true
  | token :: tokens => isSilentToken token && areSilentTokens tokens

end

mutual

/-- The remainders that a token leaves. Branches that say nothing do not count, and a group of
such branches consumes nothing. -/
def remaindersOf : Token → List UInt8 → List (List UInt8)
  | .literal character, path => afterText (bytesOf character) path
  | .any, path => afterByte (fun _ => true) path
  | .anything, path => suffixes path
  | .leadingPieces, path =>
      path :: (afterText [slash] path ++ afterSlashes path)
  | .trailingPieces, path => (afterText [slash] path).flatMap suffixes
  | .innerPieces, path =>
      (afterText [slash] path).flatMap fun rest => rest :: afterSlashes rest
  | .oneOf isNegated ranges, path => afterByte (fun byte => inClass ranges byte != isNegated) path
  | .alternatives branches, path =>
      if areSilentBranches branches then [path] else remaindersOfAny branches path

/-- The remainders that some branch leaves. -/
def remaindersOfAny : List (List Token) → List UInt8 → List (List UInt8)
  | [], _ => []
  | branch :: branches, path =>
      (if areSilentTokens branch then [] else remaindersOfAll branch [path]) ++
        remaindersOfAny branches path

/-- The remainders that tokens in a row leave. -/
def remaindersOfAll : List Token → List (List UInt8) → List (List UInt8)
  | [], paths => paths
  | token :: tokens, paths =>
      remaindersOfAll tokens (distinct (paths.flatMap (remaindersOf token)))

end

/-! ## Patterns -/

def isLiteral : Token → Bool
  | .literal _ => true
  | _ => false

def isPlainLiteral : Token → Bool
  | .literal character => character ≠ '/' && character ≠ '.'
  | _ => false

def isPieceLiteral : Token → Bool
  | .literal character => character ≠ '/'
  | _ => false

/-- A star, then a dot and an extension, perhaps in any folder. -/
def isExtensionForm (tokens : List Token) : Bool :=
  let body := match tokens with
    | .leadingPieces :: body => body
    | body => body
  match body with
  | .anything :: .literal '.' :: extension => extension.all isPlainLiteral
  | _ => false

/-- A name in any folder. -/
def isNameForm (tokens : List Token) : Bool :=
  match tokens with
  | .leadingPieces :: name => !name.isEmpty && name.all isPieceLiteral
  | _ => false

/-- Any bytes, then a text. -/
def isEndingForm (tokens : List Token) : Bool :=
  match tokens with
  | .leadingPieces :: .anything :: ending => !ending.isEmpty && ending.all isLiteral
  | .leadingPieces :: ending => !ending.isEmpty && ending.all isLiteral
  | .anything :: ending => !ending.isEmpty && ending.all isLiteral
  | ending => ending.all isLiteral

/-- Whether the last literals are a dot and an extension. -/
def endsInExtension (tokens : List Token) : Bool :=
  match (tokens.reverse.dropWhile isPlainLiteral).head? with
  | some (.literal '.') => true
  | _ => false

/-- Patterns that are decided by the name of a file; the two dots of the folder above are none. -/
def isDecidedByName (tokens : List Token) : Bool :=
  isNameForm tokens || isExtensionForm tokens ||
    (endsInExtension tokens && !isEndingForm tokens)

/-- Whether the last piece of a path is a name. -/
def hasName (path : String) : Bool :=
  String.ofList (path.toList.reverse.takeWhile (· ≠ '/')) ≠ ".."

/-- Whether a pattern matches a path. -/
def matches_ (tokens : List Token) (path : String) : Bool :=
  match tokens with
  | [.leadingPieces] => true
  | _ =>
      (hasName path || !isDecidedByName tokens) &&
        (remaindersOfAll tokens [path.toUTF8.toList]).any List.isEmpty

/-- Whether some pattern matches a path. -/
def anyMatches (patterns : List (List Token)) (path : String) : Bool :=
  patterns.any fun tokens => matches_ tokens path

end FunctionAtlas.Glob
