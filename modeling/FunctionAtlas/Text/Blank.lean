/-!
Contract: white space, and cutting it off the ends of texts.

Owns: the Unicode property White_Space and trimming by it.
-/

namespace FunctionAtlas.Text

/-- White space: the ASCII blanks and line ends, and the spaces and separators of Unicode. -/
def isBlank (character : Char) : Bool :=
  let code := character.toNat
  (0x09 ≤ code && code ≤ 0x0D) || code = 0x20 || code = 0x85 || code = 0xA0 || code = 0x1680 ||
    (0x2000 ≤ code && code ≤ 0x200A) || code = 0x2028 || code = 0x2029 || code = 0x202F ||
    code = 0x205F || code = 0x3000

/-- The characters after leading white space. -/
def trimLeft (characters : List Char) : List Char := characters.dropWhile isBlank

/-- The characters before trailing white space. -/
def trimRight (characters : List Char) : List Char :=
  (characters.reverse.dropWhile isBlank).reverse

/-- A text without white space at its ends. -/
def trim (text : String) : String := String.ofList (trimRight (trimLeft text.toList))

/-- The characters before the first line end, and those after it if there is one. -/
def splitLine : List Char → List Char × Option (List Char)
  | [] => ([], none)
  | '\n' :: rest => ([], some rest)
  | character :: rest =>
      let (line, remaining) := splitLine rest
      (character :: line, remaining)

/-- A line without a carriage return at its end. -/
def dropReturn (line : List Char) : List Char :=
  if line.getLast? = some '\r' then line.dropLast else line

/-- The first line of a text. A carriage return counts to the line end only before a line feed. -/
def firstLine (text : String) : String :=
  match splitLine text.toList with
  | (line, some _) => String.ofList (dropReturn line)
  | (line, none) => String.ofList line

end FunctionAtlas.Text
