import FunctionAtlas.Regex.Property
import FunctionAtlas.Regex.SetReader

/-!
Contract: reading patterns.

Owns: groups with their names and switches, repetitions, alternatives, and the limit on nesting.

Does not own: what a pattern matches.
-/

namespace FunctionAtlas.Regex

/-! ## Groups -/

/-- Characters in the name of a group. The first one is a letter or an underscore. -/
def isNameCharacter (isFirst : Bool) (character : Char) : Bool :=
  let isLetter := character = '_' || character.isAlpha ||
    (0x80 ≤ character.toNat && (Property.ofName "Alphabetic").contains character.toNat)
  let isFurther := character = '.' || character = '[' || character = ']' || character.isDigit ||
    (0x80 ≤ character.toNat &&
      (Property.ofCategories ["Nd", "Nl", "No"]).contains character.toNat)
  isLetter || (!isFirst && isFurther)

/-- The characters of a name up to the closing bracket. -/
def readNameCharacters : Nat → Bool → Reader Unit
  | 0, _ => return ()
  | fuel + 1, isFirst => do
      match ← Reader.peek? 0 with
      | none | some '>' => return ()
      | some character =>
          if isNameCharacter isFirst character then
            let _ ← Reader.advance
            readNameCharacters fuel false
          else Reader.failAtNext .groupNameInvalid

/-- The name of a group, after the opening bracket. Names are used once. -/
def readGroupName : Reader Unit := do
  let start ← Reader.position
  readNameCharacters (← Reader.fuel) true
  let stop ← Reader.position
  if ← Reader.isAtEnd then Reader.failHere .groupNameUnclosed
  let _ ← Reader.advance
  if start = stop then Reader.fail .groupNameEmpty start start
  let cursor ← get
  let name := String.ofList (cursor.pattern.extract start stop).toList
  match cursor.names.lookup name with
  | some earlier => Reader.fail .groupNameDuplicate start stop (some earlier)
  | none => set { cursor with names := (name, ⟨start, stop⟩) :: cursor.names }

/-- Switches as they are written: letters, and the sign after which they are turned off. -/
abbrev WrittenFlags := List (Option Flag × Span)

/-- The switches up to a colon or a closing bracket. -/
def readFlags : Nat → WrittenFlags → Reader WrittenFlags
  | 0, items => return items
  | fuel + 1, items => do
      let place ← Reader.position
      let item : Option Flag × Option FaultKind ← match ← Reader.peek? 0 with
        | none => Reader.failHere .flagUnfinished
        | some ':' | some ')' => pure (none, none)
        | some '-' => pure (none, some .flagNegationRepeated)
        | some letter =>
            match Flag.ofLetter? letter with
            | none => Reader.failAtNext .flagUnrecognized
            | some flag => pure (some flag, some .flagDuplicate)
      match item with
      | (_, none) =>
          match items.getLast? with
          | some (none, span) => Reader.fail .flagNegationDangling span.start span.stop
          | _ => return items
      | (flag, some kind) =>
          match items.lookup flag with
          | some earlier => Reader.failAtNext kind (some earlier)
          | none =>
              if !(← Reader.advance) then Reader.failHere .flagUnfinished
              readFlags fuel (items ++ [(flag, ⟨place, place + 1⟩)])

/-- Which switches are turned on and off. -/
def settingOf (items : WrittenFlags) : FlagSetting :=
  let turnedOn := items.takeWhile fun item => item.1.isSome
  let turnedOff := items.drop turnedOn.length
  turnedOn.filterMap (fun item => item.1.map fun flag => (flag, true)) ++
    turnedOff.filterMap fun item => item.1.map fun flag => (flag, false)

/-- What an opening bracket begins. -/
inductive Opening where
  | flags (setting : FlagSetting)
  | group (isCaptured : Bool) (setting : FlagSetting)

/-- Whether a group begins that asks for what stands around it. -/
def readLookAround : Reader Bool := do
  if ← Reader.advanceOver "?=" then return true
  if ← Reader.advanceOver "?!" then return true
  if ← Reader.advanceOver "?<=" then return true
  Reader.advanceOver "?<!"

/-- The beginning of a group, or switches in brackets. -/
def readOpeningBracket : Reader Opening := do
  let start ← Reader.position
  let _ ← Reader.advance
  Reader.advanceBlanks
  if ← readLookAround then Reader.fail .lookAround start (← Reader.position)
  let inner ← Reader.position
  if (← Reader.advanceOver "?P<") || (← Reader.advanceOver "?<") then
    if ← Reader.isAtEnd then Reader.failHere .groupNameUnclosed
    readGroupName
    return .group true []
  if ← Reader.advanceOver "?" then
    if ← Reader.isAtEnd then Reader.fail .groupUnclosed start (start + 1)
    let items ← readFlags (← Reader.fuel) []
    let closing ← Reader.peek? 0
    let _ ← Reader.advance
    if closing = some ')' then
      if items.isEmpty then Reader.fail .repetitionMissing inner inner
      return .flags (settingOf items)
    return .group false (settingOf items)
  return .group true []

/-! ## Repetitions -/

/-- The largest number that is read. -/
def largestCount : Nat := 0xFFFFFFFF

/-- Digits and the blanks between them that do not count. -/
def readDigits : Nat → List Char → Reader (List Char)
  | 0, digits => return digits
  | fuel + 1, digits => do
      match ← Reader.peek? 0 with
      | none => return digits
      | some character =>
          if character.isDigit then
            let _ ← Reader.advanceAndBlanks
            readDigits fuel (digits ++ [character])
          else return digits

/-- White space, which does not count around numbers. -/
def readWhiteSpace : Nat → Reader Unit
  | 0 => return ()
  | fuel + 1 => do
      match ← Reader.peek? 0 with
      | none => return ()
      | some character =>
          if Text.isBlank character then
            let _ ← Reader.advance
            readWhiteSpace fuel
          else return ()

/-- A number, or why there is none. -/
def readCount : Reader (Except Fault Nat) := do
  readWhiteSpace (← Reader.fuel)
  let start ← Reader.position
  let digits ← readDigits (← Reader.fuel) []
  let span : Span := ⟨start, ← Reader.position⟩
  readWhiteSpace (← Reader.fuel)
  let value := digits.foldl (fun value digit => value * 10 + (digit.toNat - '0'.toNat)) 0
  if digits.isEmpty then return .error { kind := .repetitionCountEmpty, span }
  if largestCount < value then return .error { kind := .decimalInvalid, span }
  return .ok value

/-- A number, where there has to be one. -/
def needCount (count : Except Fault Nat) : Reader Nat := fun cursor =>
  match count with
  | .ok value => .ok (value, cursor)
  | .error fault => .error fault

/-- The least and the greatest number of a repetition in braces, up to the closing brace. -/
def readCounts (start : Nat) : Reader (Nat × Option Nat) := do
  let unclosed : Reader Unit := do Reader.fail .repetitionUnclosed start (← Reader.position)
  if !(← Reader.advanceAndBlanks) then unclosed
  let least ← readCount
  if ← Reader.isAtEnd then unclosed
  if (← Reader.peek? 0) = some ',' then
    if !(← Reader.advanceAndBlanks) then unclosed
    if (← Reader.peek? 0) = some '\x7d' then return (← needCount least, none)
    let least ← needCount least
    let most ← needCount (← readCount)
    return (least, some most)
  let count ← needCount least
  return (count, some count)

/-- Whether a part can be repeated. -/
def isRepeatable : Syntax → Bool
  | .empty | .flags _ => false
  | _ => true

/-- A part with where it begins. -/
abbrev Placed := Nat × Syntax

/-- A repetition of the last part. -/
def readRepetition (letter : Char) (items : List Placed) : Reader (List Placed) := do
  let start ← Reader.position
  match items with
  | [] => Reader.failHere .repetitionMissing
  | (first, body) :: earlier =>
      if !isRepeatable body then Reader.failHere .repetitionMissing
      let counts : Nat × Option Nat ← match letter with
        | '?' => pure (0, some 1)
        | '*' => pure (0, none)
        | '+' => pure (1, none)
        | _ => readCounts start
      let isCounted := letter = '\x7b'
      if isCounted && (← Reader.peek? 0) ≠ some '\x7d' then
        Reader.fail .repetitionUnclosed start (← Reader.position)
      let hasMore ← if isCounted then Reader.advanceAndBlanks else Reader.advance
      let isLazy ← if hasMore then pure ((← Reader.peek? 0) == some '?') else pure false
      if isLazy then
        let _ ← Reader.advance
      let stop ← Reader.position
      if let (least, some most) := counts then
        if most < least then Reader.fail .repetitionCountInvalid start stop
      return (first, .repetition ⟨first, stop⟩ counts.1 counts.2 (!isLazy) body) :: earlier

/-! ## Patterns -/

/-- Parts in a row, or the only part. -/
def sequenceOf (span : Span) : List Placed → Syntax
  | [] => .empty
  | [item] => item.2
  | items => .concatenation span (items.reverse.map Prod.snd)

/-- Alternatives, or the only one. -/
def alternativesOf (span : Span) : List Syntax → Syntax
  | [branch] => branch
  | branches => .alternation span branches.reverse

/-- The parts since the last alternative began, after the earlier alternatives. -/
def wholeOf (bodyStart : Nat) (branches : List Syntax) (start stop : Nat) (items : List Placed) :
    Syntax :=
  alternativesOf ⟨bodyStart, stop⟩ (sequenceOf ⟨start, stop⟩ items :: branches)

/-- The parts up to the end of the pattern, or of the group that opens at a place. Earlier
alternatives and the parts since the last one are given in reverse, with where they begin. -/
def readParts :
    Nat → Option Nat → Nat → List Syntax → Nat → List Placed → Reader Syntax
  | 0, _, _, _, _, _ => return .empty
  | fuel + 1, opening, bodyStart, branches, start, items => do
      Reader.advanceBlanks
      let place ← Reader.position
      match ← Reader.peek? 0 with
      | none =>
          match opening with
          | some bracket => Reader.fail .groupUnclosed bracket (bracket + 1)
          | none => return wholeOf bodyStart branches start place items
      | some ')' =>
          match opening with
          | some _ => return wholeOf bodyStart branches start place items
          | none => Reader.failAtNext .groupUnopened
      | some '|' =>
          let _ ← Reader.advance
          readParts fuel opening bodyStart (sequenceOf ⟨start, place⟩ items :: branches)
            (place + 1) []
      | some '(' =>
          let skipsBlanks := (← get).skipsBlanks
          match ← readOpeningBracket with
          | .flags setting =>
              Reader.setSkipsBlanks ((setting.lookup .skipBlanks).getD skipsBlanks)
              readParts fuel opening bodyStart branches start ((place, .flags setting) :: items)
          | .group isCaptured setting =>
              Reader.setSkipsBlanks ((setting.lookup .skipBlanks).getD skipsBlanks)
              let inner ← Reader.position
              let body ← readParts fuel (some place) inner [] inner []
              Reader.setSkipsBlanks skipsBlanks
              let _ ← Reader.advance
              let span : Span := ⟨place, ← Reader.position⟩
              readParts fuel opening bodyStart branches start
                ((place, .group span isCaptured setting body) :: items)
      | some '[' =>
          let content ← readSet
          readParts fuel opening bodyStart branches start ((place, content) :: items)
      | some letter =>
          if letter = '?' || letter = '*' || letter = '+' || letter = '\x7b' then
            let items ← readRepetition letter items
            readParts fuel opening bodyStart branches start items
          else
            let primitive ← readPrimitive
            readParts fuel opening bodyStart branches start ((place, primitive.toSyntax) :: items)

/-! ## Nesting -/

/-- One level deeper, if the limit allows. -/
def deeper (depth : Nat) (span : Span) : Except Fault Nat :=
  if nestingLimit ≤ depth then .error { kind := .nestedTooDeep, span } else .ok (depth + 1)

mutual

/-- Checks the nesting of what stands in brackets. -/
def SetSyntax.checkNesting (depth : Nat) : SetSyntax → Except Fault Unit
  | .bracketed span _ content => do content.checkNesting (← deeper depth span)
  | .union span items => do SetSyntax.checkNestingOfAll (← deeper depth span) items
  | .operation span _ left right => do
      let depth ← deeper depth span
      left.checkNesting depth
      right.checkNesting depth
  | _ => .ok ()

def SetSyntax.checkNestingOfAll (depth : Nat) : List SetSyntax → Except Fault Unit
  | [] => .ok ()
  | item :: items => do
      item.checkNesting depth
      SetSyntax.checkNestingOfAll depth items

end

mutual

/-- Checks the nesting of a pattern. -/
def Syntax.checkNesting (depth : Nat) : Syntax → Except Fault Unit
  | .bracketed span _ content => do content.checkNesting (← deeper depth span)
  | .repetition span _ _ _ body => do body.checkNesting (← deeper depth span)
  | .group span _ _ body => do body.checkNesting (← deeper depth span)
  | .alternation span branches => do Syntax.checkNestingOfAll (← deeper depth span) branches
  | .concatenation span items => do Syntax.checkNestingOfAll (← deeper depth span) items
  | _ => .ok ()

def Syntax.checkNestingOfAll (depth : Nat) : List Syntax → Except Fault Unit
  | [] => .ok ()
  | item :: items => do
      item.checkNesting depth
      Syntax.checkNestingOfAll depth items

end

/-- Reads a pattern. -/
def Syntax.read (pattern : String) : Except Fault Syntax := do
  let cursor : Cursor :=
    { pattern := pattern.toList.toArray, position := 0, skipsBlanks := false, names := [] }
  let (parts, _) ← readParts (cursor.pattern.size + 1) none 0 [] 0 [] cursor
  parts.checkNesting 0
  return parts

end FunctionAtlas.Regex
