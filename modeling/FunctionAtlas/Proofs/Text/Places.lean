import FunctionAtlas.Proofs.Text.ByteOrder
import FunctionAtlas.Text.Extent
import Mathlib.Data.List.Induction
import Mathlib.Tactic.SplitIfs

/-!
Contract: places in a text are extents of what stands before them.

Extents add up like the texts that they belong to. So the distance between two places leads from
the earlier one to the later one, and a place is known by its number of bytes alone. What a place
says of lines and columns is found again by counting line feeds, and bytes since the last one,
among the bytes before it.

Owns: the extent of a text, the places of a text, and the bytes before them.
-/

namespace FunctionAtlas.Text

/-! ## Sums -/

namespace Extent

theorem add_assoc (first second third : Extent) :
    (first.add second).add third = first.add (second.add third) := by
  by_cases isLast : third.rows = 0
  · by_cases isMiddle : second.rows = 0
    · simp [add, isLast, isMiddle, Nat.add_assoc]
    · simp [add, isLast, isMiddle, Nat.add_assoc]
  · simp [add, isLast, Nat.add_assoc]

@[simp] theorem add_zero (place : Extent) : place.add .zero = place := rfl

@[simp] theorem zero_add (place : Extent) : Extent.zero.add place = place := by
  obtain ⟨chars, bytes, rows, column⟩ := place
  simp [add, zero]

theorem add_after (first second : Extent) (character : Char) :
    (first.add second).after character = first.add (second.after character) := by
  by_cases isBreak : character = '\n'
  · simp [add, after, isBreak, Nat.add_assoc]
  · by_cases isSameLine : second.rows = 0
    · simp [add, after, isBreak, isSameLine, Nat.add_assoc]
    · simp [add, after, isBreak, isSameLine, Nat.add_assoc]

/-- What was added is the difference. -/
theorem add_sub (first second : Extent) : (first.add second).sub first = second := by
  obtain ⟨chars, bytes, rows, column⟩ := second
  by_cases isSameLine : rows = 0
  · simp [add, sub, isSameLine]
  · simp [add, sub, isSameLine, Nat.pos_of_ne_zero isSameLine]

end Extent

/-- The extent of a text. -/
def extentOf (characters : List Char) : Extent := characters.foldl Extent.after .zero

theorem foldl_after (start : Extent) (characters : List Char) :
    characters.foldl Extent.after start = start.add (extentOf characters) := by
  have moved : ∀ place : Extent, characters.foldl Extent.after (start.add place) =
      start.add (characters.foldl Extent.after place) := by
    induction characters with
    | nil => exact fun _ => rfl
    | cons character rest inductionHypothesis =>
        intro place
        rw [List.foldl_cons, Extent.add_after, inductionHypothesis, List.foldl_cons]
  exact moved .zero

theorem extentOf_append (before after : List Char) :
    extentOf (before ++ after) = (extentOf before).add (extentOf after) := by
  rw [extentOf, List.foldl_append, foldl_after]
  rfl

theorem extentOf_concat (before : List Char) (character : Char) :
    extentOf (before ++ [character]) = (extentOf before).after character := by
  rw [extentOf, List.foldl_append]
  rfl

theorem chars_extentOf (characters : List Char) :
    (extentOf characters).chars = characters.length := by
  induction characters using List.reverseRecOn with
  | nil => rfl
  | append_singleton before character inductionHypothesis =>
      rw [extentOf_concat, List.length_append, List.length_singleton, ← inductionHypothesis]
      rfl

/-! ## Places -/

/-- The extent of the first characters of a text. -/
def IsPlace (source : Array Char) (place : Extent) : Prop :=
  ∃ count ≤ source.size, place = extentOf (source.toList.take count)

section Places

variable {source : Array Char} {place earlier later : Extent}

theorem isPlace_zero : IsPlace source .zero := ⟨0, Nat.zero_le _, rfl⟩

theorem IsPlace.chars_le (isPlace : IsPlace source place) : place.chars ≤ source.size := by
  obtain ⟨count, fits, rfl⟩ := isPlace
  rw [chars_extentOf, List.length_take]
  exact Nat.le_trans (Nat.min_le_left _ _) fits

theorem IsPlace.eq_extentOf (isPlace : IsPlace source place) :
    place = extentOf (source.toList.take place.chars) := by
  obtain ⟨count, fits, rfl⟩ := isPlace
  have isCount : (extentOf (source.toList.take count)).chars = count := by
    rw [chars_extentOf, List.length_take]
    exact Nat.min_eq_left fits
  rw [isCount]

theorem IsPlace.after (isPlace : IsPlace source place) {character : Char}
    (found : source[place.chars]? = some character) : IsPlace source (place.after character) := by
  obtain ⟨below, isCharacter⟩ := Array.getElem?_eq_some_iff.mp found
  refine ⟨place.chars + 1, below, ?_⟩
  have isNext : source.toList.take (place.chars + 1) =
      source.toList.take place.chars ++ [character] := by
    rw [List.take_add_one]
    simp [found]
  rw [isNext, extentOf_concat, ← isPlace.eq_extentOf]

/-- A later place is an earlier one and the extent of what stands between. -/
theorem IsPlace.exists_add (isEarlier : IsPlace source earlier) (isLater : IsPlace source later)
    (ordered : earlier.chars ≤ later.chars) :
    later = earlier.add (extentOf ((source.toList.take later.chars).drop earlier.chars)) := by
  have split := List.take_append_drop earlier.chars (source.toList.take later.chars)
  rw [List.take_take, Nat.min_eq_left ordered] at split
  calc later
    _ = extentOf (source.toList.take later.chars) := isLater.eq_extentOf
    _ = (extentOf (source.toList.take earlier.chars)).add _ := by
        rw [← extentOf_append, split]
    _ = earlier.add _ := by rw [← isEarlier.eq_extentOf]

/-- The difference of two places leads from one to the other. -/
theorem IsPlace.add_sub (isEarlier : IsPlace source earlier) (isLater : IsPlace source later)
    (ordered : earlier.chars ≤ later.chars) : earlier.add (later.sub earlier) = later := by
  have isSum := isEarlier.exists_add isLater ordered
  rw [isSum, Extent.add_sub]

theorem length_le_bytes_extentOf (characters : List Char) :
    characters.length ≤ (extentOf characters).bytes := by
  induction characters using List.reverseRecOn with
  | nil => exact Nat.zero_le _
  | append_singleton before character inductionHypothesis =>
      rw [extentOf_concat, List.length_append, List.length_singleton]
      exact Nat.add_le_add inductionHypothesis character.utf8Size_pos

/-- Places are ordered by bytes as by characters. -/
theorem IsPlace.bytes_lt_iff (isEarlier : IsPlace source earlier)
    (isLater : IsPlace source later) :
    earlier.bytes < later.bytes ↔ earlier.chars < later.chars := by
  have forward : ∀ {first second : Extent}, IsPlace source first → IsPlace source second →
      first.chars < second.chars → first.bytes < second.bytes := by
    intro first second isFirst isSecond below
    have isSum := isFirst.exists_add isSecond (Nat.le_of_lt below)
    have grows := length_le_bytes_extentOf
      ((source.toList.take second.chars).drop first.chars)
    have fits := isSecond.chars_le
    rw [List.length_drop, List.length_take, Array.length_toList, Nat.min_eq_left fits] at grows
    rw [isSum]
    change first.bytes < first.bytes + _
    omega
  constructor
  · intro below
    rcases Nat.lt_trichotomy earlier.chars later.chars with isLess | isSame | isMore
    · exact isLess
    · rw [isEarlier.eq_extentOf, isLater.eq_extentOf, isSame] at below
      exact absurd below (Nat.lt_irrefl _)
    · exact absurd below (Nat.not_lt.mpr (Nat.le_of_lt (forward isLater isEarlier isMore)))
  · exact forward isEarlier isLater

theorem IsPlace.bytes_le_iff (isEarlier : IsPlace source earlier)
    (isLater : IsPlace source later) :
    earlier.bytes ≤ later.bytes ↔ earlier.chars ≤ later.chars := by
  rw [← Nat.not_lt, ← Nat.not_lt, isLater.bytes_lt_iff isEarlier]

/-- A place is known by its bytes. -/
theorem IsPlace.eq_of_bytes (isEarlier : IsPlace source earlier) (isLater : IsPlace source later)
    (same : earlier.bytes = later.bytes) : earlier = later := by
  have sameChars : earlier.chars = later.chars :=
    Nat.le_antisymm ((isEarlier.bytes_le_iff isLater).mp same.le)
      ((isLater.bytes_le_iff isEarlier).mp same.ge)
  rw [isEarlier.eq_extentOf, isLater.eq_extentOf, sameChars]

end Places

/-! ## Bytes -/

/-- The bytes of a text. -/
def bytesOf (characters : List Char) : List UInt8 := characters.flatMap String.utf8EncodeChar

/-- The byte that ends a line. -/
def lineFeed : UInt8 := 10

/-- The number of lines that end in a text. -/
def lineFeeds (bytes : List UInt8) : Nat := bytes.count lineFeed

/-- The number of bytes after the last end of a line. -/
def sinceLineFeed (bytes : List UInt8) : Nat := (bytes.reverse.takeWhile (· ≠ lineFeed)).length

theorem utf8EncodeChar_lineFeed : String.utf8EncodeChar '\n' = [lineFeed] := by decide

theorem lineFeed_not_mem {character : Char} (isOther : character ≠ '\n') :
    lineFeed ∉ String.utf8EncodeChar character := by
  have differs : character.val.toNat ≠ 10 := by
    intro isTen
    exact isOther (Char.ext (UInt32.toNat_inj.mp isTen))
  have small : character.val.toNat < 1114112 := by
    rcases character.valid with low | high
    · exact Nat.lt_trans low (by decide)
    · exact high.2
  have ofNat_ne : ∀ number, number < 256 → number ≠ 10 → lineFeed ≠ UInt8.ofNat number := by
    intro number fits isNot isFeed
    have sameNumber := congrArg UInt8.toNat isFeed
    rw [UInt8.toNat_ofNat_of_lt' fits] at sameNumber
    exact isNot sameNumber.symm
  unfold String.utf8EncodeChar
  generalize character.val.toNat = code at *
  dsimp only
  split_ifs <;> simp only [List.mem_cons, List.not_mem_nil, or_false, not_or] <;> and_intros <;>
    exact ofNat_ne _ (by omega) (by omega)

theorem length_bytesOf (characters : List Char) :
    (bytesOf characters).length = (extentOf characters).bytes := by
  induction characters using List.reverseRecOn with
  | nil => rfl
  | append_singleton before character inductionHypothesis =>
      rw [extentOf_concat, bytesOf, List.flatMap_append, List.length_append, ← bytesOf,
        inductionHypothesis]
      simp [Extent.after, String.length_utf8EncodeChar]

/-- The row of a place is the number of line feeds before it. -/
theorem rows_extentOf (characters : List Char) :
    (extentOf characters).rows = lineFeeds (bytesOf characters) := by
  induction characters using List.reverseRecOn with
  | nil => rfl
  | append_singleton before character inductionHypothesis =>
      rw [extentOf_concat, bytesOf, List.flatMap_append, lineFeeds, List.count_append, ← bytesOf,
        ← lineFeeds, ← inductionHypothesis, List.flatMap_singleton]
      by_cases isBreak : character = '\n'
      · rw [isBreak, utf8EncodeChar_lineFeed]
        simp [Extent.after]
      · rw [List.count_eq_zero_of_not_mem (lineFeed_not_mem isBreak)]
        simp [Extent.after, isBreak]

/-- The column of a place is the number of bytes since the last line feed before it. -/
theorem column_extentOf (characters : List Char) :
    (extentOf characters).column = sinceLineFeed (bytesOf characters) := by
  induction characters using List.reverseRecOn with
  | nil => rfl
  | append_singleton before character inductionHypothesis =>
      rw [extentOf_concat, bytesOf, List.flatMap_append, sinceLineFeed, List.reverse_append,
        List.flatMap_singleton]
      by_cases isBreak : character = '\n'
      · rw [isBreak, utf8EncodeChar_lineFeed]
        simp [Extent.after]
      · have allOther : ∀ byte ∈ (String.utf8EncodeChar character).reverse,
            decide (byte ≠ lineFeed) = true := by
          intro byte member
          simp only [ne_eq, decide_eq_true_eq]
          rintro rfl
          exact lineFeed_not_mem isBreak (List.mem_reverse.mp member)
        rw [List.takeWhile_append_of_pos allOther, List.length_append, List.length_reverse,
          String.length_utf8EncodeChar]
        rw [sinceLineFeed, bytesOf] at inductionHypothesis
        simp [Extent.after, isBreak, inductionHypothesis, Nat.add_comm]

section Parts

variable {source : Array Char} {place earlier later : Extent}

theorem bytesOf_append (before after : List Char) :
    bytesOf (before ++ after) = bytesOf before ++ bytesOf after := List.flatMap_append

/-- The bytes before a place. -/
theorem bytesOf_take (isPlace : IsPlace source place) :
    bytesOf (source.toList.take place.chars) = (bytesOf source.toList).take place.bytes := by
  have isLength : (bytesOf (source.toList.take place.chars)).length = place.bytes := by
    rw [length_bytesOf, ← isPlace.eq_extentOf]
  rw [← List.take_append_drop place.chars source.toList, bytesOf_append, List.take_append_drop,
    List.take_left' isLength]

/-- The bytes between two places. -/
theorem bytesOf_extract (isEarlier : IsPlace source earlier) (isLater : IsPlace source later)
    (ordered : earlier.chars ≤ later.chars) :
    bytesOf (source.extract earlier.chars later.chars).toList =
      ((bytesOf source.toList).take later.bytes).drop earlier.bytes := by
  have isLength : (bytesOf (source.toList.take earlier.chars)).length = earlier.bytes := by
    rw [length_bytesOf, ← isEarlier.eq_extentOf]
  have split := List.take_append_drop earlier.chars (source.toList.take later.chars)
  rw [List.take_take, Nat.min_eq_left ordered] at split
  have extracted : (source.extract earlier.chars later.chars).toList =
      (source.toList.take later.chars).drop earlier.chars := by
    rw [Array.toList_extract, List.extract_eq_take_drop, List.drop_take]
  rw [extracted, ← bytesOf_take isLater, ← split, bytesOf_append, List.drop_left' isLength, split]

/-- The row of a place, by the bytes before it. -/
theorem IsPlace.rows_eq (isPlace : IsPlace source place) :
    place.rows = lineFeeds ((bytesOf source.toList).take place.bytes) := by
  rw [← bytesOf_take isPlace, ← rows_extentOf, ← isPlace.eq_extentOf]

/-- The column of a place, by the bytes before it. -/
theorem IsPlace.column_eq (isPlace : IsPlace source place) :
    place.column = sinceLineFeed ((bytesOf source.toList).take place.bytes) := by
  rw [← bytesOf_take isPlace, ← column_extentOf, ← isPlace.eq_extentOf]

end Parts

end FunctionAtlas.Text
