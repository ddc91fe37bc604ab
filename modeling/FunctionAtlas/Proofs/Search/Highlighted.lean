import FunctionAtlas.Proofs.Docstring.LiteralEnd
import FunctionAtlas.Search.Highlight

/-!
Contract: ranges divide a text, and highlighting puts the parts together again.

Ranges of bytes that follow each other and end between characters divide a text into what they
cover and what stands between them. Highlighting cuts at their ends, so that it never fails, and
writes every part in its place. Without colours that is the text itself. With colours every covered
part stands between two codes; in a text without codes of its own they can be taken out again.

Owns: the division of a text by ranges, and texts without the codes of colours.

Does not own: which ranges a search finds.
-/

namespace FunctionAtlas.Text

open FunctionAtlas.Docstring (byteLength byteLength_nil byteLength_cons byteLength_append)

/-! ## Cutting at offsets -/

theorem splitAtByte_append (before after : List Char) :
    splitAtByte (byteLength before) (before ++ after) = some (before, after) := by
  induction before with
  | nil => simp [splitAtByte]
  | cons character rest inductionHypothesis =>
      have positive := character.utf8Size_pos
      obtain ⟨length, isLength⟩ : ∃ length, byteLength (character :: rest) = length + 1 :=
        Nat.exists_eq_add_one_of_ne_zero (by simp only [byteLength_cons]; omega)
      have others : length + 1 - character.utf8Size = byteLength rest := by
        simp only [byteLength_cons] at isLength
        omega
      have fits : character.utf8Size ≤ length + 1 := by
        simp only [byteLength_cons] at isLength
        omega
      rw [isLength, List.cons_append, splitAtByte, if_pos fits, others, inductionHypothesis]
      rfl

theorem sliceFrom_append (before after : List Char) :
    sliceFrom (before ++ after) (byteLength before) = some after := by
  rw [sliceFrom, splitAtByte_append]
  rfl

theorem sliceBytes_append (before part after : List Char) :
    sliceBytes (before ++ (part ++ after)) (byteLength before)
      (byteLength before + byteLength part) = some part := by
  rw [sliceBytes, if_neg (by omega), splitAtByte_append, Nat.add_sub_cancel_left]
  show (splitAtByte (byteLength part) (part ++ after)).map Prod.fst = some part
  rw [splitAtByte_append]
  rfl

/-! ## Ranges -/

/-- An offset between two characters of a text, or at one of its ends. -/
def IsBoundary (text : List Char) (offset : Nat) : Prop :=
  ∃ before after, text = before ++ after ∧ byteLength before = offset

/-- Ranges of bytes that are not empty, lie in a text, begin and end between characters, and follow
each other without overlap. -/
structure AreRanges (text : List Char) (ranges : List (Nat × Nat)) : Prop where
  nonempty : ∀ range ∈ ranges, range.1 < range.2
  inside : ∀ range ∈ ranges, range.2 ≤ byteLength text
  boundaries : ∀ range ∈ ranges, IsBoundary text range.1 ∧ IsBoundary text range.2
  ordered : ranges.Pairwise fun first second => first.2 ≤ second.1

/-- A part of a text that a range covers, after the characters between it and the range before. -/
structure Part where
  gap : List Char
  covered : List Char

/-- From an offset on, ranges divide a text into parts and the characters after the last one. -/
inductive Divides : Nat → List Char → List (Nat × Nat) → List Part → List Char → Prop
  | rest (offset : Nat) (text : List Char) : Divides offset text [] [] text
  | part {offset : Nat} {gap covered following : List Char} {ranges : List (Nat × Nat)}
      {parts : List Part} {ending : List Char} (nonempty : covered ≠ [])
      (later : Divides (offset + byteLength gap + byteLength covered) following ranges parts
        ending) :
      Divides offset (gap ++ (covered ++ following))
        ((offset + byteLength gap, offset + byteLength gap + byteLength covered) :: ranges)
        (⟨gap, covered⟩ :: parts) ending

section Division

variable {offset : Nat} {text ending : List Char} {ranges : List (Nat × Nat)} {parts : List Part}

/-- More characters before the first range only widen the first gap. -/
theorem Divides.extend (divides : Divides (offset + byteLength front) text ranges parts ending) :
    ∃ parts ending, Divides offset (front ++ text) ranges parts ending := by
  cases divides with
  | rest => exact ⟨[], front ++ text, .rest offset (front ++ text)⟩
  | @part _ gap covered following _ parts ending nonempty later =>
      rw [← List.append_assoc, Nat.add_assoc offset, ← byteLength_append] at *
      exact ⟨_, _, .part nonempty later⟩

/-- The parts make up the text. -/
theorem Divides.text_eq (divides : Divides offset text ranges parts ending) :
    parts.flatMap (fun part => part.gap ++ part.covered) ++ ending = text := by
  induction divides with
  | rest => rfl
  | part nonempty later inductionHypothesis =>
      rw [List.flatMap_cons, List.append_assoc, inductionHypothesis, List.append_assoc]

theorem Divides.areRanges_from (divides : Divides offset text ranges parts ending) :
    (∀ range ∈ ranges, offset ≤ range.1 ∧ range.1 < range.2 ∧
      range.2 ≤ offset + byteLength text ∧
      ∃ first second, IsBoundary text first ∧ IsBoundary text second ∧
        range = (offset + first, offset + second)) ∧
      ranges.Pairwise fun first second => first.2 ≤ second.1 := by
  induction divides with
  | rest => simp
  | @part offset gap covered following ranges parts ending nonempty later inductionHypothesis =>
      obtain ⟨each, ordered⟩ := inductionHypothesis
      have positive : 0 < byteLength covered := by
        cases covered with
        | nil => exact absurd rfl nonempty
        | cons character others =>
            have := character.utf8Size_pos
            simp only [byteLength_cons]
            omega
      have total : byteLength (gap ++ (covered ++ following)) =
          byteLength gap + byteLength covered + byteLength following := by
        simp only [byteLength_append]
        omega
      refine ⟨?_, ?_⟩
      · intro range member
        rw [total]
        rcases List.mem_cons.mp member with rfl | isLater
        · refine ⟨by omega, by omega, by omega, byteLength gap,
            byteLength gap + byteLength covered, ⟨gap, _, rfl, rfl⟩, ?_, ?_⟩
          · exact ⟨gap ++ covered, following, by simp, by simp⟩
          · rw [Nat.add_assoc]
        · obtain ⟨after, isRange, within, first, second, ⟨before, others, rfl, rfl⟩,
            ⟨upTo, beyond, same, rfl⟩, rfl⟩ := each range isLater
          refine ⟨by omega, isRange, by omega, byteLength (gap ++ (covered ++ before)),
            byteLength (gap ++ (covered ++ upTo)), ⟨_, others, by simp, rfl⟩,
            ⟨_, beyond, by simp [same], rfl⟩, ?_⟩
          simp only [byteLength_append, Prod.mk.injEq]
          omega
      · apply List.pairwise_cons.mpr
        refine ⟨?_, ordered⟩
        intro range member
        exact (each range member).1

theorem Divides.areRanges (divides : Divides 0 text ranges parts ending) :
    AreRanges text ranges := by
  obtain ⟨each, ordered⟩ := divides.areRanges_from
  refine ⟨?_, ?_, ?_, ordered⟩
  · intro range member
    exact (each range member).2.1
  · intro range member
    have within := (each range member).2.2.1
    omega
  · intro range member
    obtain ⟨-, -, -, first, second, isFirst, isSecond, rfl⟩ := each range member
    simp only [Nat.zero_add]
    exact ⟨isFirst, isSecond⟩

end Division

/-! ## Codes -/

/-- The character that codes of colours begin with. -/
def escapeCharacter : Char := '\x1b'

/-- A text without the codes of colours. A code begins with an escape character and ends with the
letter m; the flag tells whether the text begins inside of one. -/
def withoutCodes : Bool → List Char → List Char
  | _, [] => []
  | true, character :: rest => withoutCodes (character ≠ 'm') rest
  | false, character :: rest =>
      if character = escapeCharacter then withoutCodes true rest
      else character :: withoutCodes false rest

theorem withoutCodes_append_plain {text : List Char} (plain : escapeCharacter ∉ text)
    (rest : List Char) : withoutCodes false (text ++ rest) = text ++ withoutCodes false rest := by
  induction text with
  | nil => rfl
  | cons character others inductionHypothesis =>
      obtain ⟨notEscape, othersPlain⟩ := not_or.mp (mt List.mem_cons.mpr plain)
      rw [List.cons_append, withoutCodes, if_neg (Ne.symm notEscape),
        inductionHypothesis othersPlain]
      rfl

theorem Style.afterResets_of_plain {text : List Char} (plain : escapeCharacter ∉ text)
    (inserted : List Char) : Style.afterResets inserted text = text := by
  induction text with
  | nil => rfl
  | cons character others inductionHypothesis =>
      obtain ⟨notEscape, othersPlain⟩ := not_or.mp (mt List.mem_cons.mpr plain)
      rw [Style.afterResets, inductionHypothesis othersPlain]
      intro rest isEscape
      exact absurd isEscape.symm notEscape

/-- The codes around a text can be taken out again. -/
theorem withoutCodes_paint (colour : Colour) {text : List Char} (plain : escapeCharacter ∉ text)
    (rest : List Char) :
    withoutCodes false
        ((Style.paint true (.coloured colour) (String.ofList text)).toList ++ rest) =
      text ++ withoutCodes false rest := by
  have written : (Style.paint true (.coloured colour) (String.ofList text)).toList =
      (Style.coloured colour).start.toList ++ (text ++ Style.reset.toList) := by
    have isStyled : (Style.coloured colour).codes ≠ [] := by cases colour <;> decide
    rw [Style.paint, if_pos (by simpa using isStyled), String.toList_append,
      String.toList_append, String.toList_ofList, String.toList_ofList,
      Style.afterResets_of_plain plain, List.append_assoc]
  have started : ∀ others : List Char,
      withoutCodes false ((Style.coloured colour).start.toList ++ others) =
        withoutCodes false others := by
    intro others
    cases colour <;> rfl
  have ended : withoutCodes false (Style.reset.toList ++ rest) = withoutCodes false rest := rfl
  rw [written, List.append_assoc, started, List.append_assoc, withoutCodes_append_plain plain,
    ended]

end FunctionAtlas.Text

namespace FunctionAtlas.Search

open FunctionAtlas.Docstring (byteLength byteLength_append)
open FunctionAtlas.Text

/-! ## Highlighting -/

/-- What is shown of a part. -/
def shownPart (isColoured : Bool) (part : Part) : String :=
  String.ofList part.gap ++
    Style.paint isColoured (.coloured .green) (String.ofList part.covered)

/-- Behind the characters that are done, the parts are written one after the other. -/
theorem highlightFrom_of_divides {done text ending : List Char} {ranges : List (Nat × Nat)}
    {parts : List Part} (divides : Divides (byteLength done) text ranges parts ending)
    (isColoured : Bool) :
    highlightFrom isColoured (done ++ text) (byteLength done) ranges =
      some (String.join (parts.map (shownPart isColoured)) ++ String.ofList ending) := by
  generalize isOffset : byteLength done = offset at divides
  induction divides generalizing done with
  | rest =>
      subst isOffset
      rw [highlightFrom, sliceFrom_append]
      simp
  | @part _ gap covered following ranges parts ending nonempty later inductionHypothesis =>
      subst isOffset
      have before : sliceBytes (done ++ (gap ++ (covered ++ following))) (byteLength done)
          (byteLength done + byteLength gap) = some gap := sliceBytes_append _ _ _
      have hit : sliceBytes (done ++ (gap ++ (covered ++ following)))
          (byteLength done + byteLength gap)
          (byteLength done + byteLength gap + byteLength covered) = some covered := by
        rw [← List.append_assoc, ← byteLength_append]
        exact sliceBytes_append _ _ _
      have tail := @inductionHypothesis (done ++ (gap ++ covered)) (by
        simp only [byteLength_append]
        omega)
      rw [highlightFrom, before, hit]
      simp only [List.append_assoc] at tail ⊢
      rw [tail]
      simp [shownPart, String.append_assoc]

variable {found : LineMatch}

/-- A line whose ranges divide its text is shown, part by part. -/
theorem highlight_of_divides {parts : List Part} {ending : List Char}
    (divides : Divides 0 found.text.toList found.ranges parts ending) (isColoured : Bool) :
    found.highlight isColoured =
      some (String.join (parts.map (shownPart isColoured)) ++ String.ofList ending) := by
  have shown := @highlightFrom_of_divides [] _ _ _ _ divides isColoured
  exact shown

/-- Without colours the text is shown as it is. -/
theorem highlight_plain {parts : List Part} {ending : List Char}
    (divides : Divides 0 found.text.toList found.ranges parts ending) :
    found.highlight false = some found.text := by
  rw [highlight_of_divides divides, Option.some.injEq, ← String.toList_inj, ← divides.text_eq]
  have each : ∀ part : Part, (shownPart false part).toList = part.gap ++ part.covered := by
    intro part
    simp [shownPart, Style.paint]
  simp [String.toList_join, List.flatMap_map, each]

/-- The codes of the parts can be taken out again. -/
theorem withoutCodes_shownParts {parts : List Part} {ending : List Char}
    (plain : escapeCharacter ∉ parts.flatMap (fun part => part.gap ++ part.covered) ++ ending) :
    withoutCodes false (parts.flatMap (fun part => (shownPart true part).toList) ++ ending) =
      parts.flatMap (fun part => part.gap ++ part.covered) ++ ending := by
  induction parts with
  | nil =>
      have unchanged := withoutCodes_append_plain plain []
      simpa [withoutCodes] using unchanged
  | cons part others inductionHypothesis =>
      simp only [List.flatMap_cons, List.append_assoc, List.mem_append, not_or] at plain
      obtain ⟨gapPlain, coveredPlain, othersPlain⟩ := plain
      have later := inductionHypothesis (by simpa using othersPlain)
      simp only [List.flatMap_cons, shownPart, String.toList_append, String.toList_ofList,
        List.append_assoc] at later ⊢
      rw [withoutCodes_append_plain gapPlain, withoutCodes_paint .green coveredPlain, later]

/-- With colours too the text is shown. If it has no escape characters, it is found again when the
codes are taken out. -/
theorem withoutCodes_highlight {parts : List Part} {ending : List Char}
    (divides : Divides 0 found.text.toList found.ranges parts ending) :
    ∃ shown, found.highlight true = some shown ∧
      (escapeCharacter ∉ found.text.toList →
        withoutCodes false shown.toList = found.text.toList) := by
  refine ⟨_, highlight_of_divides divides true, ?_⟩
  intro plain
  rw [← divides.text_eq] at plain ⊢
  rw [← withoutCodes_shownParts plain]
  simp [String.toList_join, List.flatMap_map]

end FunctionAtlas.Search
