import FunctionAtlas.Proofs.Search.FoundLines
import FunctionAtlas.Proofs.Search.Highlighted
import FunctionAtlas.Proofs.Storage.Writing
import FunctionAtlas.Proofs.Text.Delimited
import Mathlib

/-!
Contract: a search finds the lines with a match, and what it finds can be shown.

The lines of a text are told by their ends alone. Whether a carriage return belongs to the end of a
line does not matter to a search, which looks at lines without white space at their ends. The
matches in a line follow each other, so that they divide it, whatever the program matches.

Owns: the lines of a text, the numbers of the lines that are found, and the ranges of their matches.

Does not own: what matches at a position.
-/

namespace FunctionAtlas.Regex.Program

open FunctionAtlas.Docstring (byteLength byteLength_nil byteLength_cons byteLength_append)
open FunctionAtlas.Text

variable (program : Program)

theorem foldl_utf8Size (offset : Nat) (text : List Char) :
    text.foldl (fun stop character => stop + character.utf8Size) offset =
      offset + byteLength text := by
  induction text generalizing offset with
  | nil => simp
  | cons character rest inductionHypothesis =>
      rw [List.foldl_cons, inductionHypothesis, byteLength_cons]
      omega

/-- Characters that belong to the last match are passed over. -/
theorem matchesFrom_taken (before : Option Char) (offset taken : Nat) (text : List Char) :
    ∃ last, program.matchesFrom before offset taken text =
      program.matchesFrom last (offset + byteLength (text.take taken)) 0 (text.drop taken) := by
  induction text generalizing before offset taken with
  | nil => exact ⟨before, by simp [matchesFrom]⟩
  | cons character rest inductionHypothesis =>
      cases taken with
      | zero => exact ⟨before, by simp⟩
      | succ taken =>
          show ∃ last, program.matchesFrom (some character) (offset + character.utf8Size) taken
            rest = _
          obtain ⟨later, same⟩ :=
            inductionHypothesis (some character) (offset + character.utf8Size) taken
          refine ⟨later, same.trans ?_⟩
          rw [List.take_succ_cons, List.drop_succ_cons, byteLength_cons, Nat.add_assoc]

/-- The matches divide the text. -/
theorem exists_divides_matchesFrom (before : Option Char) (offset : Nat) (text : List Char) :
    ∃ parts ending,
      Divides offset text (program.matchesFrom before offset 0 text) parts ending := by
  induction length : text.length using Nat.strongRecOn generalizing before offset text with
  | ind size inductionHypothesis =>
      cases text with
      | nil => exact ⟨[], [], by rw [matchesFrom]; exact .rest offset []⟩
      | cons character rest =>
          rw [List.length_cons] at length
          rw [matchesFrom]
          split
          next width here =>
            obtain ⟨later, same⟩ := program.matchesFrom_taken (some character)
              (offset + character.utf8Size) width rest
            obtain ⟨parts, ending, divides⟩ := inductionHypothesis (rest.drop width).length
              (by rw [List.length_drop]; omega) later
              (offset + byteLength (character :: rest.take width)) (rest.drop width) rfl
            refine ⟨⟨[], character :: rest.take width⟩ :: parts, ending, ?_⟩
            show Divides offset (character :: rest)
              ((offset, (character :: rest.take width).foldl _ offset) ::
                program.matchesFrom (some character) (offset + character.utf8Size) width rest) _ _
            rw [same, foldl_utf8Size, Nat.add_assoc offset, ← byteLength_cons]
            have split : character :: rest =
                [] ++ (character :: rest.take width ++ rest.drop width) := by
              simp
            rw [split]
            exact .part (List.cons_ne_nil _ _) divides
          next notHere =>
            obtain ⟨parts, ending, divides⟩ := inductionHypothesis rest.length (by omega)
              (some character) (offset + character.utf8Size) rest rfl
            have widened : offset + character.utf8Size = offset + byteLength [character] := rfl
            rw [widened] at divides ⊢
            exact divides.extend

end FunctionAtlas.Regex.Program

namespace FunctionAtlas.Search

open FunctionAtlas.Regex
open FunctionAtlas.Storage
open FunctionAtlas.Text

/-! ## Lines -/

/-- The lines of a text. A line is ended by a line feed, or by a carriage return and a line feed;
the last line can be without an end if it is not empty. -/
inductive LinesAre : List Char → List (List Char) → Prop
  | none : LinesAre [] []
  | unended {line : List Char} (nonempty : line ≠ []) (undivided : '\n' ∉ line) :
      LinesAre line [line]
  | lineFeed {line rest : List Char} {lines : List (List Char)} (undivided : '\n' ∉ line)
      (noReturn : line.getLast? ≠ some '\r') (others : LinesAre rest lines) :
      LinesAre (line ++ '\n' :: rest) (line :: lines)
  | returnAndFeed {line rest : List Char} {lines : List (List Char)} (undivided : '\n' ∉ line)
      (others : LinesAre rest lines) :
      LinesAre (line ++ '\r' :: '\n' :: rest) (line :: lines)

theorem linesOf_unended {line : List Char} (nonempty : line ≠ []) (undivided : '\n' ∉ line) :
    linesOf line = [line] := by
  rw [linesOf]
  split
  next none => exact absurd (List.getLast?_eq_none_iff.mp none) nonempty
  next isFeed => exact absurd (List.mem_of_getLast? isFeed) undivided
  next => exact List.splitOn_eq_singleton undivided

theorem linesOf_append {line : List Char} (undivided : '\n' ∉ line) (rest : List Char) :
    linesOf (line ++ '\n' :: rest) = line :: linesOf rest := by
  cases rest with
  | nil =>
      rw [linesOf, List.getLast?_concat, List.dropLast_concat]
      exact List.splitOn_eq_singleton undivided
  | cons character others =>
      have sameLast : (line ++ '\n' :: character :: others).getLast? =
          (character :: others).getLast? := by
        rw [List.getLast?_append_cons, List.getLast?_cons_cons]
      have shorter : (line ++ '\n' :: character :: others).dropLast =
          line ++ '\n' :: (character :: others).dropLast := by
        rw [List.dropLast_append_of_ne_nil (List.cons_ne_nil _ _), List.dropLast_cons_cons]
      rw [linesOf, sameLast, linesOf, shorter,
        List.splitOn_append_cons_self_of_not_mem undivided,
        List.splitOn_append_cons_self_of_not_mem undivided]
      split
      next none => exact absurd (List.getLast?_eq_none_iff.mp none) (List.cons_ne_nil _ _)
      next => rfl
      next => rfl

/-- The part of a line that is searched. -/
def trimmed (line : List Char) : List Char := trimRight (trimLeft line)

theorem trimmed_concat_return (line : List Char) : trimmed (line ++ ['\r']) = trimmed line := by
  have isBlankReturn : isBlank '\r' = true := rfl
  unfold trimmed trimLeft trimRight
  rw [List.dropWhile_append]
  split
  next blank =>
    rw [List.isEmpty_iff.mp blank, List.dropWhile_cons_of_pos isBlankReturn]
    rfl
  next =>
    rw [List.reverse_append, List.reverse_singleton, List.singleton_append,
      List.dropWhile_cons_of_pos isBlankReturn]

/-- Every text has lines, and a search sees the same of them as of the pieces between the line
feeds. -/
theorem exists_linesAre (text : List Char) :
    ∃ lines, LinesAre text lines ∧ lines.map trimmed = (linesOf text).map trimmed := by
  induction length : text.length using Nat.strongRecOn generalizing text with
  | ind size inductionHypothesis =>
      by_cases divided : '\n' ∈ text
      · obtain ⟨line, rest, rfl, undivided⟩ := List.eq_append_cons_of_mem divided
        obtain ⟨lines, others, same⟩ := inductionHypothesis rest.length
          (by simp only [List.length_append, List.length_cons] at length; omega) rest rfl
        rw [linesOf_append undivided]
        by_cases returns : line.getLast? = some '\r'
        · obtain ⟨front, rfl⟩ := List.getLast?_eq_some_iff.mp returns
          refine ⟨front :: lines, ?_, ?_⟩
          · rw [List.append_assoc]
            exact .returnAndFeed (fun isIn => undivided (List.mem_append_left _ isIn)) others
          · rw [List.map_cons, List.map_cons, same, trimmed_concat_return]
        · refine ⟨line :: lines, .lineFeed undivided returns others, ?_⟩
          rw [List.map_cons, List.map_cons, same]
      · by_cases isEmpty : text = []
        · subst isEmpty
          exact ⟨[], .none, rfl⟩
        · exact ⟨[text], .unended isEmpty divided, by rw [linesOf_unended isEmpty divided]⟩

theorem dropReturn_concat (line : List Char) : dropReturn (line ++ ['\r']) = line := by
  rw [dropReturn, if_pos List.getLast?_concat, List.dropLast_concat]

/-- The first line of a text ends at the first line feed. -/
theorem LinesAre.of_append {line rest : List Char} {lines : List (List Char)}
    (are : LinesAre (line ++ '\n' :: rest) lines) (undivided : '\n' ∉ line) :
    ∃ others, lines = dropReturn line :: others ∧ LinesAre rest others := by
  have isInside : ∀ {line : List Char}, '\n' ∉ line →
      ∀ character ∈ line, (character != '\n') = true := by
    intro line undivided character member
    simpa using ne_of_mem_of_not_mem member undivided
  generalize whole : line ++ '\n' :: rest = text at are
  cases are with
  | none => simp at whole
  | unended nonempty alsoUndivided =>
      subst whole
      simp at alsoUndivided
  | lineFeed alsoUndivided noReturn others =>
      obtain ⟨rfl, -, rfl⟩ := run_append_inj (isInside undivided) (isInside alsoUndivided)
        (by decide) (by decide) whole
      exact ⟨_, by rw [dropReturn, if_neg noReturn], others⟩
  | @returnAndFeed front following lines alsoUndivided others =>
      have returned : '\n' ∉ front ++ ['\r'] := by simpa using alsoUndivided
      have split : front ++ '\r' :: '\n' :: following =
          (front ++ ['\r']) ++ '\n' :: following := by simp
      obtain ⟨rfl, -, rfl⟩ := run_append_inj (isInside undivided) (isInside returned)
        (by decide) (by decide) (whole.trans split)
      exact ⟨_, by rw [dropReturn_concat], others⟩

/-- A text without line feeds is one line, or none if it is empty. -/
theorem LinesAre.of_undivided {text : List Char} {lines : List (List Char)}
    (are : LinesAre text lines) (undivided : '\n' ∉ text) :
    lines = if text = [] then [] else [text] := by
  cases are with
  | none => rfl
  | unended nonempty => rw [if_neg nonempty]
  | lineFeed => simp at undivided
  | returnAndFeed => simp at undivided

/-- A text has its lines in one way. -/
theorem LinesAre.unique {text : List Char} {lines others : List (List Char)}
    (first : LinesAre text lines) (second : LinesAre text others) : others = lines := by
  induction first generalizing others with
  | none => exact second.of_undivided List.not_mem_nil
  | unended nonempty undivided => rw [second.of_undivided undivided, if_neg nonempty]
  | lineFeed undivided noReturn _ inductionHypothesis =>
      obtain ⟨later, rfl, areLater⟩ := second.of_append undivided
      rw [dropReturn, if_neg noReturn, inductionHypothesis areLater]
  | @returnAndFeed line rest _ undivided _ inductionHypothesis =>
      have split : line ++ '\r' :: '\n' :: rest = (line ++ ['\r']) ++ '\n' :: rest := by simp
      rw [split] at second
      obtain ⟨later, rfl, areLater⟩ := second.of_append (by simpa using undivided)
      rw [dropReturn_concat, inductionHypothesis areLater]

/-! ## Numbers -/

variable {program : Program}

/-- What a search finds in a line. -/
def hitOf (program : Program) (number : Nat) (line : List Char) : LineMatch :=
  { line := number
    text := String.ofList (trimmed line)
    ranges := program.matches_ (trimmed line) }

theorem searchLine_eq_some_iff {number : Nat} {line : List Char} {hit : LineMatch} :
    searchLine program number line = some hit ↔
      program.Matches (trimmed line) ∧ hit = hitOf program number line := by
  rw [← Program.matches_ne_nil_iff, searchLine, hitOf, trimmed]
  split
  next none =>
      constructor
      · intro isHit
        cases isHit
      · rintro ⟨isMatch, -⟩
        exact absurd none isMatch
  next isMatch =>
      rw [Option.some.injEq, eq_comm, and_iff_right isMatch]

/-- The lines that are found are those with a match, with their numbers. -/
theorem mem_searchLines_iff {number : Nat} {lines : List (List Char)} {hit : LineMatch} :
    hit ∈ searchLines program number lines ↔
      ∃ index line, lines[index]? = some line ∧ program.Matches (trimmed line) ∧
        hit = hitOf program (number + index) line := by
  induction lines generalizing number with
  | nil => simp [searchLines]
  | cons line rest inductionHypothesis =>
      have either : hit ∈ searchLines program number (line :: rest) ↔
          searchLine program number line = some hit ∨
            hit ∈ searchLines program (number + 1) rest := by
        rw [searchLines]
        cases searchLine program number line with
        | none => simp
        | some found => simp [eq_comm]
      rw [either, searchLine_eq_some_iff, inductionHypothesis]
      constructor
      · rintro (⟨isMatch, rfl⟩ | ⟨index, other, isOther, isMatch, rfl⟩)
        · exact ⟨0, line, rfl, isMatch, rfl⟩
        · exact ⟨index + 1, other, isOther, isMatch, by rw [Nat.add_right_comm, Nat.add_assoc]⟩
      · rintro ⟨index, other, isOther, isMatch, rfl⟩
        cases index with
        | zero =>
            obtain rfl := Option.some.inj isOther
            exact .inl ⟨isMatch, rfl⟩
        | succ index =>
            exact .inr ⟨index, other, isOther, isMatch, by rw [Nat.add_right_comm, Nat.add_assoc]⟩

/-- The numbers of the lines that are found go up. -/
theorem pairwise_searchLines (number : Nat) (lines : List (List Char)) :
    (searchLines program number lines).Pairwise fun first second => first.line < second.line := by
  induction lines generalizing number with
  | nil => exact .nil
  | cons line rest inductionHypothesis =>
      have later := inductionHypothesis (number + 1)
      rw [searchLines]
      split
      next => exact later
      next hit found =>
        obtain ⟨-, rfl⟩ := searchLine_eq_some_iff.mp found
        apply List.pairwise_cons.mpr
        refine ⟨?_, later⟩
        intro other member
        obtain ⟨index, line, -, -, rfl⟩ := mem_searchLines_iff.mp member
        show number < number + 1 + index
        omega

/-- A search sees nothing of a line but the part between the white space at its ends. -/
theorem searchLines_congr {number : Nat} {lines others : List (List Char)}
    (same : lines.map trimmed = others.map trimmed) :
    searchLines program number lines = searchLines program number others := by
  induction lines generalizing number others with
  | nil => rw [List.map_eq_nil_iff.mp same.symm]
  | cons line rest inductionHypothesis =>
      obtain ⟨other, later, rfl, sameLine, sameRest⟩ := List.map_eq_cons_iff.mp same.symm
      have sameHit : searchLine program number line = searchLine program number other := by
        apply Option.ext
        intro hit
        rw [searchLine_eq_some_iff, searchLine_eq_some_iff, hitOf, hitOf, sameLine]
      rw [searchLines, searchLines, sameHit, inductionHypothesis sameRest.symm]

/-! ## What is found -/

/-- A search of a file that can be read finds the lines of the file that have a match, in order and
with their numbers. The ranges of the matches lie in the line without white space at its ends, one
behind the other, and are not empty; so every line that is found can be shown. Without colours it
is shown as it is, and with colours, if it has no codes of its own, it is found again when the codes
are taken out. -/
theorem searchFile_finds_lines (disk : Disk) (program : Program) (path text : String)
    (readable : disk.readText path = .ok text) :
    ∃ lines found, LinesAre text.toList lines ∧
      (∀ others, LinesAre text.toList others → others = lines) ∧
      searchFile disk program path = .ok found ∧
      found.Pairwise (fun first second => first.line < second.line) ∧
      (∀ hit, hit ∈ found ↔ ∃ index line, lines[index]? = some line ∧
        program.Matches (trimmed line) ∧
        hit = ⟨index + 1, String.ofList (trimmed line), program.matches_ (trimmed line)⟩) ∧
      ∀ hit ∈ found, hit.ranges ≠ [] ∧ AreRanges hit.text.toList hit.ranges ∧
        hit.highlight false = some hit.text ∧
        ∃ shown, hit.highlight true = some shown ∧
          (escapeCharacter ∉ hit.text.toList →
            withoutCodes false shown.toList = hit.text.toList) := by
  obtain ⟨lines, are, same⟩ := exists_linesAre text.toList
  have members : ∀ hit, hit ∈ searchText program text ↔ ∃ index line,
      lines[index]? = some line ∧ program.Matches (trimmed line) ∧
        hit = hitOf program (index + 1) line := by
    intro hit
    rw [searchText, ← searchLines_congr same, mem_searchLines_iff]
    simp only [Nat.add_comm 1]
  refine ⟨lines, searchText program text, are, fun others alsoAre => are.unique alsoAre, ?_,
    pairwise_searchLines 1 _, members, ?_⟩
  · rw [searchFile, readable]
    rfl
  · intro hit isFound
    obtain ⟨index, line, -, isMatch, rfl⟩ := (members hit).mp isFound
    obtain ⟨parts, ending, divides⟩ :=
      program.exists_divides_matchesFrom none 0 (trimmed line)
    have divided : Divides 0 (hitOf program (index + 1) line).text.toList
        (hitOf program (index + 1) line).ranges parts ending := by
      rw [hitOf, String.toList_ofList]
      exact divides
    exact ⟨(program.matches_ne_nil_iff _).mpr isMatch, divided.areRanges,
      highlight_plain divided, withoutCodes_highlight divided⟩

/-- A disk with one file. -/
def fileAlone (text : String) : Disk where
  entries := [(["a"], .file text.toUTF8)]
  working := []

theorem readText_fileAlone (text : String) : (fileAlone text).readText "a" = .ok text := by
  have leads : (fileAlone text).canonical "a" = .ok ["a"] := by
    unfold fileAlone
    generalize text.toUTF8 = content
    cbv
  exact Disk.readText_of_canonical leads rfl

/-- In the second of two lines, an expression matches twice. -/
theorem searchFile_finds_secondLine :
    let program := Program.ofExpr
      (.sequence (.one (CharClass.single 'a')) (.one (CharClass.single 'b')))
    let hit : LineMatch := ⟨2, "abéab", [(0, 2), (4, 6)]⟩
    ∃ found, searchFile (fileAlone "ba\r\n  abéab\n") program "a" = .ok found ∧
      (∀ other, other ∈ found ↔ other = hit) ∧ hit.highlight false = some "abéab" ∧
      ∃ shown, hit.highlight true = some shown ∧
        withoutCodes false shown.toList = "abéab".toList := by
  intro program hit
  obtain ⟨lines, found, -, unique, isFound, -, members, shown⟩ :=
    searchFile_finds_lines (fileAlone "ba\r\n  abéab\n") program "a" _ (readText_fileAlone _)
  obtain rfl : ["ba".toList, "  abéab".toList] = lines := by
    apply unique
    have second : LinesAre ("  abéab".toList ++ ['\n']) ["  abéab".toList] :=
      .lineFeed (by decide) (by decide) .none
    have isFirst : '\n' ∉ "ba".toList := by decide
    exact .returnAndFeed isFirst second
  have none : program.matches_ (trimmed "ba".toList) = [] := by cbv
  have twice : program.matches_ (trimmed "  abéab".toList) = [(0, 2), (4, 6)] := by cbv
  have isHit : (⟨1 + 1, String.ofList (trimmed "  abéab".toList),
      program.matches_ (trimmed "  abéab".toList)⟩ : LineMatch) = hit := by
    rw [twice]
    rfl
  have only : ∀ other, other ∈ found ↔ other = hit := by
    intro other
    rw [members other]
    constructor
    · rintro ⟨_ | _ | index, line, isLine, isMatch, rfl⟩
      · obtain rfl := Option.some.inj isLine
        exact absurd none ((program.matches_ne_nil_iff _).mpr isMatch)
      · obtain rfl := Option.some.inj isLine
        exact isHit
      · cases isLine
    · rintro rfl
      refine ⟨1, _, rfl, ?_, isHit.symm⟩
      rw [← program.matches_ne_nil_iff, twice]
      exact List.cons_ne_nil _ _
  obtain ⟨-, -, plain, coloured, isColoured, restored⟩ := shown hit ((only hit).mpr rfl)
  exact ⟨found, isFound, only, plain, coloured, isColoured, restored (by decide)⟩

end FunctionAtlas.Search
