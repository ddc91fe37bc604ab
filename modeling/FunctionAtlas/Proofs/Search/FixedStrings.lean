import FunctionAtlas.Proofs.Regex.TextProgram
import FunctionAtlas.Proofs.Search.MatchingLines

/-!
Contract: a text that stands for itself is found where it occurs.

A search for a text goes through its escaped form, the reader of patterns, and the program of what
is read. What it finds in a line is what is found by trying one place of the line after the other.

Owns: the occurrences of a text, and searches for texts that stand for themselves.

Does not own: searches where case does not count.
-/

namespace FunctionAtlas.Search

open FunctionAtlas.Docstring (byteLength byteLength_cons)
open FunctionAtlas.Regex
open FunctionAtlas.Storage

/-! ## Occurrences -/

/-- The occurrences of a text in a line, as ranges of bytes from an offset on. Every place is tried
from left to right, and an occurrence takes its characters away from those after it. The empty text
has no occurrences. -/
def occurrencesFrom (sought : List Char) (offset : Nat) : List Char → List (Nat × Nat)
  | [] => []
  | character :: rest =>
      if _occurs : sought ≠ [] ∧ sought <+: character :: rest then
        let stop := offset + byteLength sought
        (offset, stop) :: occurrencesFrom sought stop ((character :: rest).drop sought.length)
      else occurrencesFrom sought (offset + character.utf8Size) rest
termination_by line => line.length
decreasing_by
  · have positive := List.length_pos_iff.mpr _occurs.1
    simp only [List.length_drop, List.length_cons]
    omega
  · simp

/-- The occurrences of a text in a line. -/
def occurrences (sought line : List Char) : List (Nat × Nat) := occurrencesFrom sought 0 line

/-- The program of a text finds its occurrences. -/
theorem matchesFrom_ofText (sought : List Char) (before : Option Char) (offset : Nat)
    (line : List Char) :
    (Program.ofText sought).matchesFrom before offset 0 line =
      occurrencesFrom sought offset line := by
  induction length : line.length using Nat.strongRecOn generalizing before offset line with
  | ind size inductionHypothesis =>
      cases line with
      | nil => rw [Program.matchesFrom, occurrencesFrom]
      | cons character rest =>
          rw [List.length_cons] at length
          have goesOn := inductionHypothesis rest.length (by omega) (some character)
            (offset + character.utf8Size) rest rfl
          rw [Program.matchesFrom, occurrencesFrom, Program.matchLength?_ofText]
          cases sought with
          | nil =>
              rw [if_pos List.nil_prefix, dif_neg (fun occurs => occurs.1 rfl)]
              exact goesOn
          | cons first others =>
              by_cases begins : first :: others <+: character :: rest
              · rw [if_pos begins, dif_pos ⟨List.cons_ne_nil _ _, begins⟩]
                have isTaken : (character :: rest).take (others.length + 1) = first :: others :=
                  (List.prefix_iff_eq_take.mp begins).symm
                obtain ⟨sameFirst, sameOthers⟩ := List.cons.inj isTaken
                obtain ⟨later, same⟩ := (Program.ofText (first :: others)).matchesFrom_taken
                  (some character) (offset + character.utf8Size) others.length rest
                have stop : offset + character.utf8Size + byteLength (rest.take others.length) =
                    offset + byteLength (first :: others) := by
                  rw [sameFirst, sameOthers, byteLength_cons, Nat.add_assoc]
                dsimp only [List.length_cons, List.drop_succ_cons]
                rw [isTaken, Program.foldl_utf8Size, same, stop,
                  inductionHypothesis (rest.drop others.length).length
                    (by rw [List.length_drop]; omega) _ _ _ rfl]
                rfl
              · rw [if_neg begins, dif_neg (fun occurs => begins occurs.2)]
                exact goesOn

/-! ## Searches -/

/-- A text that stands for itself has a program, unless it is too large. -/
theorem compile_fixedStrings (pattern : String) :
    compile pattern { fixedStrings := true } =
      if roomLimit < frameRoom + stateRoom * byteLength pattern.toList then
        .error (.tooLarge pattern)
      else .ok (Program.ofText pattern.toList) := by
  have isRead : expressionOf pattern { fixedStrings := true } =
      .ok (Expr.ofText {} pattern.toList) := by
    rw [expressionOf, writtenPattern, if_pos rfl, Expr.read_escapedText]
  rw [compile, isRead]
  show (if (Expr.ofText {} pattern.toList).isTooLarge then _ else _) = _
  rw [Expr.isTooLarge_ofText]
  simp only [decide_eq_true_eq]
  rfl

/-- A text that fits into the limit can be searched for, with any characters in it. In every line,
the matches are the occurrences of the text, and the lines of a file that are found are those in
which it occurs, in order and with their numbers. -/
theorem searchFile_finds_occurrences (pattern : String)
    (fits : frameRoom + stateRoom * byteLength pattern.toList ≤ roomLimit) :
    ∃ program, compile pattern { fixedStrings := true } = .ok program ∧
      (∀ line, program.matches_ line = occurrences pattern.toList line) ∧
      ∀ (disk : Disk) (path text : String), disk.readText path = .ok text →
        ∃ lines found, LinesAre text.toList lines ∧ searchFile disk program path = .ok found ∧
          found.Pairwise (fun first second => first.line < second.line) ∧
          ∀ hit, hit ∈ found ↔ ∃ index line, lines[index]? = some line ∧
            occurrences pattern.toList (trimmed line) ≠ [] ∧
            hit = ⟨index + 1, String.ofList (trimmed line),
              occurrences pattern.toList (trimmed line)⟩ := by
  have matchesAre : ∀ line,
      (Program.ofText pattern.toList).matches_ line = occurrences pattern.toList line := by
    intro line
    exact matchesFrom_ofText pattern.toList none 0 line
  refine ⟨Program.ofText pattern.toList, ?_, matchesAre, ?_⟩
  · rw [compile_fixedStrings, if_neg (Nat.not_lt.mpr fits)]
  · intro disk path text readable
    obtain ⟨lines, are, same⟩ := exists_linesAre text.toList
    refine ⟨lines, searchText (Program.ofText pattern.toList) text, are, ?_,
      pairwise_searchLines 1 _, ?_⟩
    · rw [searchFile, readable]
      rfl
    · intro hit
      rw [searchText, ← searchLines_congr same, mem_searchLines_iff]
      simp only [Nat.add_comm 1, hitOf, ← Program.matches_ne_nil_iff, matchesAre]

/-- The characters of a text mean themselves, and its occurrences do not overlap. -/
theorem searchFile_finds_occurrences_dotted :
    ∃ program, compile "a.a" { fixedStrings := true } = .ok program ∧
      ∃ found, searchFile (fileAlone "axa\n a.a.a.a") program "a" = .ok found ∧
        ∀ hit, hit ∈ found ↔ hit = ⟨2, "a.a.a.a", [(0, 3), (4, 7)]⟩ := by
  obtain ⟨program, isProgram, -, finds⟩ := searchFile_finds_occurrences "a.a" (by decide)
  obtain ⟨lines, found, are, isFound, -, members⟩ :=
    finds (fileAlone "axa\n a.a.a.a") "a" _ (readText_fileAlone _)
  have second : LinesAre " a.a.a.a".toList [" a.a.a.a".toList] :=
    .unended (by decide) (by decide)
  have isFirst : '\n' ∉ "axa".toList := by decide
  have alsoAre : LinesAre "axa\n a.a.a.a".toList ["axa".toList, " a.a.a.a".toList] :=
    .lineFeed isFirst (by decide) second
  obtain rfl := are.unique alsoAre
  have none : occurrences "a.a".toList (trimmed "axa".toList) = [] := by cbv
  have twice : occurrences "a.a".toList (trimmed " a.a.a.a".toList) = [(0, 3), (4, 7)] := by cbv
  have isHit : (⟨1 + 1, String.ofList (trimmed " a.a.a.a".toList),
      occurrences "a.a".toList (trimmed " a.a.a.a".toList)⟩ : LineMatch) =
      ⟨2, "a.a.a.a", [(0, 3), (4, 7)]⟩ := by
    rw [twice]
    rfl
  refine ⟨program, isProgram, found, isFound, ?_⟩
  intro hit
  rw [members hit]
  constructor
  · rintro ⟨_ | _ | index, line, isLine, occurs, rfl⟩
    · obtain rfl := Option.some.inj isLine
      exact absurd none occurs
    · obtain rfl := Option.some.inj isLine
      exact isHit
    · cases isLine
  · rintro rfl
    refine ⟨1, _, rfl, ?_, isHit.symm⟩
    rw [twice]
    exact List.cons_ne_nil _ _

end FunctionAtlas.Search
