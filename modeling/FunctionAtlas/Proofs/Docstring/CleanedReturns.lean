import FunctionAtlas.Proofs.Docstring.Returns
import Mathlib

/-!
Contract: which returns cleaning leaves in a docstring.

A value with returns has the lines of the value without them, some with a return at the end.
Cleaning takes such a return away with the white space of a blank first line, and with a blank line
that is shorter than the margin. Every other return stays, so that the docstrings differ.

Owns: lines with returns, and the docstrings made of them.
-/

namespace FunctionAtlas.Docstring

open FunctionAtlas.Text

/-! ## Lines -/

/-- A line that may have got a return at its end. -/
def GainsReturn (line other : List Char) : Prop := other = line ∨ other = line ++ ['\r']

theorem splitLines_lineEnd (rest : List Char) : splitLines ('\n' :: rest) = [] :: splitLines rest :=
  rfl

/-- A character that ends no line belongs to the first line. -/
theorem splitLines_cons {character : Char} (isOther : character ≠ '\n') (rest : List Char) :
    ∃ line lines, splitLines rest = line :: lines ∧
      splitLines (character :: rest) = (character :: line) :: lines := by
  have notEmpty : splitLines rest ≠ [] := by
    cases rest with
    | nil => exact List.cons_ne_nil _ _
    | cons next others =>
        rw [splitLines, List.foldr_cons]
        split_ifs
        · exact List.cons_ne_nil _ _
        · split <;> exact List.cons_ne_nil _ _
  obtain ⟨line, lines, split⟩ := List.exists_cons_of_ne_nil notEmpty
  refine ⟨line, lines, split, ?_⟩
  rw [splitLines] at split ⊢
  rw [List.foldr_cons, split, if_neg isOther]

/-- Returns before line feeds are returns at the ends of lines. -/
theorem forall₂_splitLines {characters other : List Char} (returned : Returned characters other) :
    List.Forall₂ GainsReturn (splitLines characters) (splitLines other) := by
  induction returned with
  | nil => exact .cons (.inl rfl) .nil
  | @same rest otherRest character _ inductionHypothesis =>
      by_cases isEnd : character = '\n'
      · rw [isEnd, splitLines_lineEnd, splitLines_lineEnd]
        exact .cons (.inl rfl) inductionHypothesis
      · obtain ⟨line, lines, split, whole⟩ := splitLines_cons isEnd rest
        obtain ⟨otherLine, otherLines, otherSplit, otherWhole⟩ := splitLines_cons isEnd otherRest
        rw [split, otherSplit] at inductionHypothesis
        rw [whole, otherWhole]
        cases inductionHypothesis with
        | cons gains later =>
            refine .cons ?_ later
            rcases gains with same | gained
            · exact .inl (by rw [same])
            · exact .inr (by rw [gained]; rfl)
  | @lineEnd rest otherRest _ inductionHypothesis =>
      have ended : splitLines ('\r' :: '\n' :: otherRest) = ['\r'] :: splitLines otherRest := rfl
      rw [splitLines_lineEnd, ended]
      exact .cons (.inr rfl) inductionHypothesis

theorem expandTabsFrom_concat_return (column : Nat) (line : List Char) :
    expandTabsFrom column (line ++ ['\r']) = expandTabsFrom column line ++ ['\r'] := by
  fun_induction expandTabsFrom column line with
  | case1 => rfl
  | case2 column rest width inductionHypothesis =>
      rw [List.cons_append, expandTabsFrom, inductionHypothesis, List.append_assoc]
  | case3 column character rest notTab inductionHypothesis =>
      rw [List.cons_append, expandTabsFrom, inductionHypothesis, List.cons_append]
      exact notTab

theorem gainsReturn_expandTabs {line other : List Char} (gains : GainsReturn line other) :
    GainsReturn (expandTabs line) (expandTabs other) := by
  rcases gains with same | gained
  · exact .inl (by rw [same])
  · exact .inr (by rw [gained]; exact expandTabsFrom_concat_return 0 line)

/-! ## Cut lines -/

/-- A line without its indentation: all white space of the first line, and the margin of the
others. -/
def cutLine (width : Option Nat) (index : Nat) (line : List Char) : List Char :=
  if index = 0 then trimLeft line else line.drop (width.getD 0)

/-- Cleaning cuts all lines and drops the empty ones at both ends. -/
theorem cleanLines_eq (lines : List (List Char)) :
    cleanLines lines = trimEmptyLines (lines.mapIdx (cutLine (margin lines.tail))) := by
  cases lines with
  | nil => rfl
  | cons first rest =>
      have others : ∀ width, rest.mapIdx (fun index => cutLine width (index + 1)) =
          rest.map (List.drop (width.getD 0)) := by
        intro width
        apply List.ext_getElem?
        intro index
        rw [List.getElem?_mapIdx, List.getElem?_map]
        rfl
      rw [List.mapIdx_cons, List.tail_cons, cleanLines]
      cases margin rest with
      | none =>
          have whole : rest.map (List.drop 0) = rest := List.map_id rest
          simp [others, cutLine, whole]
      | some width => simp [others, cutLine]

/-- A return at the end of a line stays if the white space before it is not all cut. -/
def KeepsReturn (width : Option Nat) (index : Nat) (line : List Char) : Prop :=
  if index = 0 then trimLeft line ≠ [] else width.getD 0 ≤ line.length

theorem trimLeft_concat_return (line : List Char) :
    trimLeft (line ++ ['\r']) = if trimLeft line = [] then [] else trimLeft line ++ ['\r'] := by
  have isBlankReturn : isBlank '\r' = true := rfl
  rw [trimLeft, List.dropWhile_append]
  simp [trimLeft, isBlankReturn]

theorem cutLine_concat_return (width : Option Nat) (index : Nat) (line : List Char) :
    (KeepsReturn width index line →
      cutLine width index (line ++ ['\r']) = cutLine width index line ++ ['\r']) ∧
    (¬ KeepsReturn width index line →
      cutLine width index (line ++ ['\r']) = cutLine width index line) := by
  unfold KeepsReturn cutLine
  split_ifs
  · rw [trimLeft_concat_return]
    constructor
    · intro notEmpty
      rw [if_neg notEmpty]
    · intro isEmpty
      rw [not_not] at isEmpty
      rw [if_pos isEmpty, isEmpty]
  · rw [List.drop_append]
    constructor
    · intro fits
      rw [Nat.sub_eq_zero_of_le fits]
      rfl
    · intro cutOff
      obtain ⟨more, isMore⟩ : ∃ more, width.getD 0 - line.length = more + 1 :=
        ⟨width.getD 0 - line.length - 1, by omega⟩
      rw [isMore]
      simp

theorem gainsReturn_cutLine (width : Option Nat) (index : Nat) {line other : List Char}
    (gains : GainsReturn line other) :
    GainsReturn (cutLine width index line) (cutLine width index other) := by
  rcases gains with rfl | rfl
  · exact .inl rfl
  · obtain ⟨keeps, drops⟩ := cutLine_concat_return width index line
    by_cases kept : KeepsReturn width index line
    · exact .inr (keeps kept)
    · exact .inl (drops kept)

/-- A return at the end of a line changes neither whether the line is blank nor the indentation of
one that is not. -/
theorem blank_or_indented_of_gainsReturn {line other : List Char}
    (gains : GainsReturn line other) :
    (trimLeft other).isEmpty = (trimLeft line).isEmpty ∧
      (trimLeft line ≠ [] → indentation other = indentation line) := by
  rcases gains with rfl | rfl
  · exact ⟨rfl, fun _ => rfl⟩
  · rw [trimLeft_concat_return]
    refine ⟨by cases trimLeft line <;> rfl, ?_⟩
    intro notBlank
    have short : (line.takeWhile isBlank).length ≠ line.length := by
      intro whole
      have split := congrArg List.length (@List.takeWhile_append_dropWhile _ isBlank line)
      rw [List.length_append] at split
      exact notBlank (List.length_eq_zero_iff.mp (by rw [trimLeft]; omega))
    rw [indentation, indentation, List.takeWhile_append, if_neg short]

theorem margin_eq_of_gainsReturn {lines others : List (List Char)}
    (gains : List.Forall₂ GainsReturn lines others) : margin lines = margin others := by
  unfold margin
  congr 1
  induction gains with
  | nil => rfl
  | @cons line other _ _ gainsFirst _ inductionHypothesis =>
      obtain ⟨sameBlank, sameIndentation⟩ := blank_or_indented_of_gainsReturn gainsFirst
      rw [List.filter_cons, List.filter_cons, sameBlank]
      by_cases isBlankLine : trimLeft line = []
      · simpa [isBlankLine] using inductionHypothesis
      · have notEmpty : (trimLeft line).isEmpty = false := by simpa using isBlankLine
        simp only [notEmpty, Bool.not_false, if_true, List.map_cons, inductionHypothesis,
          sameIndentation isBlankLine]

/-! ## Counting returns -/

/-- The number of returns in several lines. -/
def returnsIn (lines : List (List Char)) : Nat := (lines.map (List.count '\r')).sum

theorem returnsIn_cons (line : List Char) (lines : List (List Char)) :
    returnsIn (line :: lines) = line.count '\r' + returnsIn lines := by
  simp [returnsIn]

theorem count_joinLines (lines : List (List Char)) :
    (joinLines lines).count '\r' = returnsIn lines := by
  fun_induction joinLines lines with
  | case1 => rfl
  | case2 line => simp [returnsIn]
  | case3 line rest notEmpty inductionHypothesis =>
      rw [returnsIn_cons, ← inductionHypothesis, List.count_append, List.count_cons_of_ne]
      decide

/-- Empty lines have no returns. -/
theorem returnsIn_dropWhile (lines : List (List Char)) :
    returnsIn (lines.dropWhile List.isEmpty) = returnsIn lines := by
  induction lines with
  | nil => rfl
  | cons line rest inductionHypothesis =>
      rw [List.dropWhile_cons]
      split_ifs with isEmpty
      · rw [inductionHypothesis, returnsIn_cons, List.isEmpty_iff.mp isEmpty]
        simp
      · rfl

theorem returnsIn_reverse (lines : List (List Char)) :
    returnsIn lines.reverse = returnsIn lines := by
  rw [returnsIn, returnsIn, List.map_reverse, List.sum_reverse]

theorem returnsIn_trimEmptyLines (lines : List (List Char)) :
    returnsIn (trimEmptyLines lines) = returnsIn lines := by
  rw [trimEmptyLines, returnsIn_dropWhile, returnsIn_reverse, returnsIn_dropWhile,
    returnsIn_reverse]

/-- Lines that get a return are not the same, and the number of returns tells. -/
theorem eq_of_returnsIn_eq {lines others : List (List Char)}
    (gains : List.Forall₂ GainsReturn lines others) :
    returnsIn lines ≤ returnsIn others ∧ (returnsIn others = returnsIn lines → others = lines) := by
  induction gains with
  | nil => exact ⟨Nat.le_refl _, fun _ => rfl⟩
  | @cons line other lines others gainsFirst _ inductionHypothesis =>
      obtain ⟨noFewer, same⟩ := inductionHypothesis
      rw [returnsIn_cons, returnsIn_cons]
      rcases gainsFirst with rfl | rfl
      · refine ⟨by omega, ?_⟩
        intro equal
        rw [same (by omega)]
      · have more : (line ++ ['\r']).count '\r' = line.count '\r' + 1 := by
          rw [List.count_append]
          rfl
        refine ⟨by omega, ?_⟩
        intro equal
        omega

/-! ## Cleaned docstrings -/

/-- The lines of a docstring before they are cut. -/
def expandedLines (value : String) : List (List Char) := (splitLines value.toList).map expandTabs

theorem forall₂_expandedLines {value other : String}
    (returned : Returned value.toList other.toList) :
    List.Forall₂ GainsReturn (expandedLines value) (expandedLines other) := by
  rw [expandedLines, expandedLines, List.forall₂_map_left_iff, List.forall₂_map_right_iff]
  exact (forall₂_splitLines returned).imp fun _ _ => gainsReturn_expandTabs

section Cut

variable {lines others : List (List Char)} (gains : List.Forall₂ GainsReturn lines others)
  (width : Option Nat)

include gains

theorem forall₂_cutLines :
    List.Forall₂ GainsReturn (lines.mapIdx (cutLine width)) (others.mapIdx (cutLine width)) := by
  obtain ⟨sameLength, each⟩ := List.forall₂_iff_get.mp gains
  refine List.forall₂_iff_get.mpr ⟨by simpa using sameLength, ?_⟩
  intro index below otherBelow
  simp only [List.get_eq_getElem, List.getElem_mapIdx]
  exact gainsReturn_cutLine width index (each index _ _)

/-- Cut lines are the same if no return stays. -/
theorem cutLines_eq_iff :
    others.mapIdx (cutLine width) = lines.mapIdx (cutLine width) ↔
      ∀ index line, lines[index]? = some line → others[index]? = some (line ++ ['\r']) →
        ¬ KeepsReturn width index line := by
  constructor
  · intro same index line isLine isOther keeps
    have atIndex := congrArg (fun cut => cut[index]?) same
    simp only [List.getElem?_mapIdx, isLine, isOther, Option.map_some, Option.some.injEq] at atIndex
    rw [(cutLine_concat_return width index line).1 keeps] at atIndex
    simp at atIndex
  · intro drops
    obtain ⟨sameLength, each⟩ := List.forall₂_iff_get.mp gains
    apply List.ext_getElem (by simp [sameLength])
    intro index below otherBelow
    rw [List.length_mapIdx] at below otherBelow
    rw [List.getElem_mapIdx, List.getElem_mapIdx]
    have ofLine : GainsReturn lines[index] others[index] := each index otherBelow below
    rcases ofLine with same | gained
    · rw [same]
    · have dropped := drops index lines[index] (List.getElem?_eq_getElem otherBelow)
        (by rw [← gained]; exact List.getElem?_eq_getElem below)
      rw [gained, (cutLine_concat_return width index _).2 dropped]

end Cut

/-- A docstring stays the same if every return at the end of a line is cut off with the white space
before it; otherwise the returns that stay make a difference. -/
theorem clean_eq_iff_of_returned {value other : String}
    (returned : Returned value.toList other.toList) :
    clean other = clean value ↔
      ∀ index line, (expandedLines value)[index]? = some line →
        (expandedLines other)[index]? = some (line ++ ['\r']) →
        ¬ KeepsReturn (margin (expandedLines value).tail) index line := by
  have gains := forall₂_expandedLines returned
  have sameMargin : margin (expandedLines other).tail = margin (expandedLines value).tail := by
    generalize expandedLines value = lines at gains ⊢
    generalize expandedLines other = others at gains ⊢
    cases gains with
    | nil => rfl
    | cons _ later => exact (margin_eq_of_gainsReturn later).symm
  rw [← cutLines_eq_iff gains]
  have cleaned : ∀ doc, clean doc = String.ofList (joinLines (trimEmptyLines
      ((expandedLines doc).mapIdx (cutLine (margin (expandedLines doc).tail))))) := by
    intro doc
    rw [← cleanLines_eq]
    rfl
  rw [cleaned, cleaned, sameMargin]
  constructor
  · intro same
    have counts := congrArg (fun doc : String => doc.toList.count '\r') same
    simp only [String.toList_ofList, count_joinLines, returnsIn_trimEmptyLines] at counts
    exact (eq_of_returnsIn_eq (forall₂_cutLines gains _)).2 counts
  · intro same
    rw [same]

end FunctionAtlas.Docstring
