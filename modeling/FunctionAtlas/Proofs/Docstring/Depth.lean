import FunctionAtlas.Proofs.Docstring.Layout

/-!
Contract: a cleaned docstring does not show how deep its definition is nested.

Blanks in front of all lines after the first add to the margin, which is cut off. So they make no
difference if there is a line to measure the margin by, and if they move no tab off its stop.

Owns: indented docstrings and their lines.
-/

namespace FunctionAtlas.Docstring

open FunctionAtlas.Text

/-- A line with blanks in front of it. -/
def indentLine (width : Nat) (line : List Char) : List Char := List.replicate width ' ' ++ line

/-- A text with blanks in front of all lines after the first. -/
def indentLater (width : Nat) (doc : String) : String :=
  match splitLines doc.toList with
  | [] => ""
  | first :: rest => String.ofList (joinLines (first :: rest.map (indentLine width)))

/-! ## Tabs -/

/-- Blanks move what comes after them to a later column. -/
theorem expandTabsFrom_indentLine (column width : Nat) (line : List Char) :
    expandTabsFrom column (indentLine width line) =
      indentLine width (expandTabsFrom (column + width) line) := by
  induction width generalizing column with
  | zero => rfl
  | succ width inductionHypothesis =>
      have next : column + (width + 1) = column + 1 + width := by omega
      rw [indentLine, List.replicate_succ, List.cons_append, ← indentLine, expandTabsFrom,
        inductionHypothesis, next]
      · rfl
      · decide

/-- Tabs depend on the distance of a column from the tab stop before it only. -/
theorem expandTabsFrom_congr {column other : Nat} (same : column % tabSize = other % tabSize)
    (line : List Char) : expandTabsFrom column line = expandTabsFrom other line := by
  induction line generalizing column other with
  | nil => rfl
  | cons character rest inductionHypothesis =>
      have moved : ∀ width, expandTabsFrom (column + width) rest =
          expandTabsFrom (other + width) rest := by
        intro width
        apply inductionHypothesis
        rw [Nat.add_mod, same, ← Nat.add_mod]
      by_cases isTab : character = '\t'
      · rw [isTab, expandTabsFrom, expandTabsFrom, same, moved]
      · rw [expandTabsFrom, expandTabsFrom, moved] <;> exact isTab

theorem expandTabsFrom_eq_self (column : Nat) {line : List Char} (noTab : '\t' ∉ line) :
    expandTabsFrom column line = line := by
  fun_induction expandTabsFrom column line with
  | case1 => rfl
  | case2 => exact absurd List.mem_cons_self noTab
  | case3 column character rest _ inductionHypothesis =>
      rw [inductionHypothesis fun isLater => noTab (List.mem_cons_of_mem _ isLater)]

theorem expandTabs_indentLine {width : Nat} {line : List Char}
    (stays : tabSize ∣ width ∨ '\t' ∉ line) :
    expandTabs (indentLine width line) = indentLine width (expandTabs line) := by
  rw [expandTabs, expandTabs, expandTabsFrom_indentLine]
  rcases stays with ⟨stops, isStop⟩ | noTab
  · have same : (0 + width) % tabSize = 0 % tabSize := by
      rw [isStop, Nat.zero_add, Nat.mul_mod_right, Nat.zero_mod]
    rw [expandTabsFrom_congr same]
  · rw [expandTabsFrom_eq_self _ noTab, expandTabsFrom_eq_self _ noTab]

/-! ## The margin -/

theorem hasText_iff_visibleIn {line : List Char} : HasText line ↔ visibleIn line ≠ [] := by
  simp [HasText, visibleIn]

theorem hasText_expandTabs {line : List Char} : HasText (expandTabs line) ↔ HasText line := by
  rw [hasText_iff_visibleIn, hasText_iff_visibleIn, expandTabs, visibleIn_expandTabsFrom]

section Indented

variable (width : Nat) (line : List Char)

theorem isBlank_of_mem_replicate :
    ∀ character ∈ List.replicate width ' ', isBlank character = true := by
  intro character member
  rw [List.eq_of_mem_replicate member]
  rfl

theorem hasText_indentLine : HasText (indentLine width line) ↔ HasText line := by
  rw [hasText_iff_visibleIn, hasText_iff_visibleIn, indentLine, visibleIn_append,
    visibleIn_eq_nil (isBlank_of_mem_replicate width), List.nil_append]

theorem indentation_indentLine :
    indentation (indentLine width line) = width + indentation line := by
  rw [indentation, indentLine, List.takeWhile_append_of_pos (isBlank_of_mem_replicate width),
    List.length_append, List.length_replicate]
  rfl

theorem drop_indentLine (cut : Nat) :
    (indentLine width line).drop (width + cut) = line.drop cut := by
  rw [indentLine, ← List.drop_drop, List.drop_left' List.length_replicate]

end Indented

/-- Blanks in front of all lines add to their margin. -/
theorem margin_indentLine {lines : List (List Char)} {cut : Nat}
    (isMargin : margin lines = some cut) (width : Nat) :
    margin (lines.map (indentLine width)) = some (width + cut) := by
  obtain ⟨⟨line, isLine, hasText, isCut⟩, least⟩ := margin_eq_some_iff.mp isMargin
  rw [margin_eq_some_iff, List.forall_mem_map]
  refine ⟨⟨_, List.mem_map_of_mem isLine, (hasText_indentLine width line).mpr hasText, ?_⟩, ?_⟩
  · rw [indentation_indentLine, isCut]
  · intro other isOther otherHasText
    rw [indentation_indentLine]
    have hasOwnText := (hasText_indentLine width other).mp otherHasText
    exact Nat.add_le_add_left (least other isOther hasOwnText) width

/-! ## Indented docstrings -/

theorem splitLines_indentLater {doc : String} {first : List Char} {rest : List (List Char)}
    (split : splitLines doc.toList = first :: rest) (width : Nat) :
    splitLines (indentLater width doc).toList = first :: rest.map (indentLine width) := by
  obtain ⟨-, -, -, undivided⟩ := exists_splitLines doc.toList
  rw [split, List.forall_mem_cons] at undivided
  rw [indentLater, split, String.toList_ofList]
  refine splitLines_joinLines (List.cons_ne_nil _ _) (List.forall_mem_cons.mpr ⟨undivided.1, ?_⟩)
  rw [List.forall_mem_map]
  intro line isLine isEnd
  rcases List.mem_append.mp isEnd with isPad | inLine
  · exact absurd (List.eq_of_mem_replicate isPad) (by decide)
  · exact undivided.2 line isLine inLine

/-- Blanks in front of all lines after the first make no difference for the cleaned docstring if
one of these lines is not blank. They are as many as fill tab stops, or there is no tab. -/
theorem clean_indentLater
    (doc : String)
    (width : Nat)
    (measured : ∃ line ∈ (splitLines doc.toList).tail, HasText line)
    (stays : 8 ∣ width ∨ '\t' ∉ doc.toList) :
    clean (indentLater width doc) = clean doc := by
  obtain ⟨first, rest, split, -⟩ := exists_splitLines doc.toList
  have indented := splitLines_indentLater split width
  rw [split, List.tail_cons] at measured
  have expanded : (rest.map (indentLine width)).map expandTabs =
      (rest.map expandTabs).map (indentLine width) := by
    rw [List.map_map, List.map_map]
    refine List.map_congr_left fun line isLine => expandTabs_indentLine ?_
    refine stays.imp_right fun noTab inLine => noTab ?_
    rw [← joinLines_splitLines doc.toList, split]
    exact mem_joinLines_of_mem (List.mem_cons_of_mem _ isLine) inLine
  -- Nothing would be cut off without a line to measure by, and the blanks would stay.
  obtain ⟨cut, isMargin⟩ : ∃ cut, margin (rest.map expandTabs) = some cut := by
    rw [← Option.ne_none_iff_exists', Ne, margin_eq_none_iff, List.forall_mem_map]
    obtain ⟨line, isLine, hasText⟩ := measured
    exact fun allBlank => allBlank line isLine (hasText_expandTabs.mpr hasText)
  unfold clean
  rw [indented, split, List.map_cons, List.map_cons, expanded, cleanLines, cleanLines,
    margin_indentLine isMargin, isMargin]
  simp only [List.map_map (g := List.drop (width + cut)), Function.comp_def, drop_indentLine]

/-- Eight blanks in front of a line with a tab and of one without. -/
theorem clean_indentLater_tabbed :
    let doc := "Sum.\n\tx\n  y"
    (∃ line ∈ (splitLines doc.toList).tail, HasText line) ∧
      indentLater 8 doc = "Sum.\n        \tx\n          y" ∧
      clean (indentLater 8 doc) = "Sum.\n      x\ny" := by
  intro doc
  have measured : ∃ line ∈ (splitLines doc.toList).tail, HasText line :=
    ⟨['\t', 'x'], by decide, 'x', by decide, by decide⟩
  have cleaned : clean doc = "Sum.\n      x\ny" := by decide +kernel
  refine ⟨measured, by decide +kernel, ?_⟩
  rw [clean_indentLater doc 8 measured (.inl (Nat.dvd_refl 8)), cleaned]

-- The first text has only a blank line to measure by; in the second one the tab fills less.
example : clean (indentLater 2 "a\n ") ≠ clean "a\n " := by decide +kernel

example : clean (indentLater 1 "a\n\tb\n c") ≠ clean "a\n\tb\n c" := by decide +kernel

end FunctionAtlas.Docstring
