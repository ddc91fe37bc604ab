import FunctionAtlas.Proofs.Docstring.CleanedReturns

/-!
Contract: cleaning takes nothing but layout away from a docstring.

Tabs become blanks, every line after the first loses the same number of characters, all of them
white space, and empty lines at both ends go. The number is the least indentation of the lines that
are not blank, so these keep their distances and one of them ends up without indentation.

Owns: the lines of a text and how they are joined again, visible characters, and the margin.
-/

namespace FunctionAtlas.Docstring

open FunctionAtlas.Text

/-! ## Lines -/

theorem splitLines_eq_splitOn (characters : List Char) :
    splitLines characters = characters.splitOn '\n' := by
  induction characters with
  | nil => rw [List.splitOn_nil]; rfl
  | cons character rest inductionHypothesis =>
      rw [List.splitOn_cons_eq_if_modifyHead, ← inductionHypothesis]
      by_cases isEnd : character = '\n'
      · rw [isEnd, splitLines_lineEnd]
        rfl
      · obtain ⟨line, lines, split, whole⟩ := splitLines_cons isEnd rest
        rw [whole, split, if_neg (by simpa using isEnd), List.modifyHead_cons]

theorem joinLines_eq_intercalate (lines : List (List Char)) :
    joinLines lines = ['\n'].intercalate lines := by
  fun_induction joinLines lines with
  | case1 => rfl
  | case2 line => rw [List.intercalate_singleton]
  | case3 line rest notEmpty inductionHypothesis =>
      rw [List.intercalate_cons_of_ne_nil notEmpty, inductionHypothesis, List.append_assoc]
      rfl

theorem joinLines_splitLines (characters : List Char) :
    joinLines (splitLines characters) = characters := by
  rw [joinLines_eq_intercalate, splitLines_eq_splitOn, List.intercalate_splitOn]

theorem splitLines_joinLines {lines : List (List Char)} (notEmpty : lines ≠ [])
    (undivided : ∀ line ∈ lines, '\n' ∉ line) : splitLines (joinLines lines) = lines := by
  rw [joinLines_eq_intercalate, splitLines_eq_splitOn,
    List.splitOn_intercalate _ undivided notEmpty]

theorem mem_joinLines {lines : List (List Char)} {character : Char}
    (member : character ∈ joinLines lines) :
    character = '\n' ∨ ∃ line ∈ lines, character ∈ line := by
  fun_induction joinLines lines with
  | case1 => exact absurd member List.not_mem_nil
  | case2 line => exact .inr ⟨line, List.mem_cons_self, member⟩
  | case3 line rest _ inductionHypothesis =>
      rcases List.mem_append.mp member with inLine | isLater
      · exact .inr ⟨line, List.mem_cons_self, inLine⟩
      · rcases List.mem_cons.mp isLater with isEnd | inRest
        · exact .inl isEnd
        · obtain isEnd | ⟨other, isOther, inOther⟩ := inductionHypothesis inRest
          · exact .inl isEnd
          · exact .inr ⟨other, List.mem_cons_of_mem _ isOther, inOther⟩

theorem mem_joinLines_of_mem {lines : List (List Char)} {line : List Char} {character : Char}
    (isLine : line ∈ lines) (member : character ∈ line) : character ∈ joinLines lines := by
  fun_induction joinLines lines with
  | case1 => exact absurd isLine List.not_mem_nil
  | case2 only => rwa [List.mem_singleton.mp isLine] at member
  | case3 first rest _ inductionHypothesis =>
      rcases List.mem_cons.mp isLine with rfl | isLater
      · exact List.mem_append_left _ member
      · exact List.mem_append_right _ (List.mem_cons_of_mem _ (inductionHypothesis isLater))

/-- There is a first line, and no line has a line end. -/
theorem exists_splitLines (characters : List Char) :
    ∃ first rest, splitLines characters = first :: rest ∧
      ∀ line ∈ splitLines characters, '\n' ∉ line := by
  induction characters with
  | nil => exact ⟨[], [], rfl, by simp [splitLines]⟩
  | cons character others inductionHypothesis =>
      obtain ⟨first, rest, split, undivided⟩ := inductionHypothesis
      by_cases isEnd : character = '\n'
      · rw [isEnd, splitLines_lineEnd]
        exact ⟨[], _, rfl, List.forall_mem_cons.mpr ⟨List.not_mem_nil, undivided⟩⟩
      · obtain ⟨line, lines, sameSplit, whole⟩ := splitLines_cons isEnd others
        rw [sameSplit, List.forall_mem_cons] at undivided
        rw [whole]
        refine ⟨_, _, rfl, List.forall_mem_cons.mpr ⟨?_, undivided.2⟩⟩
        exact List.not_mem_cons_of_ne_of_not_mem (Ne.symm isEnd) undivided.1

/-! ## Visible characters -/

/-- The characters of a text that are not white space. -/
def visibleIn (characters : List Char) : List Char :=
  characters.filter fun character => !isBlank character

/-- A line that is not blank. -/
def HasText (line : List Char) : Prop := ∃ character ∈ line, isBlank character = false

theorem visibleIn_append (first second : List Char) :
    visibleIn (first ++ second) = visibleIn first ++ visibleIn second :=
  List.filter_append first second

theorem visibleIn_eq_nil {characters : List Char}
    (blank : ∀ character ∈ characters, isBlank character = true) : visibleIn characters = [] := by
  rw [visibleIn, List.filter_eq_nil_iff]
  intro character member
  simp [blank character member]

theorem visibleIn_joinLines (lines : List (List Char)) :
    visibleIn (joinLines lines) = lines.flatMap visibleIn := by
  fun_induction joinLines lines with
  | case1 => rfl
  | case2 line => simp
  | case3 line rest _ inductionHypothesis =>
      have isBlankEnd : isBlank '\n' = true := rfl
      rw [visibleIn_append, List.flatMap_cons, ← inductionHypothesis]
      simp [visibleIn, isBlankEnd]

theorem visibleIn_expandTabsFrom (column : Nat) (line : List Char) :
    visibleIn (expandTabsFrom column line) = visibleIn line := by
  fun_induction expandTabsFrom column line with
  | case1 => rfl
  | case2 column rest width inductionHypothesis =>
      have isBlankTab : isBlank '\t' = true := rfl
      rw [visibleIn_append, inductionHypothesis, visibleIn_eq_nil, visibleIn, visibleIn,
        List.filter_cons_of_neg (by simp [isBlankTab]), List.nil_append]
      intro character member
      rw [List.eq_of_mem_replicate member]
      rfl
  | case3 column character rest notTab inductionHypothesis =>
      rw [visibleIn, visibleIn, List.filter_cons, List.filter_cons]
      rw [visibleIn, visibleIn] at inductionHypothesis
      rw [inductionHypothesis]

theorem visibleIn_trimLeft (line : List Char) : visibleIn (trimLeft line) = visibleIn line := by
  have split : line.takeWhile isBlank ++ trimLeft line = line := List.takeWhile_append_dropWhile
  have blank : visibleIn (line.takeWhile isBlank) = [] :=
    visibleIn_eq_nil fun _ member => List.mem_takeWhile_imp member
  rw [← congrArg visibleIn split, visibleIn_append, blank, List.nil_append]

theorem visibleIn_drop {line : List Char} {width : Nat}
    (blank : ∀ character ∈ line.take width, isBlank character = true) :
    visibleIn (line.drop width) = visibleIn line := by
  rw [← congrArg visibleIn (List.take_append_drop width line), visibleIn_append,
    visibleIn_eq_nil blank, List.nil_append]

/-! ## Tabs -/

/-- Expanded lines have the characters of the line but tabs, and blanks. -/
theorem mem_expandTabsFrom {column : Nat} {line : List Char} {character : Char}
    (member : character ∈ expandTabsFrom column line) :
    character = ' ' ∨ (character ∈ line ∧ character ≠ '\t') := by
  fun_induction expandTabsFrom column line with
  | case1 => exact absurd member List.not_mem_nil
  | case2 column rest width inductionHypothesis =>
      rcases List.mem_append.mp member with isPad | isLater
      · exact .inl (List.eq_of_mem_replicate isPad)
      · exact (inductionHypothesis isLater).imp_right (And.imp_left (List.mem_cons_of_mem _))
  | case3 column first rest notTab inductionHypothesis =>
      rcases List.mem_cons.mp member with isFirst | isLater
      · rw [isFirst]
        exact .inr ⟨List.mem_cons_self, notTab⟩
      · exact (inductionHypothesis isLater).imp_right (And.imp_left (List.mem_cons_of_mem _))

/-- Expanded lines have neither tabs nor line ends. -/
theorem not_mem_of_mem_expandedLines {doc : String} {line : List Char}
    (member : line ∈ expandedLines doc) : '\t' ∉ line ∧ '\n' ∉ line := by
  obtain ⟨whole, isLine, rfl⟩ := List.mem_map.mp member
  obtain ⟨-, -, -, undivided⟩ := exists_splitLines doc.toList
  refine ⟨?_, ?_⟩
  · intro isTab
    exact (mem_expandTabsFrom isTab).elim (by decide) fun isOld => isOld.2 rfl
  · intro isEnd
    exact (mem_expandTabsFrom isEnd).elim (by decide) fun isOld => undivided whole isLine isOld.1

/-! ## The margin -/

theorem trimLeft_eq_nil_iff {line : List Char} : trimLeft line = [] ↔ ¬ HasText line := by
  simp [trimLeft, HasText]

/-- White space up to the indentation of a line can be cut off; the rest of the indentation
stays. -/
theorem indentation_drop {line : List Char} {width : Nat} (fits : width ≤ indentation line) :
    (∀ character ∈ line.take width, isBlank character = true) ∧
      indentation line = width + indentation (line.drop width) := by
  have split : line.takeWhile isBlank ++ trimLeft line = line := List.takeWhile_append_dropWhile
  have dropped : line.drop width = (line.takeWhile isBlank).drop width ++ trimLeft line := by
    rw [← List.drop_append_of_le_length fits, split]
  have blank : ∀ character ∈ (line.takeWhile isBlank).drop width, isBlank character = true :=
    fun _ member => List.mem_takeWhile_imp (List.mem_of_mem_drop member)
  have stops : (trimLeft line).takeWhile isBlank = [] := by
    rw [List.takeWhile_eq_nil_iff]
    intro notEmpty
    have isFirst := List.head?_dropWhile_not isBlank line
    rw [← trimLeft, List.head?_eq_getElem?, List.getElem?_eq_getElem notEmpty] at isFirst
    simpa using isFirst
  refine ⟨?_, ?_⟩
  · intro character member
    rw [← split, List.take_append_of_le_length fits] at member
    exact List.mem_takeWhile_imp (List.mem_of_mem_take member)
  · unfold indentation at fits ⊢
    rw [dropped, List.takeWhile_append_of_pos blank, stops, List.append_nil, List.length_drop]
    omega

/-- A number of characters that can be cut off all lines but the first: they are white space, the
lines that are not blank keep the rest of their indentation, and for one of them there is none. -/
structure IsMargin (lines : List (List Char)) (width : Nat) : Prop where
  blank : ∀ line ∈ lines, ∀ character ∈ line.take width, isBlank character = true
  keeps : ∀ line ∈ lines, HasText line →
    indentation line = width + indentation (line.drop width)
  reached : (∃ line ∈ lines, HasText line) →
    ∃ line ∈ lines, HasText line ∧ indentation (line.drop width) = 0

/-- The margin is the indentation of a line that is not blank, and of no such line it is more. -/
theorem margin_eq_some_iff {lines : List (List Char)} {width : Nat} :
    margin lines = some width ↔
      (∃ line ∈ lines, HasText line ∧ indentation line = width) ∧
        ∀ line ∈ lines, HasText line → width ≤ indentation line := by
  have counted : ∀ {line}, line ∈ lines.filter (fun line => !(trimLeft line).isEmpty) ↔
      line ∈ lines ∧ HasText line := by
    intro line
    rw [List.mem_filter, Bool.not_eq_true', ← Bool.not_eq_true, List.isEmpty_iff,
      trimLeft_eq_nil_iff, not_not]
  rw [margin, List.min?_eq_some_iff, List.mem_map, List.forall_mem_map]
  simp only [counted, and_assoc, and_imp]

theorem margin_eq_none_iff {lines : List (List Char)} :
    margin lines = none ↔ ∀ line ∈ lines, ¬ HasText line := by
  rw [margin, List.min?_eq_none_iff, List.map_eq_nil_iff, List.filter_eq_nil_iff]
  simp [trimLeft_eq_nil_iff]

theorem isMargin_margin (lines : List (List Char)) : IsMargin lines ((margin lines).getD 0) := by
  cases found : margin lines with
  | none =>
      rw [margin_eq_none_iff] at found
      exact
        { blank := fun _ _ _ member => absurd member List.not_mem_nil
          keeps := fun line isLine hasText => absurd hasText (found line isLine)
          reached := fun ⟨line, isLine, hasText⟩ => absurd hasText (found line isLine) }
  | some width =>
      obtain ⟨⟨least, isLeast, leastHasText, isWidth⟩, fits⟩ := margin_eq_some_iff.mp found
      refine ⟨?_, ?_, ?_⟩
      · intro line isLine character member
        by_cases hasText : HasText line
        · exact (indentation_drop (fits line isLine hasText)).1 character member
        -- A blank line is not measured and can be shorter, but there is no text in it to lose.
        · have allBlank : ∀ other ∈ line, isBlank other = true := by
            simpa [HasText] using hasText
          exact allBlank character (List.mem_of_mem_take member)
      · intro line isLine hasText
        exact (indentation_drop (fits line isLine hasText)).2
      · intro _
        have keeps := (indentation_drop (fits least isLeast leastHasText)).2
        refine ⟨least, isLeast, leastHasText, ?_⟩
        rw [Option.getD_some]
        omega

/-! ## Empty lines at the ends -/

/-- The second lines are the first ones without the empty lines at both ends. -/
structure Trims (lines kept : List (List Char)) : Prop where
  around : ∃ above below, lines = above ++ kept ++ below ∧ ∀ line ∈ above ++ below, line = []
  first : kept.head? ≠ some []
  last : kept.getLast? ≠ some []

theorem trims_trimEmptyLines (lines : List (List Char)) : Trims lines (trimEmptyLines lines) := by
  let front := lines.rdropWhile List.isEmpty
  have isFront : trimEmptyLines lines = front.dropWhile List.isEmpty := rfl
  have split : front.takeWhile List.isEmpty ++ trimEmptyLines lines ++
      lines.rtakeWhile List.isEmpty = lines := by
    rw [isFront, List.takeWhile_append_dropWhile, List.rdropWhile_append_rtakeWhile]
  refine ⟨⟨_, _, split.symm, ?_⟩, ?_, ?_⟩
  · intro line member
    rw [← List.isEmpty_iff]
    exact (List.mem_append.mp member).elim List.mem_takeWhile_imp List.mem_rtakeWhile_imp
  · intro isEmpty
    have stops := List.head?_dropWhile_not List.isEmpty front
    rw [← isFront, isEmpty] at stops
    simp at stops
  · intro isEmpty
    obtain ⟨others, isLast⟩ := List.getLast?_eq_some_iff.mp isEmpty
    have ofFront : front = front.takeWhile List.isEmpty ++ others ++ [[]] := by
      rw [List.append_assoc, ← isLast, isFront, List.takeWhile_append_dropWhile]
    have notEmpty : front ≠ [] := by
      rw [ofFront]
      exact List.append_ne_nil_of_right_ne_nil _ (List.cons_ne_nil _ _)
    have stops := List.rdropWhile_last_not List.isEmpty lines notEmpty
    have endsEmpty : front.getLast notEmpty = [] := by
      rw [List.getLast_congr notEmpty (List.concat_ne_nil _ _) ofFront, List.getLast_concat]
    exact stops (by rw [endsEmpty]; rfl)

/-- Lines that are cut and trimmed show the same characters. -/
theorem Trims.flatMap_visibleIn {lines kept : List (List Char)} (trims : Trims lines kept) :
    kept.flatMap visibleIn = lines.flatMap visibleIn := by
  obtain ⟨above, below, rfl, empty⟩ := trims.around
  have nothing : ∀ others : List (List Char), (∀ line ∈ others, line = []) →
      others.flatMap visibleIn = [] := by
    intro others allEmpty
    rw [List.flatMap_eq_nil_iff]
    intro line member
    rw [allEmpty line member]
    rfl
  rw [List.flatMap_append, List.flatMap_append,
    nothing above fun line isAbove => empty line (List.mem_append_left _ isAbove),
    nothing below fun line isBelow => empty line (List.mem_append_right _ isBelow),
    List.nil_append, List.append_nil]

theorem Trims.subset {lines kept : List (List Char)} (trims : Trims lines kept) :
    kept ⊆ lines := by
  obtain ⟨above, below, rfl, -⟩ := trims.around
  intro line member
  exact List.mem_append_left _ (List.mem_append_right _ member)

/-! ## Cleaned docstrings -/

/-- Cleaning cuts all white space off the beginning of the first line, cuts the margin off the
others, and drops empty lines at both ends. -/
theorem exists_trims_cleanLines (first : List Char) (rest : List (List Char)) :
    Trims (trimLeft first :: rest.map (List.drop ((margin rest).getD 0)))
      (cleanLines (first :: rest)) := by
  have cut : cleanLines (first :: rest) =
      trimEmptyLines (trimLeft first :: rest.map (List.drop ((margin rest).getD 0))) := by
    rw [cleanLines]
    cases margin rest with
    | none =>
        have whole : rest.map (List.drop 0) = rest := List.map_id rest
        rw [Option.getD_none, whole]
    | some width => rw [Option.getD_some]
  rw [cut]
  exact trims_trimEmptyLines _

/-- Cutting keeps the visible characters. -/
theorem flatMap_visibleIn_cut {first : List Char} {rest : List (List Char)} {width : Nat}
    (isMargin : IsMargin rest width) :
    (trimLeft first :: rest.map (List.drop width)).flatMap visibleIn =
      (first :: rest).flatMap visibleIn := by
  rw [List.flatMap_cons, List.flatMap_cons, visibleIn_trimLeft, List.flatMap_map]
  congr 1
  exact List.flatMap_congr fun line isLine => visibleIn_drop (isMargin.blank line isLine)

/-- A cut line is the end of a line. -/
theorem exists_suffix_of_mem_cut {first line : List Char} {rest : List (List Char)} {width : Nat}
    (member : line ∈ trimLeft first :: rest.map (List.drop width)) :
    ∃ whole ∈ first :: rest, line <:+ whole := by
  rcases List.mem_cons.mp member with rfl | isLater
  · exact ⟨first, List.mem_cons_self, List.dropWhile_suffix _⟩
  · obtain ⟨whole, isLine, rfl⟩ := List.mem_map.mp isLater
    exact ⟨whole, List.mem_cons_of_mem _ isLine, List.drop_suffix _ _⟩

/-- Cleaning keeps the visible characters of a docstring and their order. It leaves no tab, and no
empty line at either end. It cuts a margin off all lines after the first, in which tabs are
expanded before: the same number of characters off each, or all if there are fewer, and none of
them visible. -/
theorem clean_removes_layout (doc : String) :
    visibleIn (clean doc).toList = visibleIn doc.toList ∧
    '\t' ∉ (clean doc).toList ∧
    (clean doc = "" ∨
      ((splitLines (clean doc).toList).head? ≠ some [] ∧
        (splitLines (clean doc).toList).getLast? ≠ some [])) ∧
    ∃ first rest width kept,
      (splitLines doc.toList).map expandTabs = first :: rest ∧
      IsMargin rest width ∧
      Trims (trimLeft first :: rest.map (List.drop width)) kept ∧
      (clean doc = "" ∧ kept = [] ∨ splitLines (clean doc).toList = kept) := by
  obtain ⟨line, lines, split, -⟩ := exists_splitLines doc.toList
  have expanded : expandedLines doc = expandTabs line :: lines.map expandTabs := by
    rw [expandedLines, split, List.map_cons]
  generalize isFirst : expandTabs line = first at expanded
  generalize isRest : lines.map expandTabs = rest at expanded
  have isMargin := isMargin_margin rest
  have trims := exists_trims_cleanLines first rest
  have cleaned : (clean doc).toList = joinLines (cleanLines (first :: rest)) := by
    rw [← expanded]
    exact String.toList_ofList
  generalize cleanLines (first :: rest) = kept at trims cleaned
  have clear : ∀ line ∈ kept, '\t' ∉ line ∧ '\n' ∉ line := by
    intro line isKept
    obtain ⟨whole, isLine, isEnd⟩ := exists_suffix_of_mem_cut (trims.subset isKept)
    obtain ⟨noTab, noEnd⟩ := not_mem_of_mem_expandedLines (expanded ▸ isLine)
    exact ⟨fun isTab => noTab (isEnd.subset isTab), fun isBreak => noEnd (isEnd.subset isBreak)⟩
  have lineByLine : clean doc = "" ∧ kept = [] ∨ splitLines (clean doc).toList = kept := by
    by_cases nothing : kept = []
    · refine .inl ⟨?_, nothing⟩
      rw [nothing] at cleaned
      exact String.toList_eq_nil_iff.mp cleaned
    · rw [cleaned]
      exact .inr (splitLines_joinLines nothing fun line isKept => (clear line isKept).2)
  refine ⟨?_, ?_, ?_, first, rest, _, kept, expanded, isMargin, trims, lineByLine⟩
  · calc visibleIn (clean doc).toList
        = kept.flatMap visibleIn := by rw [cleaned, visibleIn_joinLines]
      _ = (first :: rest).flatMap visibleIn := by
          rw [trims.flatMap_visibleIn, flatMap_visibleIn_cut isMargin]
      _ = (splitLines doc.toList).flatMap visibleIn := by
          rw [← expanded, expandedLines, List.flatMap_map]
          exact List.flatMap_congr fun line _ => visibleIn_expandTabsFrom 0 line
      _ = visibleIn doc.toList := by rw [← visibleIn_joinLines, joinLines_splitLines]
  · intro isTab
    rw [cleaned] at isTab
    rcases mem_joinLines isTab with isEnd | ⟨line, isKept, inLine⟩
    · exact absurd isEnd (by decide)
    · exact (clear line isKept).1 inLine
  · refine lineByLine.imp And.left fun areKept => ?_
    rw [areKept]
    exact ⟨trims.first, trims.last⟩

end FunctionAtlas.Docstring
