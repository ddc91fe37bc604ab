import FunctionAtlas.Proofs.Docstring.Documented

/-!
Contract: string literals in texts whose lines end with a return and a line feed.

A return before a line feed shows in the value of a literal. Only an escaped line end stands for
nothing in both forms, and a line end that an escape stands for has no return.

Owns: texts with returns and the values of their literals.

Does not own: docstrings; see `FunctionAtlas.Proofs.Docstring.CleanedReturns`.
-/

namespace FunctionAtlas.Docstring

/-! ## Returns -/

/-- A text with a return before every line feed. -/
def withReturns : List Char → List Char
  | [] => []
  | character :: rest =>
      if character = '\n' then '\r' :: '\n' :: withReturns rest
      else character :: withReturns rest

@[simp] theorem withReturns_nil : withReturns [] = [] := rfl

@[simp] theorem withReturns_lineEnd (rest : List Char) :
    withReturns ('\n' :: rest) = '\r' :: '\n' :: withReturns rest := rfl

theorem withReturns_cons {character : Char} (isOther : character ≠ '\n') (rest : List Char) :
    withReturns (character :: rest) = character :: withReturns rest := by
  rw [withReturns, if_neg isOther]

theorem withReturns_append (first second : List Char) :
    withReturns (first ++ second) = withReturns first ++ withReturns second := by
  induction first with
  | nil => rfl
  | cons character rest inductionHypothesis =>
      by_cases isEnd : character = '\n'
      · rw [isEnd, List.cons_append, withReturns_lineEnd, withReturns_lineEnd, inductionHypothesis]
        rfl
      · rw [List.cons_append, withReturns_cons isEnd, withReturns_cons isEnd, inductionHypothesis]
        rfl

theorem withReturns_eq_self {characters : List Char} (noEnd : '\n' ∉ characters) :
    withReturns characters = characters := by
  induction characters with
  | nil => rfl
  | cons character rest inductionHypothesis =>
      rw [List.mem_cons, not_or] at noEnd
      obtain ⟨isOther, others⟩ := noEnd
      rw [withReturns_cons (Ne.symm isOther), inductionHypothesis others]

/-- The second text has returns before some line feeds of the first. -/
inductive Returned : List Char → List Char → Prop where
  | nil : Returned [] []
  | same {rest other : List Char} (character : Char) (later : Returned rest other) :
      Returned (character :: rest) (character :: other)
  | lineEnd {rest other : List Char} (later : Returned rest other) :
      Returned ('\n' :: rest) ('\r' :: '\n' :: other)

theorem Returned.refl (characters : List Char) : Returned characters characters := by
  induction characters with
  | nil => exact .nil
  | cons character rest inductionHypothesis => exact .same character inductionHypothesis

theorem Returned.append {first firstOther second secondOther : List Char}
    (ofFirst : Returned first firstOther) (ofSecond : Returned second secondOther) :
    Returned (first ++ second) (firstOther ++ secondOther) := by
  induction ofFirst with
  | nil => exact ofSecond
  | same character _ inductionHypothesis => exact .same character inductionHypothesis
  | lineEnd _ inductionHypothesis => exact .lineEnd inductionHypothesis

theorem returned_withReturns (characters : List Char) :
    Returned characters (withReturns characters) := by
  induction characters with
  | nil => exact .nil
  | cons character rest inductionHypothesis =>
      by_cases isEnd : character = '\n'
      · rw [isEnd, withReturns_lineEnd]
        exact .lineEnd inductionHypothesis
      · rw [withReturns_cons isEnd]
        exact .same character inductionHypothesis

/-! ## Escapes -/

/-- Digits end at a line end, with or without a return. -/
theorem takeUpTo_withReturns {accepts : Char → Bool} (notEnd : accepts '\n' = false)
    (notReturn : accepts '\r' = false) (limit : Nat) (characters : List Char) :
    takeUpTo accepts limit (withReturns characters) =
      ((takeUpTo accepts limit characters).1,
        withReturns (takeUpTo accepts limit characters).2) := by
  induction limit generalizing characters with
  | zero => rfl
  | succ limit inductionHypothesis =>
      cases characters with
      | nil => rfl
      | cons character rest =>
          by_cases isEnd : character = '\n'
          · simp [isEnd, takeUpTo, notEnd, notReturn]
          · rw [withReturns_cons isEnd, takeUpTo, takeUpTo, inductionHypothesis]
            by_cases accepted : accepts character = true
            · simp [accepted]
            · simp [accepted, withReturns_cons isEnd]

theorem takeUpTo_suffix (accepts : Char → Bool) (limit : Nat) (characters : List Char) :
    (takeUpTo accepts limit characters).2 <:+ characters := by
  induction limit generalizing characters with
  | zero => exact List.suffix_refl _
  | succ limit inductionHypothesis =>
      cases characters with
      | nil => exact List.suffix_refl _
      | cons first rest =>
          rw [takeUpTo]
          split
          · exact (inductionHypothesis rest).trans (List.suffix_cons first rest)
          · exact List.suffix_refl _

theorem unescape_cons {character : Char} (notEscape : character ≠ '\\') (rest : List Char) :
    unescape (character :: rest) = character :: unescape rest := by
  rw [unescape]
  all_goals simp [notEscape]

/-- What a backslash stands for together with what comes after it, and what comes after that. -/
def escapeAt (letter : Char) (rest : List Char) : List Char × List Char :=
  match simpleEscape letter with
  | some character => ([character], rest)
  | none =>
      if isOctalDigit letter then
        let taken := takeUpTo isOctalDigit 2 rest
        let digits := letter :: taken.1
        (match characterOf (digitsValue 8 digits) with
          | some character => [character]
          | none => '\\' :: digits, taken.2)
      else
        match hexWidth letter with
        | some width =>
            let taken := takeUpTo isHexDigit width rest
            (hexEscape letter width taken.1, taken.2)
        | none => (['\\', letter], rest)

theorem unescape_escape {letter : Char} (notEnd : letter ≠ '\n') (notReturn : letter ≠ '\r')
    (rest : List Char) :
    unescape ('\\' :: letter :: rest) =
      (escapeAt letter rest).1 ++ unescape (escapeAt letter rest).2 := by
  unfold escapeAt
  rw [unescape]
  · cases simpleEscape letter with
    | some character => rfl
    | none =>
        dsimp only
        split_ifs
        · rfl
        · cases hexWidth letter <;> rfl
  all_goals simp [notEnd, notReturn]

theorem escapeAt_suffix (letter : Char) (rest : List Char) : (escapeAt letter rest).2 <:+ rest := by
  unfold escapeAt
  cases simpleEscape letter with
  | some character => exact List.suffix_refl _
  | none =>
      dsimp only
      split_ifs
      · exact takeUpTo_suffix _ _ _
      · cases hexWidth letter with
        | some width => exact takeUpTo_suffix _ _ _
        | none => exact List.suffix_refl _

/-- An escape stands for the same whatever the form of the line ends after it. -/
theorem escapeAt_withReturns (letter : Char) (rest : List Char) :
    escapeAt letter (withReturns rest) =
      ((escapeAt letter rest).1, withReturns (escapeAt letter rest).2) := by
  have octal := @takeUpTo_withReturns isOctalDigit rfl rfl 2 rest
  have hexadecimal := @takeUpTo_withReturns isHexDigit (by decide) (by decide)
  unfold escapeAt
  cases simpleEscape letter with
  | some character => rfl
  | none =>
      dsimp only
      split_ifs
      · rw [octal]
      · cases hexWidth letter with
        | some width => simp only [hexadecimal]
        | none => rfl

/-- Escapes stand for the same in a text with returns; line ends that are not escaped keep their
return. The induction is on the length, since an escape takes several characters. -/
theorem returned_unescape (characters : List Char) (noReturn : '\r' ∉ characters) :
    Returned (unescape characters) (unescape (withReturns characters)) := by
  match characters with
  | [] => exact .refl _
  | character :: rest =>
      have noLaterReturn : '\r' ∉ rest := fun isLater => noReturn (List.mem_cons_of_mem _ isLater)
      by_cases isEscape : character = '\\'
      · rw [isEscape, withReturns_cons (by decide)]
        match rest with
        | [] => exact .refl _
        | letter :: others =>
            by_cases isEnd : letter = '\n'
            · -- An escaped line end stands for nothing, with or without a return.
              have escapedEnd : unescape ('\\' :: '\n' :: others) = unescape others := by
                rw [unescape]
              have escapedReturn : unescape ('\\' :: '\r' :: '\n' :: withReturns others) =
                  unescape (withReturns others) := by
                rw [unescape]
              rw [isEnd, withReturns_lineEnd, escapedEnd, escapedReturn]
              exact returned_unescape others fun isLater =>
                noLaterReturn (List.mem_cons_of_mem _ isLater)
            · have notReturn : letter ≠ '\r' := by
                intro isReturn
                rw [isReturn] at noLaterReturn
                exact noLaterReturn List.mem_cons_self
              have shorter := (escapeAt_suffix letter others).length_le
              rw [withReturns_cons isEnd, unescape_escape isEnd notReturn,
                unescape_escape isEnd notReturn, escapeAt_withReturns]
              refine (Returned.refl _).append (returned_unescape _ fun isLater => ?_)
              exact noLaterReturn
                (List.mem_cons_of_mem _ ((escapeAt_suffix letter others).subset isLater))
      · rw [unescape_cons isEscape]
        have later := returned_unescape rest noLaterReturn
        by_cases isEnd : character = '\n'
        · rw [isEnd, withReturns_lineEnd, unescape_cons (by decide), unescape_cons (by decide)]
          exact .lineEnd later
        · rw [withReturns_cons isEnd, unescape_cons isEscape]
          exact .same character later
termination_by characters.length
decreasing_by
  all_goals simp only [List.length_cons]
  all_goals omega

/-! ## Literals -/

namespace Spelling

/-- The same literal with a return before every line feed. -/
def returned (spelling : Spelling) : Spelling :=
  { spelling with
    body := withReturns spelling.body
    body_allowed := by
      intro single quotes
      cases written : spelling.body with
      | nil => simp
      | cons first rest =>
          by_cases isEnd : first = '\n'
          · have notReturn : '\r' ≠ spelling.quote := by
              rcases eq_of_isQuote quotes with isQuote | isQuote <;> rw [isQuote] <;> decide
            simpa [isEnd] using notReturn
          · have allowed := spelling.body_allowed single quotes
            rw [written] at allowed
            simpa [withReturns_cons isEnd] using allowed }

variable (spelling : Spelling)

theorem text_returned : spelling.returned.text = withReturns spelling.text := by
  have letters : '\n' ∉ spelling.letters := by
    intro isLetter
    exact absurd (spelling.letters_allowed _ isLetter) (by decide)
  have marks : '\n' ∉ spelling.marks := by
    intro isMark
    have isQuoted : '\n' = spelling.quote := List.eq_of_mem_replicate isMark
    have allowed := spelling.quote_allowed
    rw [← isQuoted] at allowed
    exact absurd allowed (by decide)
  have sameMarks : spelling.returned.marks = spelling.marks := rfl
  have sameLetters : spelling.returned.letters = spelling.letters := rfl
  rw [text, text, withReturns_append, withReturns_append, withReturns_append,
    withReturns_eq_self letters, withReturns_eq_self marks, sameMarks, sameLetters]
  rfl

/-- The value of a literal with returns has returns before some of its line feeds. -/
theorem returned_value (noReturn : '\r' ∉ spelling.body) :
    Returned spelling.value.toList spelling.returned.value.toList := by
  rw [value, value, String.toList_ofList, String.toList_ofList]
  change Returned _ (if spelling.letters.any isRawLetter then withReturns spelling.body
    else unescape (withReturns spelling.body))
  split_ifs
  · exact returned_withReturns spelling.body
  · exact returned_unescape spelling.body noReturn

end Spelling

end FunctionAtlas.Docstring
