import FunctionAtlas.Text.Quoted

/-!
Contract: written forms that show where they end.

A run of characters of one sort ends at the first character of another sort. A decimal number and
a quoted literal end where they say: whatever text follows, the number or the text in the literal
and the text after it can both be told from the whole.

Owns: the division of a text after a run, a number and a quoted literal.
-/

namespace FunctionAtlas.Text

/-! ## Runs -/

/-- There is one way to divide a text after a run of characters of one sort. -/
theorem run_append_inj {isOfSort : Char → Bool} {first second : List Char}
    {firstStop secondStop : Char} {firstRest secondRest : List Char}
    (firstRun : ∀ character ∈ first, isOfSort character = true)
    (secondRun : ∀ character ∈ second, isOfSort character = true)
    (firstStops : isOfSort firstStop = false) (secondStops : isOfSort secondStop = false)
    (equal : first ++ firstStop :: firstRest = second ++ secondStop :: secondRest) :
    first = second ∧ firstStop = secondStop ∧ firstRest = secondRest := by
  induction first generalizing second with
  | nil =>
      cases second with
      | nil => simpa using equal
      | cons character rest =>
          obtain ⟨rfl, -⟩ := List.cons.inj equal
          rw [secondRun firstStop List.mem_cons_self] at firstStops
          contradiction
  | cons head tail inductionHypothesis =>
      cases second with
      | nil =>
          obtain ⟨rfl, -⟩ := List.cons.inj equal
          rw [firstRun head List.mem_cons_self] at secondStops
          contradiction
      | cons character rest =>
          obtain ⟨rfl, equalTails⟩ := List.cons.inj equal
          obtain ⟨rfl, sameStop, sameRest⟩ := inductionHypothesis
            (fun other member => firstRun other (List.mem_cons_of_mem _ member))
            (fun other member => secondRun other (List.mem_cons_of_mem _ member)) equalTails
          exact ⟨rfl, sameStop, sameRest⟩

/-! ## Numbers -/

theorem isDigit_of_mem_toString {number : Nat} {character : Char}
    (member : character ∈ (toString number).toList) : character.isDigit = true := by
  rw [Nat.toString_eq_ofList_toDigits, String.toList_ofList] at member
  exact Nat.isDigit_of_mem_toDigits (by decide) (by decide) member

/-- A decimal number ends before the first character that is no digit. -/
theorem toString_append_inj {first second : Nat} {firstStop secondStop : Char}
    {firstRest secondRest : List Char}
    (firstStops : firstStop.isDigit = false) (secondStops : secondStop.isDigit = false)
    (equal : (toString first).toList ++ firstStop :: firstRest =
      (toString second).toList ++ secondStop :: secondRest) :
    first = second ∧ firstStop = secondStop ∧ firstRest = secondRest := by
  obtain ⟨sameDigits, sameStop, sameRest⟩ := run_append_inj
    (fun _ => isDigit_of_mem_toString) (fun _ => isDigit_of_mem_toString)
    firstStops secondStops equal
  simp only [Nat.toString_eq_ofList_toDigits, String.toList_ofList] at sameDigits
  have sameValue := congrArg (Nat.ofDigitChars 10 · 0) sameDigits
  simp only [Nat.ofDigitChars_toDigits (b := 10) (by decide) (by decide)] at sameValue
  exact ⟨sameValue, sameStop, sameRest⟩

private theorem digitChar_inj_of_lt : ∀ first < 16, ∀ second < 16,
    Nat.digitChar first = Nat.digitChar second → first = second := by
  decide

/-- What holds of the sixteen digits holds of those of every number in hexadecimal. -/
theorem forall_mem_toDigits (holds : Char → Prop)
    (each : ∀ digit < 16, holds (Nat.digitChar digit)) (number : Nat) :
    ∀ character ∈ Nat.toDigits 16 number, holds character := by
  intro character member
  induction number using Nat.strongRecOn with
  | ind number inductionHypothesis =>
      rw [Nat.toDigits_eq_if (by decide)] at member
      by_cases small : number < 16
      · rw [if_pos small, List.mem_singleton] at member
        rw [member]
        exact each number small
      · rw [if_neg small, List.mem_append, List.mem_singleton] at member
        rcases member with isEarlier | isLast
        · exact inductionHypothesis (number / 16) (by omega) isEarlier
        · rw [isLast]
          exact each (number % 16) (by omega)

/-- Hexadecimal digits are no braces. -/
theorem ne_brace_of_mem_toDigits {number : Nat} {character : Char}
    (member : character ∈ Nat.toDigits 16 number) : character ≠ '\x7d' :=
  forall_mem_toDigits (· ≠ '\x7d') (by decide) number character member

/-- A number has one hexadecimal form. -/
theorem toDigits_sixteen_inj {first second : Nat}
    (equal : Nat.toDigits 16 first = Nat.toDigits 16 second) : first = second := by
  have notEmpty : ∀ number, Nat.toDigits 16 number ≠ [] := fun _ => Nat.toDigits_ne_nil
  induction first using Nat.strongRecOn generalizing second with
  | ind first inductionHypothesis =>
      rw [Nat.toDigits_eq_if (by decide), Nat.toDigits_eq_if (n := second) (by decide)] at equal
      by_cases firstSmall : first < 16 <;> by_cases secondSmall : second < 16
      · rw [if_pos firstSmall, if_pos secondSmall, List.singleton_inj] at equal
        exact digitChar_inj_of_lt first firstSmall second secondSmall equal
      · rw [if_pos firstSmall, if_neg secondSmall] at equal
        have lengths := congrArg List.length equal
        have more := List.length_pos_iff.mpr (notEmpty (second / 16))
        simp only [List.length_append, List.length_singleton] at lengths
        omega
      · rw [if_neg firstSmall, if_pos secondSmall] at equal
        have lengths := congrArg List.length equal
        have more := List.length_pos_iff.mpr (notEmpty (first / 16))
        simp only [List.length_append, List.length_singleton] at lengths
        omega
      · rw [if_neg firstSmall, if_neg secondSmall] at equal
        obtain ⟨sameFront, sameLast⟩ := List.append_inj' equal rfl
        have quotients : first / 16 = second / 16 :=
          inductionHypothesis (first / 16) (by omega) sameFront
        have remainders : first % 16 = second % 16 :=
          digitChar_inj_of_lt _ (by omega) _ (by omega) (List.singleton_inj.mp sameLast)
        omega

namespace Quoted

/-! ## Escapes -/

/-- The character that a backslash and a mark stand for. -/
def marked (mark : Char) : Option Char :=
  if mark = '0' then some '\x00'
  else if mark = 't' then some '\t'
  else if mark = 'r' then some '\r'
  else if mark = 'n' then some '\n'
  else if mark = '\\' then some '\\'
  else if mark = '"' then some '"'
  else none

/-- A character is written as a mark after a backslash, as itself, or as its code point. -/
theorem toList_escape (character : Char) :
    (∃ mark, (escape character).toList = ['\\', mark] ∧ marked mark = some character) ∨
    ((escape character).toList = [character] ∧ character ≠ '\\' ∧ character ≠ '"') ∨
    (escape character).toList =
      '\\' :: 'u' :: '\x7b' :: (Nat.toDigits 16 character.toNat ++ ['\x7d']) := by
  unfold escape
  split
  · exact .inl ⟨'0', by decide, by decide⟩
  · exact .inl ⟨'t', by decide, by decide⟩
  · exact .inl ⟨'r', by decide, by decide⟩
  · exact .inl ⟨'n', by decide, by decide⟩
  · exact .inl ⟨'\\', by decide, by decide⟩
  · exact .inl ⟨'"', by decide, by decide⟩
  · rename_i notNull notTab notReturn notBreak notBackslash notQuote
    by_cases shows : isPrintable character
    · rw [if_pos shows]
      exact .inr (.inl ⟨by simp, notBackslash, notQuote⟩)
    · rw [if_neg shows]
      refine .inr (.inr ?_)
      have opening : "\\u\x7b".toList = ['\\', 'u', '\x7b'] := by decide
      have closing : "\x7d".toList = ['\x7d'] := by decide
      simp [codeEscape, String.toList_append, opening, closing]

/-- An escape never begins with the quote that ends a literal. -/
theorem escape_ne_quote (character : Char) (rest after : List Char) :
    (escape character).toList ++ rest ≠ '"' :: after := by
  rcases toList_escape character with ⟨mark, written, -⟩ | ⟨written, -, notQuote⟩ | written
  · simp [written]
  · simp [written, notQuote]
  · simp [written]

/-- Whatever follows an escape, the character and what follows can be told. -/
theorem escape_append_inj {first second : Char} {firstRest secondRest : List Char}
    (equal : (escape first).toList ++ firstRest = (escape second).toList ++ secondRest) :
    first = second ∧ firstRest = secondRest := by
  have noMark : marked 'u' = none := by decide
  rcases toList_escape first with ⟨mark, written, means⟩ | ⟨written, notSlash, -⟩ | written <;>
    rcases toList_escape second with
      ⟨otherMark, otherWritten, otherMeans⟩ | ⟨otherWritten, otherNotSlash, -⟩ | otherWritten <;>
    rw [written, otherWritten] at equal
  · simp only [List.cons_append, List.nil_append, List.cons.injEq, true_and] at equal
    obtain ⟨rfl, sameRest⟩ := equal
    exact ⟨Option.some.inj (means.symm.trans otherMeans), sameRest⟩
  · simp only [List.cons_append, List.nil_append, List.cons.injEq] at equal
    exact absurd equal.1.symm otherNotSlash
  · simp only [List.cons_append, List.nil_append, List.cons.injEq, true_and] at equal
    rw [equal.1, noMark] at means
    contradiction
  · simp only [List.cons_append, List.nil_append, List.cons.injEq] at equal
    exact absurd equal.1 notSlash
  · simpa using equal
  · simp only [List.cons_append, List.nil_append, List.cons.injEq] at equal
    exact absurd equal.1 notSlash
  · simp only [List.cons_append, List.nil_append, List.cons.injEq, true_and] at equal
    rw [← equal.1, noMark] at otherMeans
    contradiction
  · simp only [List.cons_append, List.nil_append, List.cons.injEq] at equal
    exact absurd equal.1.symm otherNotSlash
  · simp only [List.cons_append, List.append_assoc, List.nil_append, List.cons.injEq,
      true_and] at equal
    have isDigit : ∀ number, ∀ character ∈ Nat.toDigits 16 number,
        (character != '\x7d') = true := by
      intro number character member
      simpa using ne_brace_of_mem_toDigits member
    obtain ⟨sameDigits, -, sameRest⟩ := run_append_inj (isDigit _) (isDigit _)
      (by decide) (by decide) equal
    exact ⟨Char.toNat_inj.mp (toDigits_sixteen_inj sameDigits), sameRest⟩

/-! ## Literals -/

theorem toList_quote (text : String) :
    (quote text).toList = '"' :: (text.toList.flatMap fun character =>
      (escape character).toList) ++ ['"'] := by
  have mark : "\"".toList = ['"'] := by decide
  simp [quote, String.toList_append, String.toList_join, mark, List.flatMap_map]

private theorem escapes_append_inj {first second firstRest secondRest : List Char}
    (equal : (first.flatMap fun character => (escape character).toList) ++ '"' :: firstRest =
      (second.flatMap fun character => (escape character).toList) ++ '"' :: secondRest) :
    first = second ∧ firstRest = secondRest := by
  induction first generalizing second with
  | nil =>
      cases second with
      | nil => simpa using equal
      | cons character rest =>
          simp only [List.flatMap_nil, List.flatMap_cons, List.nil_append,
            List.append_assoc] at equal
          exact absurd equal.symm (escape_ne_quote character _ _)
  | cons head tail inductionHypothesis =>
      cases second with
      | nil =>
          simp only [List.flatMap_nil, List.flatMap_cons, List.nil_append,
            List.append_assoc] at equal
          exact absurd equal (escape_ne_quote head _ _)
      | cons character rest =>
          simp only [List.flatMap_cons, List.append_assoc] at equal
          obtain ⟨rfl, equalRests⟩ := escape_append_inj equal
          obtain ⟨rfl, sameRest⟩ := inductionHypothesis equalRests
          exact ⟨rfl, sameRest⟩

/-- Whatever follows a literal, the text in it and what follows can be told. -/
theorem quote_append_inj {first second : String} {firstRest secondRest : List Char}
    (equal : (quote first).toList ++ firstRest = (quote second).toList ++ secondRest) :
    first = second ∧ firstRest = secondRest := by
  simp only [toList_quote, List.cons_append, List.append_assoc, List.nil_append, List.cons.injEq,
    true_and] at equal
  obtain ⟨sameText, sameRest⟩ := escapes_append_inj equal
  exact ⟨String.toList_inj.mp sameText, sameRest⟩

end Quoted

end FunctionAtlas.Text
