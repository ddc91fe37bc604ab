import FunctionAtlas.Proofs.Docstring.Returns
import Mathlib.Algebra.Group.Nat.Defs

/-!
Contract: a text is read back from every literal that it is written as.

A character can be written as itself, as an escape with one letter, and by its code point in three
octal or two, four or eight hexadecimal digits; lines can be joined between any two characters. An
escape takes exactly its own digits, whatever is written after it, so each of these choices can be
made for every character on its own.

Owns: the ways to write a text in a literal, and the value of what is written.

Does not own: literals with other escapes, which keep their backslash.
-/

namespace FunctionAtlas.Docstring

/-! ## Ways to write a character -/

/-- A single or double quote, once or three times at both ends of a literal. -/
structure QuoteStyle where
  mark : Char
  isTriple : Bool
  isQuote_mark : isQuote mark = true

/-- The letters after a backslash, each with the character that both stand for. -/
def letterEscapes : List (Char × Char) :=
  [ ('\\', '\\'), ('\'', '\''), ('"', '"'), ('n', '\n'), ('r', '\r'), ('t', '\t')
  , ('a', '\x07'), ('b', '\x08'), ('f', '\x0c'), ('v', '\x0b') ]

/-- The letters of escapes with hexadecimal digits, each with the number of digits. -/
def hexEscapes : List (Char × Nat) := [('x', 2), ('u', 4), ('U', 8)]

/-- The digits of a number, the first of which can be zeros. Digits beyond nine are letters of
either case. -/
inductive Numeral (base : Nat) : List Char → Nat → Prop where
  | zero : Numeral base [] 0
  | snoc {digits : List Char} {value : Nat} (earlier : Numeral base digits value) (digit : Nat)
      (below : digit < base) {character : Char}
      (shows : character = Nat.digitChar digit ∨ character = (Nat.digitChar digit).toUpper) :
      Numeral base (digits ++ [character]) (value * base + digit)

/-- How a character can be written between quotes of the given style. -/
inductive WrittenAs (style : QuoteStyle) (character : Char) : List Char → Prop where
  | itself (notEscape : character ≠ '\\') (notMark : character ≠ style.mark)
      (inLine : style.isTriple = false → character ≠ '\n') :
      WrittenAs style character [character]
  | letter {letter : Char} (stands : (letter, character) ∈ letterEscapes) :
      WrittenAs style character ['\\', letter]
  | octal {digits : List Char} (three : digits.length = 3)
      (number : Numeral 8 digits character.toNat) :
      WrittenAs style character ('\\' :: digits)
  | hexadecimal {letter : Char} {digits : List Char}
      (all : (letter, digits.length) ∈ hexEscapes) (number : Numeral 16 digits character.toNat) :
      WrittenAs style character ('\\' :: letter :: digits)

/-- A body in which the given characters are written one after the other, with joined lines
anywhere between them. -/
inductive BodyOf (style : QuoteStyle) : List Char → List Char → Prop where
  | nil : BodyOf style [] []
  | cons {character : Char} {written rest body : List Char}
      (first : WrittenAs style character written) (later : BodyOf style rest body) :
      BodyOf style (character :: rest) (written ++ body)
  | joinedLine {characters body : List Char} (later : BodyOf style characters body) :
      BodyOf style characters ('\\' :: '\n' :: body)

namespace QuoteStyle

variable (style : QuoteStyle)

/-- The opening quote, which is also the closing one. -/
def marks : List Char := List.replicate (if style.isTriple then 3 else 1) style.mark

/-- A literal with the given letters and the given body. -/
def literal (letters body : List Char) : String :=
  String.ofList (letters ++ (style.marks ++ (body ++ style.marks)))

theorem mark_ne_backslash : style.mark ≠ '\\' := by
  rcases eq_of_isQuote style.isQuote_mark with isMark | isMark <;> rw [isMark] <;> decide

end QuoteStyle

/-! ## Numbers -/

private theorem octal_digit : ∀ digit < 8,
    ∀ character ∈ [Nat.digitChar digit, (Nat.digitChar digit).toUpper],
      (isOctalDigit character = true ∧ simpleEscape character = none ∧ character ≠ '\n' ∧
        character ≠ '\r') ∧ digitValue character = digit := by
  -- Both forms are spelled out, or all characters there are would be tried.
  simp only [List.forall_mem_cons, List.not_mem_nil, false_imp_iff, implies_true, and_true]
  decide

private theorem hexadecimal_digit : ∀ digit < 16,
    ∀ character ∈ [Nat.digitChar digit, (Nat.digitChar digit).toUpper],
      isHexDigit character = true ∧ digitValue character = digit := by
  simp only [List.forall_mem_cons, List.not_mem_nil, false_imp_iff, implies_true, and_true]
  decide

/-- The digits of a number have what each of them has, and their value is the number. -/
theorem Numeral.reads {base : Nat} {accepts : Char → Prop}
    (each : ∀ digit < base, ∀ character ∈ [Nat.digitChar digit, (Nat.digitChar digit).toUpper],
      accepts character ∧ digitValue character = digit)
    {digits : List Char} {value : Nat} (numeral : Numeral base digits value) :
    (∀ character ∈ digits, accepts character) ∧ digitsValue base digits = value := by
  induction numeral with
  | zero => exact ⟨fun _ member => absurd member List.not_mem_nil, rfl⟩
  | @snoc digits value _ digit below character shows inductionHypothesis =>
      obtain ⟨accepted, isValue⟩ := inductionHypothesis
      obtain ⟨isAccepted, isDigit⟩ := each digit below character (by simpa using shows)
      refine ⟨?_, ?_⟩
      · intro other member
        rcases List.mem_append.mp member with isEarlier | isLast
        · exact accepted other isEarlier
        · rw [List.mem_singleton.mp isLast]
          exact isAccepted
      · rw [digitsValue] at isValue ⊢
        rw [List.foldl_append, isValue, List.foldl_cons, List.foldl_nil, isDigit]

/-- A number that is small enough has a numeral of every length. -/
theorem exists_numeral {base : Nat} (positive : 0 < base) (width value : Nat)
    (fits : value < base ^ width) :
    ∃ digits, digits.length = width ∧ Numeral base digits value := by
  induction width generalizing value with
  | zero =>
      obtain rfl : value = 0 := by simpa using fits
      exact ⟨[], rfl, .zero⟩
  | succ width inductionHypothesis =>
      have smaller : value / base < base ^ width := by
        rw [Nat.pow_succ] at fits
        exact Nat.div_lt_of_lt_mul (by rwa [Nat.mul_comm])
      obtain ⟨digits, length, numeral⟩ := inductionHypothesis (value / base) smaller
      have whole : value / base * base + value % base = value := by
        rw [Nat.mul_comm]
        exact Nat.div_add_mod value base
      have more := numeral.snoc _ (Nat.mod_lt value positive) (.inl rfl)
      rw [whole] at more
      exact ⟨_, by rw [List.length_append, length, List.length_singleton], more⟩

/-- Digits are taken as many as there can be; what is written after them is left. -/
theorem takeUpTo_append {accepts : Char → Bool} {digits : List Char}
    (accepted : ∀ character ∈ digits, accepts character = true) (rest : List Char) :
    takeUpTo accepts digits.length (digits ++ rest) = (digits, rest) := by
  induction digits with
  | nil => rfl
  | cons first others inductionHypothesis =>
      obtain ⟨isAccepted, later⟩ := List.forall_mem_cons.mp accepted
      rw [List.length_cons, List.cons_append, takeUpTo, if_pos isAccepted,
        inductionHypothesis later]

/-- A character is read back from its code point. -/
theorem characterOf_toNat (character : Char) : characterOf character.toNat = some character := by
  have isValid : character.toNat < 0xD800 ∨
      (0xDFFF < character.toNat ∧ character.toNat < 0x110000) := character.valid
  rw [characterOf, if_pos (by simpa using isValid), Char.ofNat_toNat]

/-! ## Reading what is written -/

section Escapes

variable {character : Char} (rest : List Char)

private theorem letterEscapes_read : ∀ entry ∈ letterEscapes,
    simpleEscape entry.1 = some entry.2 ∧ entry.1 ≠ '\n' ∧ entry.1 ≠ '\r' := by
  decide

private theorem hexEscapes_read : ∀ entry ∈ hexEscapes,
    simpleEscape entry.1 = none ∧ isOctalDigit entry.1 = false ∧
      hexWidth entry.1 = some entry.2 ∧ entry.1 ≠ '\n' ∧ entry.1 ≠ '\r' := by
  decide

theorem unescape_letter {letter : Char} (stands : (letter, character) ∈ letterEscapes) :
    unescape ('\\' :: letter :: rest) = character :: unescape rest := by
  obtain ⟨reads, notEnd, notReturn⟩ := letterEscapes_read _ stands
  rw [unescape_escape notEnd notReturn, escapeAt, reads]
  rfl

theorem unescape_octal {digits : List Char} (three : digits.length = 3)
    (number : Numeral 8 digits character.toNat) :
    unescape ('\\' :: (digits ++ rest)) = character :: unescape rest := by
  obtain ⟨octal, value⟩ := number.reads octal_digit
  cases digits with
  | nil => cases three
  | cons first others =>
      obtain ⟨⟨isOctal, notLetter, notEnd, notReturn⟩, later⟩ := List.forall_mem_cons.mp octal
      -- No more than two digits are taken after the first, so one that comes next is left.
      have two : others.length = 2 := by simpa using three
      have taken := takeUpTo_append (fun shown isShown => (later shown isShown).1) rest
      rw [two] at taken
      rw [List.cons_append, unescape_escape notEnd notReturn, escapeAt, notLetter]
      dsimp only
      rw [if_pos isOctal, taken]
      dsimp only
      rw [value, characterOf_toNat]
      rfl

theorem unescape_hexadecimal {letter : Char} {digits : List Char}
    (all : (letter, digits.length) ∈ hexEscapes) (number : Numeral 16 digits character.toNat) :
    unescape ('\\' :: letter :: (digits ++ rest)) = character :: unescape rest := by
  obtain ⟨hexadecimal, value⟩ := number.reads hexadecimal_digit
  obtain ⟨notLetter, notOctal, width, notEnd, notReturn⟩ := hexEscapes_read _ all
  rw [unescape_escape notEnd notReturn, escapeAt, notLetter]
  dsimp only at notOctal width ⊢
  rw [if_neg (by simp [notOctal]), width]
  dsimp only
  rw [takeUpTo_append hexadecimal rest, hexEscape, if_pos rfl, value, characterOf_toNat]
  rfl

end Escapes

section Bodies

variable {style : QuoteStyle}

/-- A character is read from each of its written forms, whatever comes after it. -/
theorem WrittenAs.unescape_append {character : Char} {written : List Char}
    (isWritten : WrittenAs style character written) (rest : List Char) :
    unescape (written ++ rest) = character :: unescape rest := by
  cases isWritten with
  | itself notEscape => exact unescape_cons notEscape rest
  | letter stands => exact unescape_letter rest stands
  | octal three number => exact unescape_octal rest three number
  | hexadecimal all number => exact unescape_hexadecimal rest all number

/-- A body stands for the characters that are written in it. -/
theorem BodyOf.unescape_eq {characters body : List Char} (isBody : BodyOf style characters body) :
    unescape body = characters := by
  induction isBody with
  | nil => rw [unescape]
  | cons first _ inductionHypothesis => rw [first.unescape_append, inductionHypothesis]
  | joinedLine _ inductionHypothesis => rw [unescape, inductionHypothesis]

/-- No written form begins with the quote around it. -/
theorem BodyOf.head?_ne {characters body : List Char} (isBody : BodyOf style characters body) :
    body.head? ≠ some style.mark := by
  have notBackslash : '\\' ≠ style.mark := style.mark_ne_backslash.symm
  induction isBody with
  | nil => exact nofun
  | cons first _ _ =>
      cases first with
      | itself _ notMark => simpa using notMark
      | letter | octal | hexadecimal => simpa using notBackslash
  | joinedLine => simpa using notBackslash

/-- Every text can be written in every style, for instance by code points alone. -/
theorem exists_bodyOf (style : QuoteStyle) (characters : List Char) :
    ∃ body, BodyOf style characters body := by
  induction characters with
  | nil => exact ⟨[], .nil⟩
  | cons character rest inductionHypothesis =>
      obtain ⟨body, isBody⟩ := inductionHypothesis
      have small : character.toNat < 16 ^ 8 :=
        Nat.lt_of_lt_of_le character.val.toNat_lt (by decide)
      obtain ⟨digits, length, numeral⟩ := exists_numeral (by decide) 8 character.toNat small
      have eight : ('U', digits.length) ∈ hexEscapes := by
        rw [length]
        decide
      exact ⟨_, .cons (.hexadecimal eight numeral) isBody⟩

end Bodies

/-! ## Literals -/

/-- Letters before the quote that leave a literal as it is. -/
def plainLetters : List (List Char) := [[], ['u'], ['U']]

/-- Letters before the quote that make a literal raw. -/
def rawLetters : List (List Char) := [['r'], ['R']]

private theorem prefixes_allowed : ∀ letters ∈ plainLetters ++ rawLetters,
    (∀ letter ∈ letters, letter ∈ ['f', 'F', 'r', 'R', 'b', 'B', 'u', 'U']) ∧
      letters.any isSpecialLetter = false := by
  simp only [plainLetters, rawLetters, List.cons_append, List.nil_append, List.forall_mem_cons,
    List.not_mem_nil, false_imp_iff, implies_true]
  decide

private theorem prefixes_raw : (∀ letters ∈ plainLetters, letters.any isRawLetter = false) ∧
    ∀ letters ∈ rawLetters, letters.any isRawLetter = true := by
  decide

/-- A literal with a plain or raw prefix is read as its body, with the escapes replaced unless it is
raw. -/
theorem decode_literal {style : QuoteStyle} {letters body : List Char}
    (allowed : letters ∈ plainLetters ++ rawLetters)
    (opens : style.isTriple = false → body.head? ≠ some style.mark) :
    decode (style.literal letters body) =
      .ok (some (String.ofList (if letters.any isRawLetter then body else unescape body))) := by
  obtain ⟨letters_allowed, notSpecial⟩ := prefixes_allowed letters allowed
  let spelling : Spelling :=
    { letters
      quote := style.mark
      isTriple := style.isTriple
      body
      letters_allowed
      quote_allowed := .inl style.isQuote_mark
      triple_allowed := fun _ => style.isQuote_mark
      body_allowed := fun single _ => opens single }
  have decoded := spelling.decode_text style.isQuote_mark
  rw [notSpecial, if_neg Bool.false_ne_true] at decoded
  exact decoded

/-- Every text can be written between quotes of every style. Whatever way is chosen to write each
of its characters, and wherever lines are joined, the literal has the text for its value; with a
raw prefix its value is the body as it is written. -/
theorem decode_of_bodyOf (style : QuoteStyle) (text : String) :
    (∃ body, BodyOf style text.toList body) ∧
      ∀ body, BodyOf style text.toList body →
        (∀ letters ∈ plainLetters, decode (style.literal letters body) = .ok (some text)) ∧
        (∀ letters ∈ rawLetters,
          decode (style.literal letters body) = .ok (some (String.ofList body))) := by
  refine ⟨exists_bodyOf style text.toList, ?_⟩
  intro body isBody
  obtain ⟨plain, raw⟩ := prefixes_raw
  refine ⟨?_, ?_⟩
  · intro letters isPlain
    rw [decode_literal (List.mem_append_left _ isPlain) fun _ => isBody.head?_ne,
      plain letters isPlain, if_neg Bool.false_ne_true, isBody.unescape_eq, String.ofList_toList]
  · intro letters isRaw
    rw [decode_literal (List.mem_append_right _ isRaw) fun _ => isBody.head?_ne,
      raw letters isRaw, if_pos rfl]

/-- A text in single quotes whose characters are all written in different ways, in two lines. -/
theorem decode_of_mixedBody :
    let style : QuoteStyle := ⟨'\'', false, rfl⟩
    let body := "a\\\\\\u20Ac\\\n\\012\\'\\x07".toList
    BodyOf style "a\\€\n'\x07".toList body ∧
      decode "u'a\\\\\\u20Ac\\\n\\012\\'\\x07'" = .ok (some "a\\€\n'\x07") ∧
      decode "R'a\\\\\\u20Ac\\\n\\012\\'\\x07'" =
        .ok (some "a\\\\\\u20Ac\\\n\\012\\'\\x07") := by
  intro style body
  have euro : Numeral 16 ['2', '0', 'A', 'c'] ('€').toNat :=
    (((Numeral.zero.snoc 2 (by decide) (.inl rfl)).snoc 0 (by decide) (.inl rfl)).snoc
      10 (by decide) (.inr rfl)).snoc 12 (by decide) (.inl rfl)
  have lineEnd : Numeral 8 ['0', '1', '2'] ('\n').toNat :=
    ((Numeral.zero.snoc 0 (by decide) (.inl rfl)).snoc 1 (by decide) (.inl rfl)).snoc
      2 (by decide) (.inl rfl)
  have bell : Numeral 16 ['0', '7'] ('\x07').toNat :=
    (Numeral.zero.snoc 0 (by decide) (.inl rfl)).snoc 7 (by decide) (.inl rfl)
  have isBody : BodyOf style "a\\€\n'\x07".toList body :=
    .cons (.itself (by decide) (by decide) fun _ => by decide)
      (.cons (.letter (by decide))
        (.cons (.hexadecimal (by decide) euro)
          (.joinedLine
            (.cons (.octal rfl lineEnd)
              (.cons (.letter (by decide))
                (.cons (.hexadecimal (by decide) bell) .nil))))))
  obtain ⟨plain, raw⟩ := (decode_of_bodyOf style "a\\€\n'\x07").2 body isBody
  exact ⟨isBody, plain ['u'] (by decide), raw ['R'] (by decide)⟩

end FunctionAtlas.Docstring
