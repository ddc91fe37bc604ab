import FunctionAtlas.Docstring.Literal
import Mathlib.Data.List.TakeWhile

/-!
Contract: which literals cannot be taken apart.

The body of a literal ends as many bytes before the end of the literal as the opening quote has.
The quote is the first single or double one, wherever it stands. A literal that is enclosed in
back quotes can hold three such quotes and end with wider characters; then the end of its body
lies inside a character. Literals in single or double quotes are always taken apart.

Owns: where a literal is cut, the written forms of literals, and which of them fail.
-/

namespace FunctionAtlas.Docstring

/-! ## Cutting at a byte -/

@[simp] theorem byteLength_nil : byteLength [] = 0 := rfl

@[simp] theorem byteLength_cons (character : Char) (rest : List Char) :
    byteLength (character :: rest) = character.utf8Size + byteLength rest := rfl

@[simp] theorem byteLength_append (first second : List Char) :
    byteLength (first ++ second) = byteLength first + byteLength second := by
  induction first with
  | nil => simp
  | cons character rest inductionHypothesis =>
      simp only [List.cons_append, byteLength_cons, inductionHypothesis]
      omega

/-- The first bytes of a text are characters exactly if a beginning of it has so many bytes. -/
theorem takeBytes_eq_some_iff (bytes : Nat) (characters taken : List Char) :
    takeBytes bytes characters = some taken ↔
      ∃ rest, characters = taken ++ rest ∧ byteLength taken = bytes := by
  fun_induction takeBytes bytes characters generalizing taken with
  | case1 characters =>
      constructor
      · rintro ⟨⟩
        exact ⟨characters, rfl, rfl⟩
      · rintro ⟨rest, -, isEmpty⟩
        cases taken with
        | nil => rfl
        | cons character others =>
            have positive := character.utf8Size_pos
            simp only [byteLength_cons] at isEmpty
            omega
  | case2 bytes =>
      constructor
      · rintro ⟨⟩
      · rintro ⟨rest, split, length⟩
        obtain ⟨rfl, -⟩ := List.append_eq_nil_iff.mp split.symm
        simp at length
  | case3 bytes character rest fits inductionHypothesis =>
      rw [Option.map_eq_some_iff]
      constructor
      · rintro ⟨others, found, rfl⟩
        obtain ⟨remaining, rfl, length⟩ := (inductionHypothesis others).mp found
        exact ⟨remaining, rfl, by simp only [byteLength_cons]; omega⟩
      · rintro ⟨remaining, split, length⟩
        cases taken with
        | nil => simp at length
        | cons first others =>
            obtain ⟨rfl, rfl⟩ := List.cons.inj split
            simp only [byteLength_cons] at length
            exact ⟨others, (inductionHypothesis others).mpr ⟨remaining, rfl, by omega⟩, rfl⟩
  | case4 bytes character rest tooWide =>
      constructor
      · rintro ⟨⟩
      · rintro ⟨remaining, split, length⟩
        cases taken with
        | nil => simp at length
        | cons first others =>
            obtain ⟨rfl, rfl⟩ := List.cons.inj split
            simp only [byteLength_cons] at length
            omega

/-- The last bytes of a text begin inside a character. -/
def BeginsInside (bytes : Nat) (characters : List Char) : Prop :=
  ∃ before character after, characters = before ++ character :: after ∧
    byteLength after < bytes ∧ bytes < byteLength after + character.utf8Size

/-- Looking at the last character decides, or leaves the question to those before it. -/
theorem beginsInside_concat (bytes : Nat) (characters : List Char) (last : Char) :
    BeginsInside bytes (characters ++ [last]) ↔
      (0 < bytes ∧ bytes < last.utf8Size) ∨
        (last.utf8Size < bytes ∧ BeginsInside (bytes - last.utf8Size) characters) := by
  constructor
  · rintro ⟨before, character, after, split, below, above⟩
    rcases List.eq_nil_or_concat after with rfl | ⟨others, final, rfl⟩
    · obtain ⟨rfl, equal⟩ := List.append_inj' split rfl
      cases equal
      simp only [byteLength_nil] at below above
      exact .inl ⟨below, by omega⟩
    · rw [List.concat_eq_append] at split below above
      have regrouped : characters ++ [last] = (before ++ character :: others) ++ [final] := by
        simpa using split
      obtain ⟨rfl, equal⟩ := List.append_inj' regrouped rfl
      cases equal
      simp only [byteLength_append, byteLength_cons, byteLength_nil] at below above
      exact .inr ⟨by omega, before, character, others, rfl, by omega, by omega⟩
  · rintro (⟨below, above⟩ | ⟨wider, before, character, after, rfl, below, above⟩)
    · exact ⟨characters, last, [], rfl, by simpa using below, by simpa using above⟩
    · refine ⟨before, character, after ++ [last], by simp, ?_, ?_⟩ <;>
        simp only [byteLength_append, byteLength_cons, byteLength_nil] <;> omega

theorem BeginsInside.lt_byteLength {bytes : Nat} {characters : List Char}
    (inside : BeginsInside bytes characters) : bytes < byteLength characters := by
  obtain ⟨before, character, after, rfl, below, above⟩ := inside
  simp only [byteLength_append, byteLength_cons]
  omega

/-- Characters of one byte cannot be cut. -/
theorem beginsInside_cons_of_narrow (bytes : Nat) (first : Char) (rest : List Char)
    (narrow : first.utf8Size = 1) :
    BeginsInside bytes (first :: rest) ↔ BeginsInside bytes rest := by
  constructor
  · rintro ⟨before, character, after, split, below, above⟩
    cases before with
    | nil =>
        obtain ⟨rfl, rfl⟩ := List.cons.inj split
        omega
    | cons head others =>
        obtain ⟨rfl, rfl⟩ := List.cons.inj split
        exact ⟨others, character, after, rfl, below, above⟩
  · rintro ⟨before, character, after, rfl, below, above⟩
    exact ⟨first :: before, character, after, rfl, below, above⟩

/-- Within a text, the first bytes are no characters only if the last of them is inside one. -/
private theorem takeBytes_eq_none_iff_exists (bytes : Nat) (characters : List Char)
    (fits : bytes ≤ byteLength characters) :
    takeBytes bytes characters = none ↔
      ∃ before character after, characters = before ++ character :: after ∧
        byteLength before < bytes ∧ bytes < byteLength before + character.utf8Size := by
  fun_induction takeBytes bytes characters with
  | case1 characters => simp
  | case2 bytes => simp at fits
  | case3 bytes first rest narrow inductionHypothesis =>
      simp only [byteLength_cons] at fits
      rw [Option.map_eq_none_iff, inductionHypothesis (by omega)]
      constructor
      · rintro ⟨before, character, after, rfl, below, above⟩
        refine ⟨first :: before, character, after, rfl, ?_, ?_⟩ <;>
          simp only [byteLength_cons] <;> omega
      · rintro ⟨before, character, after, split, below, above⟩
        cases before with
        | nil =>
            obtain ⟨rfl, -⟩ := List.cons.inj split
            simp only [byteLength_nil] at above
            omega
        | cons head others =>
            obtain ⟨rfl, rfl⟩ := List.cons.inj split
            simp only [byteLength_cons] at below above
            exact ⟨others, character, after, rfl, by omega, by omega⟩
  | case4 bytes first rest tooWide =>
      refine ⟨fun _ => ⟨[], first, rest, rfl, ?_, ?_⟩, fun _ => rfl⟩ <;>
        simp only [byteLength_nil] <;> omega

/-- A text is cut so many bytes before its end unless its last bytes begin inside a character. -/
theorem takeBytes_eq_none_iff (bytes : Nat) (characters : List Char)
    (fits : bytes ≤ byteLength characters) :
    takeBytes (byteLength characters - bytes) characters = none ↔
      BeginsInside bytes characters := by
  rw [takeBytes_eq_none_iff_exists _ _ (Nat.sub_le _ _)]
  -- Counting from the front and counting from the back give the same place.
  constructor
  · rintro ⟨before, character, after, rfl, below, above⟩
    simp only [byteLength_append, byteLength_cons] at fits below above
    exact ⟨before, character, after, rfl, by omega, by omega⟩
  · rintro ⟨before, character, after, rfl, below, above⟩
    simp only [byteLength_append, byteLength_cons] at fits ⊢
    exact ⟨before, character, after, rfl, by omega, by omega⟩

/-- The bytes of an end of a text do not begin inside a character. -/
theorem not_beginsInside_append (first second : List Char) :
    ¬ BeginsInside (byteLength second) (first ++ second) := by
  have shorter : byteLength second ≤ byteLength (first ++ second) := by simp
  have taken : takeBytes (byteLength (first ++ second) - byteLength second) (first ++ second) =
      some first :=
    (takeBytes_eq_some_iff _ _ _).mpr ⟨second, rfl, by simp⟩
  rw [← takeBytes_eq_none_iff _ _ shorter, taken]
  exact Option.some_ne_none first

/-! ## Literals that fail -/

/-- A literal whose body would end inside a character. -/
structure CutsCharacter (literal : List Char) : Prop where
  plain : ∀ character ∈ lettersOf literal, isSpecialLetter character = false
  long : 2 * quoteLength (quotedOf literal) ≤ byteLength (quotedOf literal)
  cut : BeginsInside (quoteLength (quotedOf literal)) (quotedOf literal)

/-- A literal has neither a value nor none exactly if it would be cut inside a character. -/
theorem exists_decode_eq_error_iff (literal : String) :
    (∃ fault, decode literal = .error fault) ↔ CutsCharacter literal.toList := by
  unfold decode
  by_cases special : (lettersOf literal.toList).any isSpecialLetter
  · simp only [if_pos special, reduceCtorEq, exists_false, false_iff]
    intro cuts
    obtain ⟨character, member, isSpecial⟩ := List.any_eq_true.mp special
    rw [cuts.plain character member] at isSpecial
    contradiction
  by_cases short : byteLength (quotedOf literal.toList) <
      quoteLength (quotedOf literal.toList) * 2
  · simp only [if_neg special, if_pos short, reduceCtorEq, exists_false, false_iff]
    intro cuts
    have long := cuts.long
    omega
  simp only [if_neg special, if_neg short]
  have cutIff := takeBytes_eq_none_iff (quoteLength (quotedOf literal.toList))
    (quotedOf literal.toList) (by omega)
  cases cut : takeBytes (byteLength (quotedOf literal.toList) -
      quoteLength (quotedOf literal.toList)) (quotedOf literal.toList) with
  | none =>
      exact ⟨fun _ => ⟨by simpa using special, by omega, cutIff.mp cut⟩, fun _ => ⟨_, rfl⟩⟩
  | some opened =>
      simp only [reduceCtorEq, exists_false, false_iff]
      intro cuts
      rw [cutIff.mpr cuts.cut] at cut
      contradiction

/-! ## Letters and quotes -/

theorem lettersOf_append_quotedOf (literal : List Char) :
    lettersOf literal ++ quotedOf literal = literal :=
  List.takeWhile_append_dropWhile

theorem not_isQuote_of_mem_lettersOf {literal : List Char} {character : Char}
    (member : character ∈ lettersOf literal) : isQuote character = false := by
  simpa using List.mem_takeWhile_imp member

theorem isQuote_of_quotedOf_eq_cons {literal tail : List Char} {mark : Char}
    (found : quotedOf literal = mark :: tail) : isQuote mark = true := by
  have stops := List.head?_dropWhile_not (fun character => !isQuote character) literal
  change literal.dropWhile _ = mark :: tail at found
  rw [found] at stops
  simpa using stops

section NoQuotes

variable {front : List Char} (noQuotes : ∀ character ∈ front, isQuote character = false)

include noQuotes

theorem lettersOf_append (back : List Char) :
    lettersOf (front ++ back) = front ++ lettersOf back :=
  List.takeWhile_append_of_pos fun character member => by simp [noQuotes character member]

theorem quotedOf_append (back : List Char) : quotedOf (front ++ back) = quotedOf back :=
  List.dropWhile_append_of_pos fun character member => by simp [noQuotes character member]

end NoQuotes

section Quote

variable {mark : Char} (quotes : isQuote mark = true)

include quotes

theorem eq_of_isQuote : mark = '"' ∨ mark = '\'' := by
  simpa [isQuote] using quotes

theorem ne_backquote_of_isQuote : mark ≠ '`' := by
  rcases eq_of_isQuote quotes with rfl | rfl <;> decide

@[simp] theorem lettersOf_cons_quote (rest : List Char) : lettersOf (mark :: rest) = [] := by
  simp [lettersOf, quotes]

@[simp] theorem quotedOf_cons_quote (rest : List Char) :
    quotedOf (mark :: rest) = mark :: rest := by
  simp [quotedOf, quotes]

theorem utf8Size_of_isQuote : mark.utf8Size = 1 := by
  rcases eq_of_isQuote quotes with rfl | rfl <;> rfl

theorem quoteLength_triple (rest : List Char) :
    quoteLength (mark :: mark :: mark :: rest) = 3 := by
  rcases eq_of_isQuote quotes with rfl | rfl <;> rfl

end Quote

/-- The opening quote has three characters only if the same quote stands there three times. -/
theorem quoteLength_eq_one_or (quoted : List Char) :
    quoteLength quoted = 1 ∨
      ∃ mark rest, isQuote mark = true ∧ quoted = mark :: mark :: mark :: rest := by
  fun_cases quoteLength quoted with
  | case1 rest => exact .inr ⟨'"', rest, rfl, rfl⟩
  | case2 rest => exact .inr ⟨'\'', rest, rfl, rfl⟩
  | case3 => exact .inl rfl

/-! ## Written literals -/

/-- A string literal as it is written: letters, a quote, a body and the quote again. A single or
double quote may be written three times; a body after one such quote does not begin with it. -/
structure Spelling where
  letters : List Char
  quote : Char
  isTriple : Bool
  body : List Char
  letters_allowed : ∀ letter ∈ letters, letter ∈ ['f', 'F', 'r', 'R', 'b', 'B', 'u', 'U']
  quote_allowed : isQuote quote = true ∨ quote = '`'
  triple_allowed : isTriple = true → isQuote quote = true
  body_allowed : isTriple = false → isQuote quote = true → body.head? ≠ some quote

namespace Spelling

/-- The opening quote, which is also the closing one. -/
def marks (spelling : Spelling) : List Char :=
  List.replicate (if spelling.isTriple then 3 else 1) spelling.quote

def text (spelling : Spelling) : List Char :=
  spelling.letters ++ (spelling.marks ++ (spelling.body ++ spelling.marks))

variable (spelling : Spelling)

theorem marks_of_backquoted (backquoted : spelling.quote = '`') : spelling.marks = ['`'] := by
  cases triple : spelling.isTriple with
  | false => simp [marks, triple, backquoted]
  | true => exact absurd backquoted (ne_backquote_of_isQuote (spelling.triple_allowed triple))

theorem not_isQuote_of_mem_letters :
    ∀ letter ∈ spelling.letters, isQuote letter = false := by
  intro letter member
  have allowed := spelling.letters_allowed letter member
  simp only [List.mem_cons, List.not_mem_nil, or_false] at allowed
  rcases allowed with rfl | rfl | rfl | rfl | rfl | rfl | rfl | rfl <;> rfl

/-- The opening quote of a literal in single or double quotes is recognized. -/
theorem quoteLength_quotedOf_text (quotes : isQuote spelling.quote = true) :
    quotedOf spelling.text = spelling.marks ++ (spelling.body ++ spelling.marks) ∧
      quoteLength (quotedOf spelling.text) = byteLength spelling.marks := by
  have narrow := utf8Size_of_isQuote quotes
  rw [text, quotedOf_append spelling.not_isQuote_of_mem_letters]
  cases triple : spelling.isTriple with
  | true =>
      simp [marks, triple, List.replicate, quotes, quoteLength_triple quotes, narrow]
  | false =>
      simp only [marks, triple, Bool.false_eq_true, if_false, List.replicate, List.cons_append,
        List.nil_append, quotedOf_cons_quote quotes, byteLength_cons, byteLength_nil, narrow,
        true_and]
      rcases quoteLength_eq_one_or (spelling.quote :: (spelling.body ++ [spelling.quote])) with
        isOne | ⟨mark, rest, -, tripled⟩
      · exact isOne
      · obtain ⟨rfl, again⟩ := List.cons.inj tripled
        cases written : spelling.body with
        | nil => simp [written] at again
        | cons first others =>
            rw [written, List.cons_append] at again
            have starts : spelling.body.head? = some spelling.quote := by
              rw [written, (List.cons.inj again).1]
              rfl
            exact absurd starts (spelling.body_allowed triple quotes)

/-- A literal in single or double quotes can always be taken apart. -/
theorem not_cutsCharacter_of_isQuote (quotes : isQuote spelling.quote = true) :
    ¬ CutsCharacter spelling.text := by
  intro cuts
  obtain ⟨quoted, length⟩ := spelling.quoteLength_quotedOf_text quotes
  have cut := cuts.cut
  rw [length, quoted, ← List.append_assoc] at cut
  exact not_beginsInside_append _ _ cut

/-- A literal in back quotes whose body holds quotes is taken to begin at the first of them. -/
theorem parts_of_backquoted (backquoted : spelling.quote = '`') {before tail : List Char}
    {mark : Char} (written : spelling.body = before ++ mark :: tail)
    (noQuotes : ∀ character ∈ before, isQuote character = false) (quotes : isQuote mark = true) :
    lettersOf spelling.text = spelling.letters ++ '`' :: before ∧
      quotedOf spelling.text = mark :: tail ++ ['`'] := by
  have front : ∀ character ∈ spelling.letters ++ '`' :: before, isQuote character = false := by
    intro character member
    rcases List.mem_append.mp member with isLetter | inside
    · exact spelling.not_isQuote_of_mem_letters character isLetter
    · rcases List.mem_cons.mp inside with rfl | isBefore
      · rfl
      · exact noQuotes character isBefore
  have split : spelling.text = (spelling.letters ++ '`' :: before) ++ mark :: (tail ++ ['`']) := by
    simp [text, spelling.marks_of_backquoted backquoted, written]
  rw [split, lettersOf_append front, quotedOf_append front, lettersOf_cons_quote quotes,
    quotedOf_cons_quote quotes]
  exact ⟨List.append_nil _, rfl⟩

/-- A literal in back quotes whose body holds no quotes is taken to be empty. -/
theorem quotedOf_eq_nil_of_backquoted (backquoted : spelling.quote = '`')
    (noQuotes : quotedOf spelling.body = []) : quotedOf spelling.text = [] := by
  have inside := List.dropWhile_eq_nil_iff.mp noQuotes
  apply List.dropWhile_eq_nil_iff.mpr
  intro character member
  simp only [text, spelling.marks_of_backquoted backquoted, List.mem_append,
    List.mem_singleton] at member
  rcases member with isLetter | rfl | isInside | rfl
  · simp [spelling.not_isQuote_of_mem_letters character isLetter]
  · rfl
  · exact inside character isInside
  · rfl

/-- Three quotes followed by text and a back quote are cut inside a character if the two bytes
before the back quote begin inside one. -/
theorem beginsInside_triple {mark : Char} (quotes : isQuote mark = true) (rest : List Char) :
    BeginsInside 3 (mark :: mark :: mark :: (rest ++ ['`'])) ↔ BeginsInside 2 rest := by
  have narrow := utf8Size_of_isQuote quotes
  have closing : ('`').utf8Size = 1 := rfl
  rw [beginsInside_cons_of_narrow _ _ _ narrow, beginsInside_cons_of_narrow _ _ _ narrow,
    beginsInside_cons_of_narrow _ _ _ narrow, beginsInside_concat, closing]
  simp

/-- The closing back quote is not one of three equal quotes. -/
theorem tail_of_triple {mark first : Char} {tail more : List Char} (quotes : isQuote mark = true)
    (opens : first :: tail ++ ['`'] = mark :: mark :: mark :: more) :
    first = mark ∧ ∃ rest, tail = mark :: mark :: rest := by
  match tail, opens with
  | [], opens => simp at opens
  | [second], opens =>
      simp only [List.cons_append, List.nil_append, List.cons.injEq] at opens
      exact absurd opens.2.2.1.symm (ne_backquote_of_isQuote quotes)
  | second :: third :: rest, opens =>
      simp only [List.cons_append, List.cons.injEq] at opens
      exact ⟨opens.1, rest, by rw [opens.2.1, opens.2.2.1]⟩

/-- A literal in back quotes is cut inside a character exactly if it has no letter of a format,
bytes or template string before the first quote in its body, this quote stands there three times,
and the last two bytes of what follows begin inside a character. -/
theorem cutsCharacter_iff_of_backquoted (backquoted : spelling.quote = '`') :
    CutsCharacter spelling.text ↔
      (∀ letter ∈ spelling.letters, isSpecialLetter letter = false) ∧
      ∃ before mark rest, spelling.body = before ++ mark :: mark :: mark :: rest ∧
        (∀ character ∈ before, isQuote character = false ∧ isSpecialLetter character = false) ∧
        isQuote mark = true ∧ BeginsInside 2 rest := by
  constructor
  · intro cuts
    have plain := cuts.plain
    have cut := cuts.cut
    cases found : quotedOf spelling.body with
    | nil =>
        have long := cut.lt_byteLength
        simp [spelling.quotedOf_eq_nil_of_backquoted backquoted found] at long
    | cons mark tail =>
        have written : spelling.body = lettersOf spelling.body ++ mark :: tail := by
          rw [← found, lettersOf_append_quotedOf]
        obtain ⟨letters, quoted⟩ := spelling.parts_of_backquoted backquoted written
          (fun _ member => not_isQuote_of_mem_lettersOf member) (isQuote_of_quotedOf_eq_cons found)
        rw [letters] at plain
        rw [quoted] at cut
        rcases quoteLength_eq_one_or (mark :: tail ++ ['`']) with
          isOne | ⟨tripled, more, quotes, opens⟩
        · -- One byte before the end stands the closing back quote.
          rw [isOne] at cut
          exact absurd cut (not_beginsInside_append (mark :: tail) ['`'])
        · obtain ⟨rfl, rest, rfl⟩ := tail_of_triple quotes opens
          simp only [List.cons_append, quoteLength_triple quotes] at cut
          refine ⟨fun letter member => plain letter (List.mem_append_left _ member),
            lettersOf spelling.body, mark, rest, written, ?_, quotes,
            (beginsInside_triple quotes rest).mp cut⟩
          intro character member
          exact ⟨not_isQuote_of_mem_lettersOf member,
            plain character (List.mem_append_right _ (List.mem_cons_of_mem _ member))⟩
  · rintro ⟨plainLetters, before, mark, rest, written, plainBefore, quotes, inside⟩
    obtain ⟨letters, quoted⟩ := spelling.parts_of_backquoted backquoted written
      (fun character member => (plainBefore character member).1) quotes
    have length : quoteLength (quotedOf spelling.text) = 3 := by
      rw [quoted]
      exact quoteLength_triple quotes _
    have long := inside.lt_byteLength
    refine ⟨?_, ?_, ?_⟩
    · intro character member
      rw [letters] at member
      rcases List.mem_append.mp member with isLetter | isInside
      · exact plainLetters character isLetter
      · rcases List.mem_cons.mp isInside with rfl | isBefore
        · rfl
        · exact (plainBefore character isBefore).2
    · have narrow := utf8Size_of_isQuote quotes
      have closing : ('`').utf8Size = 1 := rfl
      rw [length, quoted]
      simp only [List.cons_append, byteLength_cons, byteLength_append, byteLength_nil, narrow,
        closing]
      omega
    · rw [length, quoted]
      exact (beginsInside_triple quotes rest).mpr inside

example : decode "`\"\"\"€`" = .error .endInsideCharacter := by decide

end Spelling

end FunctionAtlas.Docstring
