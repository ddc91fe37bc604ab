import FunctionAtlas.Regex.Expr
import Mathlib.Data.List.Forall2

/-!
Contract: an escaped text is the pattern of that text.

Each character of a text, with its backslash if it has one, is read as one literal, whatever comes
before and after it. So the pattern is a row of literals, and it means the characters of the text
one after the other.

Owns: what the reader makes of escaped texts, and the expression that they mean.

Does not own: what the expression matches.
-/

namespace FunctionAtlas.Regex

/-! ## Places in a pattern -/

/-- The place with some characters before it and others after it, where blanks count. -/
def Cursor.between (before after : List Char) : Cursor where
  pattern := (before ++ after).toArray
  position := before.length
  skipsBlanks := false
  names := []

namespace Reader

variable {α β : Type} (before after : List Char)

/-- What follows a part that was read goes on with it. -/
theorem bind_of_ok {reader : Reader α} {next : α → Reader β} {cursor later : Cursor} {value : α}
    (isRead : reader cursor = .ok (value, later)) :
    (reader >>= next) cursor = next value later := by
  show (reader cursor >>= fun result => next result.1 result.2) = _
  rw [isRead]
  rfl

theorem position_between :
    position (.between before after) = .ok (before.length, .between before after) := rfl

theorem advanceBlanks_between :
    advanceBlanks (.between before after) = .ok ((), .between before after) := rfl

theorem peek?_between (character : Char) :
    peek? 0 (.between before (character :: after)) =
      .ok (some character, .between before (character :: after)) := by
  simp [peek?, Cursor.between]

theorem peek?_atEnd : peek? 0 (.between before []) = .ok (none, .between before []) := by
  simp [peek?, Cursor.between]

theorem advance_between (character : Char) :
    advance (.between before (character :: after)) =
      .ok (decide (after ≠ []), .between (before ++ [character]) after) := by
  have hasMore : before.length + 1 < before.length + (after.length + 1) ↔ after ≠ [] := by
    rw [← List.length_pos_iff]
    omega
  simp [advance, Cursor.between, hasMore]

end Reader

/-! ## Characters -/

variable (before after : List Char) (character : Char)

/-- A literal that stands for a character, wherever it is written. -/
def Syntax.StandsFor (content : Syntax) (character : Char) : Prop :=
  ∃ span, content = .literal { span, character, isByte := false }

theorem ne_of_isMeta {plain escaped : Char} (isPlain : isMeta plain = false)
    (hasMeaning : isMeta escaped = true) : plain ≠ escaped := by
  rintro rfl
  exact Bool.false_ne_true (isPlain.symm.trans hasMeaning)

/-- A character without a meaning of its own is read as a literal. -/
theorem readPrimitive_plain (isPlain : isMeta character = false) :
    ∃ primitive, primitive.toSyntax.StandsFor character ∧
      readPrimitive (.between before (character :: after)) =
        .ok (primitive, .between (before ++ [character]) after) := by
  let literal := Primitive.literal ⟨⟨before.length, before.length + 1⟩, character, false⟩
  refine ⟨literal, ⟨_, rfl⟩, ?_⟩
  rw [readPrimitive, Reader.bind_of_ok (Reader.position_between _ _),
    Reader.bind_of_ok (Reader.peek?_between _ _ _)]
  apply (congrFun (g := (do let _ ← Reader.advance; return literal : Reader Primitive)) ?_ _).trans
  · rw [Reader.bind_of_ok (Reader.advance_between _ _ _)]
    rfl
  · have isOther : ∀ letter, isMeta letter = true → character ≠ letter := by
      intro letter hasMeaning
      exact ne_of_isMeta isPlain hasMeaning
    split
    next isBackslash =>
      exact absurd (Option.some.inj isBackslash) (isOther _ (by decide))
    next isCharacter =>
      obtain rfl := Option.some.inj isCharacter
      congr 1
      funext _
      split
      next => exact absurd rfl (isOther '.' (by decide))
      next => exact absurd rfl (isOther '^' (by decide))
      next => exact absurd rfl (isOther '$' (by decide))
      next => rfl
    next isEnd => cases isEnd

/-- A character with a meaning of its own is read as a literal after a backslash. -/
theorem readPrimitive_escaped (hasMeaning : isMeta character = true) :
    ∃ primitive, primitive.toSyntax.StandsFor character ∧
      readPrimitive (.between before ('\\' :: character :: after)) =
        .ok (primitive, .between (before ++ ['\\', character]) after) := by
  have isBehind : before ++ ['\\', character] = before ++ ['\\'] ++ [character] := by simp
  rw [isBehind]
  let literal := Primitive.literal
    ⟨⟨before.length, (before ++ ['\\'] ++ [character]).length⟩, character, false⟩
  refine ⟨literal, ⟨_, rfl⟩, ?_⟩
  rw [readPrimitive, Reader.bind_of_ok (Reader.position_between _ _),
    Reader.bind_of_ok (Reader.peek?_between _ _ _)]
  show readEscape _ = _
  rw [readEscape, Reader.bind_of_ok (Reader.position_between _ _),
    Reader.bind_of_ok (Reader.advance_between _ _ _),
    Reader.bind_of_ok (Reader.peek?_between _ _ _), decide_eq_true (List.cons_ne_nil _ _)]
  have isOther : ∀ letter, isMeta letter = false → letter ≠ character := by
    intro letter isPlain
    exact ne_of_isMeta isPlain hasMeaning
  have notDigit : character.isDigit = false := by
    have none : "\\.+*?()|[]\x7b\x7d^$#&-~".toList.any Char.isDigit = false := by decide
    rw [← Bool.not_eq_true]
    exact List.any_eq_false.mp none character (List.contains_iff_mem.mp hasMeaning)
  apply (congrFun (g := readLetterEscape before.length character) ?_ _).trans
  · rw [readLetterEscape, Reader.bind_of_ok (Reader.advance_between _ _ _),
      Reader.bind_of_ok (Reader.position_between _ _), isEscapable, hasMeaning]
    rfl
  · show (if character.isDigit then _ else _) = _
    rw [if_neg (by rw [notDigit]; exact Bool.false_ne_true)]
    split
    all_goals first
      | exact absurd rfl (isOther _ (by decide))
      | rfl

/-- One character of an escaped text is one literal. -/
theorem readPrimitive_escapedCharacter :
    ∃ primitive, primitive.toSyntax.StandsFor character ∧
      readPrimitive (.between before (escapedCharacter character ++ after)) =
        .ok (primitive, .between (before ++ escapedCharacter character) after) := by
  rw [escapedCharacter]
  split
  next hasMeaning => exact readPrimitive_escaped before after character hasMeaning
  next isPlain =>
    exact readPrimitive_plain before after character (Bool.eq_false_iff.mpr isPlain)

/-- No character that begins an escaped one opens, ends, repeats or joins parts. -/
theorem escapedCharacter_eq_cons :
    ∃ first rest, escapedCharacter character = first :: rest ∧
      first ∉ ")|([?*+\x7b".toList := by
  rw [escapedCharacter]
  split
  next => exact ⟨'\\', [character], rfl, by decide⟩
  next isPlain =>
    refine ⟨character, [], rfl, ?_⟩
    intro member
    have areMeta : ")|([?*+\x7b".toList.all isMeta = true := by decide
    exact isPlain (List.all_eq_true.mp areMeta character member)

/-! ## Texts -/

section Parts

variable (fuel bodyStart start : Nat) (branches : List Syntax) (items : List Placed)

/-- One character of an escaped text adds one part. -/
theorem readParts_escapedCharacter :
    ∃ content : Syntax, content.StandsFor character ∧
      readParts (fuel + 1) none bodyStart branches start items
          (.between before (escapedCharacter character ++ after)) =
        readParts fuel none bodyStart branches start ((before.length, content) :: items)
          (.between (before ++ escapedCharacter character) after) := by
  obtain ⟨primitive, stands, isRead⟩ := readPrimitive_escapedCharacter before after character
  obtain ⟨first, rest, begins, notMeant⟩ := escapedCharacter_eq_cons character
  have isOther : ∀ letter ∈ ")|([?*+\x7b".toList, first ≠ letter := by
    rintro letter member rfl
    exact notMeant member
  refine ⟨primitive.toSyntax, stands, ?_⟩
  rw [readParts, Reader.bind_of_ok (Reader.advanceBlanks_between _ _),
    Reader.bind_of_ok (Reader.position_between _ _)]
  rw [begins, List.cons_append] at isRead ⊢
  rw [Reader.bind_of_ok (Reader.peek?_between _ _ _)]
  apply (congrFun (g := (do
    let primitive ← readPrimitive
    readParts fuel none bodyStart branches start
      ((before.length, primitive.toSyntax) :: items) : Reader Syntax)) ?_ _).trans
  · rw [Reader.bind_of_ok isRead]
  · split
    next isEnd => cases isEnd
    next isLetter => exact absurd (Option.some.inj isLetter) (isOther ')' (by decide))
    next isLetter => exact absurd (Option.some.inj isLetter) (isOther '|' (by decide))
    next isLetter => exact absurd (Option.some.inj isLetter) (isOther '(' (by decide))
    next isLetter => exact absurd (Option.some.inj isLetter) (isOther '[' (by decide))
    next letter _ _ _ _ isLetter =>
      obtain rfl := Option.some.inj isLetter
      rw [if_neg]
      simp [isOther '?' (by decide), isOther '*' (by decide), isOther '+' (by decide),
        isOther '\x7b' (by decide)]

/-- At the end of a pattern, its parts are put together. -/
theorem readParts_atEnd :
    readParts (fuel + 1) none bodyStart branches start items (.between before []) =
      .ok (wholeOf bodyStart branches start before.length items, .between before []) := by
  rw [readParts, Reader.bind_of_ok (Reader.advanceBlanks_between _ _),
    Reader.bind_of_ok (Reader.position_between _ _), Reader.bind_of_ok (Reader.peek?_atEnd _)]
  rfl

/-- An escaped text is read as its characters, in order. -/
theorem readParts_escaped (text : List Char) (enough : text.length < fuel) :
    ∃ (stop : Nat) (parts : List Placed) (later : Cursor),
      readParts fuel none bodyStart branches start items
          (.between before (text.flatMap escapedCharacter)) =
        .ok (wholeOf bodyStart branches start stop (parts.reverse ++ items), later) ∧
      List.Forall₂ (fun part character => Syntax.StandsFor part.2 character) parts text := by
  induction text generalizing fuel before items with
  | nil =>
      obtain ⟨fuel, rfl⟩ := Nat.exists_eq_add_one.mpr enough
      exact ⟨_, [], _, readParts_atEnd before fuel bodyStart start branches items, .nil⟩
  | cons character rest inductionHypothesis =>
      obtain ⟨fuel, rfl⟩ := Nat.exists_eq_add_one.mpr (Nat.zero_lt_of_lt enough)
      obtain ⟨content, stands, isRead⟩ := readParts_escapedCharacter before
        (rest.flatMap escapedCharacter) character fuel bodyStart start branches items
      obtain ⟨stop, parts, later, isWhole, standFor⟩ := inductionHypothesis
        (before ++ escapedCharacter character) fuel ((before.length, content) :: items)
        (Nat.lt_of_succ_lt_succ enough)
      refine ⟨stop, (before.length, content) :: parts, later, ?_, .cons stands standFor⟩
      rw [List.flatMap_cons, isRead, isWhole, List.reverse_cons, List.append_assoc]
      rfl

end Parts

/-! ## Meaning -/

/-- The characters of a text one after the other, in the case that a mode asks for. -/
def Expr.ofText (mode : Mode) (text : List Char) : Expr :=
  Expr.sequenceAll (text.map fun character => .one (mode.fold (CharClass.single character)))

theorem Syntax.StandsFor.checkNesting {content : Syntax} {character : Char}
    (stands : content.StandsFor character) (depth : Nat) : content.checkNesting depth = .ok () := by
  obtain ⟨span, rfl⟩ := stands
  rfl

/-- Literals in a row are not nested. -/
theorem Syntax.checkNestingOfAll_of_standsFor (depth : Nat) {contents : List Syntax}
    {text : List Char} (stand : List.Forall₂ Syntax.StandsFor contents text) :
    Syntax.checkNestingOfAll depth contents = .ok () := by
  induction stand with
  | nil => rfl
  | cons stands _ inductionHypothesis =>
      rw [Syntax.checkNestingOfAll, stands.checkNesting, inductionHypothesis]
      rfl

variable {mode : Mode}

theorem Syntax.StandsFor.meaning {content : Syntax} {character : Char}
    (stands : content.StandsFor character) (isUnicode : mode.unicode = true) :
    content.meaning mode = .ok (.one (mode.fold (CharClass.single character)), mode) := by
  obtain ⟨span, rfl⟩ := stands
  rw [Syntax.meaning, Meaning.one, Mode.characterOf, isUnicode]
  rfl

/-- Literals in a row mean their characters. -/
theorem Syntax.meanings_of_standsFor (isUnicode : mode.unicode = true) {contents : List Syntax}
    {text : List Char} (stand : List.Forall₂ Syntax.StandsFor contents text) :
    Syntax.meanings contents mode =
      .ok (text.map fun character => .one (mode.fold (CharClass.single character)), mode) := by
  induction stand with
  | nil =>
      rw [Syntax.meanings]
      rfl
  | @cons content character contents text stands _ inductionHypothesis =>
      rw [Syntax.meanings]
      show (content.meaning mode >>= _) = _
      rw [stands.meaning isUnicode]
      show (Syntax.meanings contents mode >>= _) = _
      rw [inductionHypothesis]
      rfl

theorem sequenceOf_of_two (span : Span) {parts : List Placed} (two : 2 ≤ parts.length) :
    sequenceOf span parts = .concatenation span (parts.reverse.map Prod.snd) := by
  match parts, two with
  | _ :: _ :: _, _ => rfl

/-- A row of literals, or the only one, passes the check of nesting and means its characters. -/
theorem sequenceOf_of_standsFor (span : Span) {parts : List Placed} {text : List Char}
    (stand : List.Forall₂ (fun part character => Syntax.StandsFor part.2 character) parts text)
    (isUnicode : mode.unicode = true) :
    (sequenceOf span parts.reverse).checkNesting 0 = .ok () ∧
      (sequenceOf span parts.reverse).meaning mode = .ok (Expr.ofText mode text, mode) := by
  have all : List.Forall₂ Syntax.StandsFor (parts.map Prod.snd) text :=
    List.forall₂_map_left_iff.mpr stand
  cases stand with
  | nil =>
      refine ⟨rfl, ?_⟩
      rw [List.reverse_nil, sequenceOf, Syntax.meaning]
      rfl
  | @cons first character others rest stands later =>
      cases others with
      | nil =>
          cases later with
          | nil => exact ⟨stands.checkNesting 0, stands.meaning isUnicode⟩
      | cons second parts =>
          rw [sequenceOf_of_two span (by simp), List.reverse_reverse]
          constructor
          · exact Syntax.checkNestingOfAll_of_standsFor 1 all
          · rw [Syntax.meaning]
            show (Syntax.meanings _ mode >>= _) = _
            rw [Syntax.meanings_of_standsFor isUnicode all]
            rfl

theorem length_le_length_escaped (text : List Char) :
    text.length ≤ (text.flatMap escapedCharacter).length := by
  induction text with
  | nil => exact Nat.le_refl 0
  | cons character rest inductionHypothesis =>
      obtain ⟨first, others, begins, -⟩ := escapedCharacter_eq_cons character
      rw [List.flatMap_cons, begins, List.length_append, List.length_cons, List.length_cons]
      omega

/-- An escaped text is a pattern, and means the text. -/
theorem Expr.read_escapedText (ignoreCase : Bool) (text : String) :
    Expr.read ignoreCase (escapedText text) =
      .ok (Expr.ofText { ignoreCase } text.toList) := by
  have start : (⟨(escapedText text).toList.toArray, 0, false, []⟩ : Cursor) =
      .between [] (text.toList.flatMap escapedCharacter) := by
    rw [escapedText, String.toList_ofList]
    rfl
  have enough : text.toList.length <
      (Cursor.between [] (text.toList.flatMap escapedCharacter)).pattern.size + 1 :=
    Nat.lt_succ_of_le (length_le_length_escaped text.toList)
  obtain ⟨stop, parts, later, isRead, stand⟩ := readParts_escaped [] _ 0 0 [] []
    text.toList enough
  let mode : Mode := { ignoreCase }
  obtain ⟨notNested, isMeant⟩ : _ ∧ (sequenceOf ⟨0, stop⟩ parts.reverse).meaning mode = _ :=
    sequenceOf_of_standsFor ⟨0, stop⟩ stand rfl
  rw [List.append_nil] at isRead
  have whole : Syntax.read (escapedText text) = .ok (sequenceOf ⟨0, stop⟩ parts.reverse) := by
    rw [Syntax.read, start]
    show (readParts _ none 0 [] 0 [] _ >>= _) = _
    rw [isRead]
    show ((sequenceOf ⟨0, stop⟩ parts.reverse).checkNesting 0 >>= _) = _
    rw [notNested]
    rfl
  rw [Expr.read, whole]
  show ((sequenceOf ⟨0, stop⟩ parts.reverse).meaning { ignoreCase } >>= _) = _
  rw [isMeant]
  rfl

end FunctionAtlas.Regex
