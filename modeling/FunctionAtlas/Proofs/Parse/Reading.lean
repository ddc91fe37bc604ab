import FunctionAtlas.Parse.Lexer
import FunctionAtlas.Proofs.Parse.Covering

/-!
Contract: tokens cover the text from where the lexer was asked for them.

A reader moves on by whole characters, so it stands at a place of the text at all times, and what
it takes for the beginning and the end of a token are places that it has been at. This goes for
every rule of the layout scanner, for the automata, and for the treatment of unknown text.

Owns: the places of a reader and of the tokens that are read.
-/

namespace FunctionAtlas.Parse

open FunctionAtlas.Automaton (Table Recognized)
open FunctionAtlas.Parse.Subtree
open FunctionAtlas.Text

/-! ## Readers -/

/-- A reader of a text that was set on at a place. -/
structure Cursor.Reads (source : Array Char) (origin : Extent) (cursor : Cursor) : Prop where
  isSource : cursor.source = source
  isPlace : IsPlace source cursor.place
  isStart : IsPlace source cursor.start
  startsAfter : origin.chars ≤ cursor.start.chars
  ordered : cursor.start.chars ≤ cursor.place.chars
  isStop : ∀ stop ∈ cursor.stop, IsPlace source stop ∧ origin.chars ≤ stop.chars

section Cursors

variable {source : Array Char} {origin place : Extent} {cursor : Cursor}

theorem chars_after (place : Extent) (character : Char) :
    (place.after character).chars = place.chars + 1 := rfl

theorem reads_startAt (isPlace : IsPlace source place) (after : origin.chars ≤ place.chars) :
    (Cursor.startAt source place).Reads source origin := by
  unfold Cursor.startAt
  split
  next character found =>
    split_ifs
    · refine ⟨rfl, isPlace.after found, isPlace.after found, ?_, Nat.le_refl _, by simp⟩
      exact Nat.le_trans after (Nat.le_succ _)
    · exact ⟨rfl, isPlace, isPlace, after, Nat.le_refl _, by simp⟩
  next => exact ⟨rfl, isPlace, isPlace, after, Nat.le_refl _, by simp⟩

theorem Cursor.Reads.advance (reads : cursor.Reads source origin) :
    cursor.advance.Reads source origin := by
  unfold Cursor.advance
  split
  next character found =>
    rw [reads.isSource] at found
    refine { reads with isPlace := reads.isPlace.after found, ordered := ?_ }
    exact Nat.le_trans reads.ordered (Nat.le_succ _)
  next => exact reads

theorem Cursor.chars_le_advance (cursor : Cursor) :
    cursor.place.chars ≤ cursor.advance.place.chars := by
  unfold Cursor.advance
  split
  · exact Nat.le_succ _
  · exact Nat.le_refl _

theorem Cursor.Reads.skip (reads : cursor.Reads source origin) :
    cursor.skip.Reads source origin := by
  unfold Cursor.skip
  split
  next character found =>
    rw [reads.isSource] at found
    have isNext := reads.isPlace.after found
    refine { reads with isPlace := isNext, isStart := isNext, startsAfter := ?_, ordered := ?_ }
    · have before := reads.startsAfter
      have ordered := reads.ordered
      rw [chars_after]
      omega
    · exact Nat.le_refl _
  next => exact reads

theorem Cursor.Reads.mark (reads : cursor.Reads source origin) :
    cursor.mark.Reads source origin where
  isSource := reads.isSource
  isPlace := reads.isPlace
  isStart := reads.isStart
  startsAfter := reads.startsAfter
  ordered := reads.ordered
  isStop := by
    rintro stop ⟨⟩
    exact ⟨reads.isPlace, Nat.le_trans reads.startsAfter reads.ordered⟩

theorem Cursor.Reads.weaken (reads : cursor.Reads source place)
    (after : origin.chars ≤ place.chars) : cursor.Reads source origin where
  isSource := reads.isSource
  isPlace := reads.isPlace
  isStart := reads.isStart
  startsAfter := Nat.le_trans after reads.startsAfter
  ordered := reads.ordered
  isStop := fun stop isStop =>
    ⟨(reads.isStop stop isStop).1, Nat.le_trans after (reads.isStop stop isStop).2⟩

theorem Cursor.Reads.after (reads : cursor.Reads source origin) :
    origin.chars ≤ cursor.place.chars :=
  Nat.le_trans reads.startsAfter reads.ordered

/-- A token begins and ends at places after the one where the reader was set on. -/
theorem Cursor.Reads.span (reads : cursor.Reads source origin) :
    IsPlace source cursor.span.1 ∧ IsPlace source cursor.span.2 ∧
      origin.chars ≤ cursor.span.1.chars ∧ cursor.span.1.chars ≤ cursor.span.2.chars := by
  have stops : IsPlace source (cursor.stop.getD cursor.place) ∧
      origin.chars ≤ (cursor.stop.getD cursor.place).chars := by
    cases isStop : cursor.stop with
    | none => exact ⟨reads.isPlace, Nat.le_trans reads.startsAfter reads.ordered⟩
    | some stop => exact reads.isStop stop isStop
  unfold Cursor.span
  dsimp only
  split_ifs with isBackward
  · exact ⟨stops.1, stops.1, stops.2, Nat.le_refl _⟩
  · refine ⟨reads.isStart, stops.1, reads.startsAfter, ?_⟩
    exact (reads.isStart.bytes_le_iff stops.1).mp (Nat.not_lt.mp isBackward)

end Cursors

/-! ## Strings -/

section Strings

variable {source : Array Char} {origin : Extent} {cursor : Cursor} {layout : Layout}
  {string : OpenString}

theorem reads_skipRawEscape {quote : Char} (reads : cursor.Reads source origin) :
    (skipRawEscape quote cursor).Reads source origin := by
  unfold skipRawEscape
  extract_lets escaped stepped
  have isStepped : stepped.Reads source origin := by
    simp only [stepped]
    split_ifs
    · exact reads.advance.advance
    · exact reads.advance
  split_ifs
  · exact isStepped.advance.advance
  · exact isStepped.advance
  · exact isStepped.advance
  · exact isStepped

theorem reads_closeString {hasContent : Bool} (reads : cursor.Reads source origin) :
    (closeString layout string hasContent cursor).cursor.Reads source origin := by
  unfold closeString
  have once := reads.mark.advance
  have twice := once.advance
  dsimp only
  split_ifs
  · exact twice
  · exact twice.advance.mark
  · exact twice.mark
  · exact once.mark
  · exact reads.mark
  · exact reads.advance.mark

/-- Where reading the content of a string has come to. -/
def ContentResult.Reads (source : Array Char) (origin : Extent) : ContentResult → Prop
  | .found result => result.cursor.Reads source origin
  | .refused => True
  | .exhausted cursor => cursor.Reads source origin

theorem reads_scanContent (fuel : Nat) {hasContent : Bool} (reads : cursor.Reads source origin) :
    (scanContent layout string fuel hasContent cursor).Reads source origin := by
  induction fuel generalizing hasContent cursor with
  | zero => exact reads
  | succ fuel inductionHypothesis =>
      have marked := reads.mark
      rw [scanContent]
      dsimp only
      split_ifs
      · exact reads
      · exact marked
      · trivial
      · exact inductionHypothesis (reads_skipRawEscape reads)
      · exact inductionHypothesis marked.advance.advance.advance
      · exact marked.advance
      · trivial
      · exact marked
      · trivial
      · exact reads_closeString reads
      · trivial
      · exact inductionHypothesis reads.advance

theorem reads_scanFlags (fuel : Nat) (string : OpenString) (reads : cursor.Reads source origin) :
    (scanFlags fuel string cursor).2.Reads source origin := by
  induction fuel generalizing string cursor with
  | zero => exact reads
  | succ fuel inductionHypothesis =>
      rw [scanFlags]
      split
      all_goals first
        | exact inductionHypothesis _ reads.advance
        | exact reads

theorem reads_scanOpening (reads : cursor.Reads source origin) {result : LayoutResult}
    (found : scanOpening layout cursor = some result) : result.cursor.Reads source origin := by
  unfold scanOpening at found
  have afterFlags := reads_scanFlags (cursor.source.size + 1)
    ⟨'\x00', false, false, false, false⟩ reads
  generalize scanFlags (cursor.source.size + 1) ⟨'\x00', false, false, false, false⟩ cursor =
    flagged at found afterFlags
  dsimp only at found
  have once := afterFlags.advance.mark
  split_ifs at found <;> cases found
  · exact once
  · exact once.advance.advance.mark
  · exact once.advance
  · exact once

end Strings

/-! ## Lines -/

section Lines

variable {source : Array Char} {origin : Extent} {cursor : Cursor} {layout : Layout}
  {expected : Expectation}

theorem reads_skipLine (fuel : Nat) (reads : cursor.Reads source origin) :
    (skipLine fuel cursor).Reads source origin := by
  induction fuel generalizing cursor with
  | zero => exact reads
  | succ fuel inductionHypothesis =>
      rw [skipLine]
      split_ifs
      · exact reads.skip
      · exact inductionHypothesis reads.skip

theorem reads_scanLines {seesComments : Bool} (fuel : Nat) {scan last : LineScan}
    (reads : scan.cursor.Reads source origin)
    (found : scanLines seesComments fuel scan = some last) :
    last.cursor.Reads source origin := by
  induction fuel generalizing scan with
  | zero =>
      cases found
      exact reads
  | succ fuel inductionHypothesis =>
      rw [scanLines] at found
      dsimp only at found
      split at found
      · exact inductionHypothesis reads.skip found
      · exact inductionHypothesis reads.skip found
      · exact inductionHypothesis reads.skip found
      · exact inductionHypothesis reads.skip found
      · exact inductionHypothesis reads.skip found
      · split_ifs at found
        · cases found
          exact reads
        · exact inductionHypothesis (reads_skipLine _ reads) found
      · split_ifs at found
        · exact inductionHypothesis reads.skip.skip.skip found
        · exact inductionHypothesis reads.skip.skip found
      · split_ifs at found <;> cases found <;> exact reads

theorem reads_lineToken {scan : LineScan} (reads : scan.cursor.Reads source origin)
    {result : LayoutResult} (found : lineToken expected layout scan = some result) :
    result.cursor.Reads source origin := by
  unfold lineToken at found
  dsimp only at found
  split_ifs at found <;> cases found <;> exact reads

theorem reads_scanBetween (reads : cursor.Reads source origin) {result : LayoutResult}
    (found : scanBetween expected layout cursor = some result) :
    result.cursor.Reads source origin := by
  unfold scanBetween at found
  dsimp only at found
  split at found
  next => cases found
  next scan scanned =>
    have readsScan := reads_scanLines _ reads.mark scanned
    split at found
    next line isLine =>
      cases found
      split_ifs at isLine
      exact reads_lineToken readsScan isLine
    next =>
      split_ifs at found
      exact reads_scanOpening readsScan found

/-- The layout scanner leaves the reader at a place. -/
theorem reads_scanLayout (reads : cursor.Reads source origin) {result : LayoutResult}
    (found : scanLayout expected layout cursor = some result) :
    result.cursor.Reads source origin := by
  unfold scanLayout at found
  split at found
  next => exact reads_scanBetween reads found
  next string _ _ =>
    dsimp only at found
    split_ifs at found
    · exact reads_scanBetween reads found
    · cases found
      exact reads.mark.advance.advance.mark
    · have content : (scanContent layout string (cursor.source.size + 1) false cursor).Reads
          source origin := reads_scanContent _ reads
      split at found
      next isContent =>
        cases found
        rwa [isContent] at content
      next => cases found
      next isContent =>
        rw [isContent] at content
        exact reads_scanBetween content found
    · exact reads_scanBetween reads found

end Lines

/-! ## Automata -/

section Tokens

variable {source : Array Char} {origin : Extent} {table : Table}

/-- A reader that has been looked at in a state of the automaton goes on from there. -/
theorem reads_afterState {fuel : Nat} {found : Automaton.DfaState} (best : Recognized)
    {cursor : Cursor}
    (continues : ∀ (state : Nat) (best : Recognized) {cursor : Cursor},
      cursor.Reads source origin → (runDfa table fuel state best cursor).2.Reads source origin)
    (reads : cursor.Reads source origin) :
    (if cursor.atEnd then
      if found.endsText then (.endOfText, cursor.mark) else (best, cursor)
    else
      match found.targets.getD (Grammar.LetterCode.ofChar cursor.lookahead) 0 with
      | 0 => (best, cursor)
      | target + 1 =>
          runDfa table fuel target best
            (if found.blanks.contains (Grammar.LetterCode.ofChar cursor.lookahead)
              then cursor.skip else cursor.advance)).2.Reads source origin := by
  split_ifs
  · exact reads.mark
  · exact reads
  · split
    · exact reads
    · exact continues _ _ reads.skip
  · split
    · exact reads
    · exact continues _ _ reads.advance

theorem reads_runDfa (fuel state : Nat) (best : Recognized) {cursor : Cursor}
    (reads : cursor.Reads source origin) :
    (runDfa table fuel state best cursor).2.Reads source origin := by
  induction fuel generalizing state best cursor with
  | zero => exact reads
  | succ fuel inductionHypothesis =>
      rw [runDfa]
      split
      next => exact reads
      next found isFound =>
        -- The reader may have been marked before it goes on.
        cases found.recognized with
        | nothing => exact reads_afterState _ inductionHypothesis reads
        | endOfText => exact reads_afterState _ inductionHypothesis reads.mark
        | token number => exact reads_afterState _ inductionHypothesis reads.mark

/-! ## Tokens -/

variable {context : LexContext} (isSource : context.source = source)
  (isOrigin : IsPlace source context.origin)

include isOrigin

theorem covers_scannedToken {result : LayoutResult} {isChanged : Bool}
    (reads : result.cursor.Reads source context.origin) :
    Covers source context.origin (scannedToken context result isChanged) := by
  obtain ⟨isStart, isStop, after, ordered⟩ := reads.span
  exact covers_leaf isOrigin isStart isStop after ordered

theorem covers_lexedToken {symbol : Nat} {cursor : Cursor}
    (reads : cursor.Reads source context.origin) :
    Covers source context.origin (lexedToken context symbol cursor) := by
  obtain ⟨isStart, isStop, after, ordered⟩ := reads.span
  exact covers_leaf isOrigin isStart isStop after ordered

/-- Text that was left out lies between two places after the one where the lexer was asked. -/
structure SkippedText.Lies (source : Array Char) (origin : Extent) (skipped : SkippedText) :
    Prop where
  isStart : IsPlace source skipped.start
  isStop : IsPlace source skipped.stop
  after : origin.chars ≤ skipped.start.chars
  ordered : skipped.start.chars ≤ skipped.stop.chars

theorem covers_unknownToken {skipped : SkippedText}
    (lies : skipped.Lies source context.origin) :
    Covers source context.origin (unknownToken context skipped) :=
  covers_leaf isOrigin lies.isStart lies.isStop lies.after lies.ordered

omit isOrigin in
/-- Text that is left out from now on begins where the reader has got to. -/
theorem lies_getD {origin place : Extent} {cursor : Cursor} {skipped : Option SkippedText}
    (reads : cursor.Reads source place) (after : origin.chars ≤ place.chars)
    (lies : ∀ text ∈ skipped, text.Lies source origin ∧ text.stop.chars ≤ place.chars) :
    (skipped.getD ⟨cursor.start, cursor.start⟩).Lies source origin ∧
      (skipped.getD ⟨cursor.start, cursor.start⟩).stop.chars ≤ cursor.place.chars := by
  cases skipped with
  | none =>
      refine ⟨⟨reads.isStart, reads.isStart, ?_, Nat.le_refl _⟩, reads.ordered⟩
      exact Nat.le_trans after reads.startsAfter
  | some text =>
      obtain ⟨textLies, before⟩ := lies text rfl
      exact ⟨textLies, Nat.le_trans before reads.after⟩

omit isOrigin in
/-- More text is left out. -/
theorem SkippedText.Lies.upTo {origin stop : Extent} {text : SkippedText}
    (lies : text.Lies source origin) (isStop : IsPlace source stop)
    (later : text.stop.chars ≤ stop.chars) :
    ∀ grown ∈ some { text with stop },
      grown.Lies source origin ∧ grown.stop.chars ≤ stop.chars := by
  rintro grown ⟨⟩
  exact ⟨⟨lies.isStart, isStop, lies.after, Nat.le_trans lies.ordered later⟩, Nat.le_refl _⟩

include isSource

omit isOrigin in
theorem reads_of_scanAt {mode : Nat} {isError insideFormat : Bool} {place : Extent}
    (isPlace : IsPlace source place) (after : context.origin.chars ≤ place.chars)
    {result : LayoutResult} {isChanged : Bool}
    (found : (scanAt context mode isError insideFormat place).1 = some (result, isChanged)) :
    result.cursor.Reads source context.origin := by
  unfold scanAt at found
  dsimp only at found
  split at found
  next => cases found
  next scanned isScanned =>
    dsimp only at found
    split_ifs at found
    cases found
    rw [isSource] at isScanned
    exact reads_scanLayout (reads_startAt isPlace after) isScanned

/-- The token that is found from a place on covers the text from the origin on. -/
theorem covers_lexFrom (fuel : Nat) {isError insideFormat : Bool} {place : Extent}
    {skipped : Option SkippedText} (isPlace : IsPlace source place)
    (after : context.origin.chars ≤ place.chars)
    (lies : ∀ text ∈ skipped, text.Lies source context.origin ∧
      text.stop.chars ≤ place.chars) :
    Covers source context.origin
      (lexFrom context fuel isError insideFormat place skipped).token := by
  induction fuel generalizing isError insideFormat place skipped with
  | zero =>
      rw [lexFrom]
      apply covers_unknownToken isOrigin
      cases skipped with
      | none => exact ⟨isPlace, isPlace, after, Nat.le_refl _⟩
      | some text => exact (lies text rfl).1
  | succ fuel inductionHypothesis =>
      rw [lexFrom]
      dsimp only
      split
      next result isChanged found =>
        cases skipped with
        | none => exact covers_scannedToken isOrigin (reads_of_scanAt isSource isPlace after found)
        | some text => exact covers_unknownToken isOrigin (lies text rfl).1
      next =>
        generalize isRun : runDfa context.table (context.source.size + 2) _ .nothing
          (Cursor.startAt context.source place) = run
        have reads : run.2.Reads source place := by
          rw [← isRun, isSource]
          exact reads_runDfa _ _ _ (reads_startAt isPlace (Nat.le_refl _))
        obtain ⟨textLies, before⟩ := lies_getD reads after lies
        generalize (scanAt context _ isError insideFormat place).2 = insideFormat
        split
        next text _ => exact covers_unknownToken isOrigin (lies text rfl).1
        next => exact covers_lexedToken isOrigin (reads.weaken after)
        next =>
          split_ifs
          · exact inductionHypothesis isOrigin (Nat.le_refl _) (by simp)
          · exact covers_unknownToken isOrigin textLies
          · have isNext := reads.advance.isPlace
            refine inductionHypothesis isNext (Nat.le_trans after reads.advance.after) ?_
            exact textLies.upTo isNext (Nat.le_trans before (Cursor.chars_le_advance _))
          · refine inductionHypothesis reads.isPlace (Nat.le_trans after reads.after) ?_
            exact textLies.upTo reads.isPlace before

/-- The token that the lexer finds covers the text from where it was asked for it. -/
theorem covers_lex (insideFormat : Bool) :
    Covers source context.origin (lex context insideFormat).token :=
  covers_lexFrom isSource isOrigin _ isOrigin (Nat.le_refl _) (by simp)

end Tokens

end FunctionAtlas.Parse
