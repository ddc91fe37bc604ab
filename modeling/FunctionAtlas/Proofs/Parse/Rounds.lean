import FunctionAtlas.Proofs.Parse.Reading
import FunctionAtlas.Proofs.Parse.Repairs
import FunctionAtlas.Proofs.Parse.VisiblePlaces

/-!
Contract: the syntax tree of a text is placed in the text.

A version reads a token that covers the text from where the version stands. Putting versions in
order after a round removes, joins and exchanges them and moves none, and a version that was
stopped goes on from where it was stopped. So the parser is sound after every round, whatever the
table, and the tree that it finishes covers the text from its beginning.

Owns: the places of versions from token to token, and the places of all nodes of a syntax tree.
-/

namespace FunctionAtlas.Parse

open FunctionAtlas.Automaton (Table Action)
open FunctionAtlas.Parse.Stack
open FunctionAtlas.Parse.Subtree
open FunctionAtlas.Text

section Tokens

variable {setting : Setting} {parser : Parser} {version : Nat} {place : Extent}

/-! ## Tokens -/

theorem cachedToken_covers (sound : parser.Sound setting.source) :
    Ensures (cachedToken setting version) parser fun result changed =>
      changed = parser ∧
        ∀ token ∈ result, Covers setting.source (parser.stack.position version) token := by
  unfold cachedToken
  rw [ensures_bind, ensures_get]
  dsimp only
  split
  next => exact ⟨rfl, by simp⟩
  next cached isCached =>
    split
    next isHere =>
      rw [ensures_pure]
      refine ⟨rfl, fun token member => ?_⟩
      obtain ⟨place, sameBytes, covers⟩ := sound.cache cached isCached
      have isBytes : cached.bytes = (parser.stack.position version).bytes := by
        simp only [Bool.and_eq_true, decide_eq_true_eq] at isHere
        exact isHere.1
      have isPlace : place = parser.stack.position version :=
        covers.isPlace.eq_of_bytes (sound.stack.isPlace version) (sameBytes.trans isBytes)
      have isToken : cached.token = token := by
        split_ifs at member
        · exact Option.some.inj member
        · cases member
      exact isPlace ▸ isToken ▸ covers
    next => exact ⟨rfl, by simp⟩

theorem lexFor_covers (sound : parser.Sound setting.source) :
    Ensures (lexFor setting version) parser fun token changed =>
      changed.Sound setting.source ∧ changed.stack = parser.stack ∧
        Covers setting.source (parser.stack.position version) token := by
  unfold lexFor
  rw [ensures_bind, ensures_get]
  extract_lets stack context result
  have covers : Covers setting.source (parser.stack.position version) result.token :=
    @covers_lex setting.source context rfl (sound.stack.isPlace version) parser.insideFormat
  rw [ensures_bind, ensures_set, ensures_pure]
  refine ⟨⟨sound.stack, ?_, sound.finished⟩, rfl, covers⟩
  rintro cached ⟨⟩
  exact ⟨_, rfl, covers⟩

/-! ## Actions for a token -/

/-- Where the actions for a token leave the version that reads it. -/
def Outcome.Sound (source : Array Char) (version : Nat) (place : Extent) (parser : Parser) :
    Outcome → Prop
  | .done => parser.Sound source ∧ version < parser.stack.versionCount
  | .reduced made => parser.Sound source ∧ parser.stack.place? version = some place ∧
      ∀ other ∈ made, version < other ∧ parser.stack.place? other = some place
  | .stuck => parser.Sound source ∧ parser.stack.place? version = some place

theorem performActions_sound {state : Nat} {lookahead : Subtree} (actions : List Action)
    {didReduce : Bool} {made : Option Nat} (sound : parser.Sound setting.source)
    (stands : parser.stack.place? version = some place)
    (covers : Covers setting.source place lookahead)
    (fits : actions = [] ∨ lookahead.isError = false)
    (isMade : ∀ other ∈ made, version < other ∧ parser.stack.place? other = some place) :
    Ensures (performActions setting version state lookahead actions didReduce made) parser
      fun outcome changed => outcome.Sound setting.source version place changed := by
  induction actions generalizing parser didReduce made with
  | nil =>
      simp only [performActions, ensures_pure]
      cases didReduce with
      | true => exact ⟨sound, stands, isMade⟩
      | false => exact ⟨sound, stands⟩
  | cons action rest inductionHypothesis =>
      have isRight : lookahead.isError = false := fits.resolve_left (by simp)
      cases action with
      | shift next isRepetition =>
          rw [performActions]
          split_ifs
          · exact inductionHypothesis sound stands (.inr isRight) isMade
          · exact shift_sound sound stands covers isRight
      | shiftExtra => exact shift_sound sound stands covers isRight
      | reduce category childCount dynamicPrecedence shape =>
          refine (reduce_spec setting version _ sound).bind ?_
          rintro reduced changed ⟨rests, -, isReduced⟩
          refine inductionHypothesis rests.sound (rests.place? stands) (.inr isRight) ?_
          intro other member
          cases reduced with
          | none =>
              obtain ⟨isLater, standsOther⟩ := isMade other member
              exact ⟨isLater, rests.place? standsOther⟩
          | some first =>
              obtain rfl : first = other := Option.some.inj member
              obtain ⟨isFresh, standsFirst⟩ := isReduced first rfl
              rw [(position_of_place? stands).1] at standsFirst
              exact ⟨Nat.lt_of_lt_of_le (lt_of_place? stands) isFresh, standsFirst⟩
      | accept => exact accept_sound setting sound stands covers isRight
      | recover => exact recover_sound setting sound stands covers

/-- A version reads a token: it moves on, is repaired, or waits with the token where it stands. -/
theorem processToken_sound (fuel : Nat) {lookahead : Subtree} (sound : parser.Sound setting.source)
    (stands : parser.stack.place? version = some place)
    (covers : Covers setting.source place lookahead) :
    Ensures (processToken setting version fuel lookahead) parser fun _ changed =>
      changed.Sound setting.source ∧ version < changed.stack.versionCount := by
  induction fuel generalizing parser lookahead with
  | zero => exact halt_sound sound stands
  | succ fuel inductionHypothesis =>
      rw [processToken, ensures_bind, ensures_getStack]
      extract_lets state actions
      have fits : actions.toList = [] ∨ lookahead.isError = false := by
        by_cases isError : lookahead.symbol = Table.errorSymbol
        · exact .inl (by simp [actions, actionsFor, isError])
        · exact .inr (by simp [Subtree.isError, isError])
      refine (performActions_sound actions.toList sound stands covers fits (by simp)).bind ?_
      intro outcome changed isSound
      cases outcome with
      | done => exact isSound
      | reduced made =>
          obtain ⟨changedSound, standsChanged, isMade⟩ := isSound
          cases made with
          | none => exact halt_sound changedSound standsChanged
          | some made =>
              obtain ⟨isEarlier, standsMade⟩ := isMade made rfl
              have renumbered : (changed.stack.renumber made version).place? version =
                  some place := by
                rw [place?_renumber isEarlier (lt_of_place? standsMade) isEarlier, if_pos rfl]
                exact standsMade
              have renumberedSound := sound_renumber changedSound.stack made version
              exact inductionHypothesis (changedSound.withStack renumberedSound) renumbered covers
      | stuck =>
          obtain ⟨changedSound, standsChanged⟩ := isSound
          dsimp only
          split_ifs
          · exact inductionHypothesis changedSound standsChanged (covers.withSymbol _ _)
          · exact recover_sound setting changedSound standsChanged covers
          · rw [ensures_modifyStack]
            refine ⟨changedSound.withStack (sound_pause changedSound.stack ?_), ?_⟩
            · exact (position_of_place? standsChanged).1 ▸ covers
            · rw [pause, versionCount_modifyHead]
              exact lt_of_place? standsChanged

theorem advance_sound (sound : parser.Sound setting.source)
    (stands : parser.stack.place? version = some place) :
    Ensures (advance setting version) parser fun _ changed =>
      changed.Sound setting.source ∧ version < changed.stack.versionCount := by
  have isPosition := (position_of_place? stands).1
  unfold advance
  rw [ensures_bind]
  refine (cachedToken_covers sound).mono ?_
  rintro cached _ ⟨rfl, isCached⟩
  cases cached with
  | some token =>
      exact processToken_sound _ sound stands (isPosition ▸ isCached token rfl)
  | none =>
      refine (lexFor_covers sound).bind ?_
      rintro token changed ⟨changedSound, sameStack, covers⟩
      exact processToken_sound _ changedSound (sameStack ▸ stands) (isPosition ▸ covers)

end Tokens

/-! ## Rounds -/

section Rounds

variable {source : Array Char} {setting : Setting} {parser : Parser}

theorem condenseAgainst_sound (right : VersionStatus) (fuel version earlier : Nat)
    (sound : parser.Sound source) :
    Ensures (condenseAgainst right fuel version earlier) parser fun _ changed =>
      changed.Sound source := by
  induction fuel generalizing parser version earlier with
  | zero => exact sound
  | succ fuel inductionHypothesis =>
      rw [condenseAgainst]
      split
      next => exact sound
      next =>
        refine (versionStatus_rests sound earlier).bind fun left compared rests => ?_
        have compared := rests.sound
        cases compareVersions left right with
        | takeLeft => exact compared.withStack (sound_remove compared.stack)
        | preferLeft | neither =>
          dsimp only
          rw [ensures_bind, ensures_getStack]
          split
          next isMerged => exact compared.withStack (sound_merge? compared.stack isMerged).1
          next => exact inductionHypothesis version (earlier + 1) compared
        | preferRight =>
          dsimp only
          rw [ensures_bind, ensures_getStack]
          split
          next isMerged => exact compared.withStack (sound_merge? compared.stack isMerged).1
          next =>
            exact inductionHypothesis version (earlier + 1)
              (compared.withStack (sound_swap compared.stack version earlier))
        | takeRight =>
          exact inductionHypothesis (version - 1) earlier
            (compared.withStack (sound_remove compared.stack))

theorem condenseFrom_sound (fuel version : Nat) (lowest : Option Nat)
    (sound : parser.Sound source) :
    Ensures (condenseFrom fuel version lowest) parser fun _ changed => changed.Sound source := by
  induction fuel generalizing parser version lowest with
  | zero => exact sound
  | succ fuel inductionHypothesis =>
      rw [condenseFrom, ensures_bind, ensures_getStack]
      split_ifs
      · exact sound
      · exact inductionHypothesis version lowest (sound.withStack (sound_remove sound.stack))
      · refine (versionStatus_rests sound version).bind fun status compared rests => ?_
        refine (condenseAgainst_sound status _ version 0 rests.sound).bind ?_
        exact fun next _ condensed => inductionHypothesis next _ condensed

theorem lt_versionCount_of_paused {stack : Stack} {version : Nat} {lookahead : Subtree}
    (isPaused : (stack.head version).status = .paused lookahead) :
    version < stack.versionCount := by
  by_contra isOutside
  rw [Stack.head, Array.getD_eq_getD_getElem?,
    Array.getElem?_eq_none (Nat.not_lt.mp isOutside)] at isPaused
  cases isPaused

theorem resumeFrom_sound (fuel version count : Nat) (hasActive : Bool) (lowest : Option Nat)
    (sound : parser.Sound setting.source) :
    Ensures (resumeFrom setting fuel version count hasActive lowest) parser fun _ changed =>
      changed.Sound setting.source := by
  induction fuel generalizing parser version count hasActive lowest with
  | zero => exact sound
  | succ fuel inductionHypothesis =>
      rw [resumeFrom]
      split
      next => exact sound
      next =>
        rw [ensures_bind, ensures_get]
        dsimp only
        split
        next lookahead isPaused =>
          split
          next =>
            -- A version goes on with the token that it waits with.
            have resumed : (parser.stack.resume version).Sound setting.source :=
              sound_resume sound.stack
            have stands := place?_resume (lt_versionCount_of_paused isPaused)
            have covers := (sound.stack.head version).waits lookahead isPaused
            rw [ensures_bind, ensures_setStack]
            refine (handleError_sound setting (sound.withStack resumed) stands covers).bind ?_
            exact fun _ repaired repairedSound =>
              inductionHypothesis (version + 1) count true _ repairedSound
          next =>
            rw [ensures_bind, ensures_setStack]
            exact inductionHypothesis version (count - 1) hasActive lowest
              (sound.withStack (sound_remove sound.stack))
        next => exact inductionHypothesis (version + 1) count true lowest sound

theorem condense_sound (sound : parser.Sound setting.source) :
    Ensures (condense setting) parser fun _ changed => changed.Sound setting.source := by
  unfold condense
  rw [ensures_bind, ensures_getStack]
  refine (condenseFrom_sound _ 0 none sound).bind fun lowest condensed condensedSound => ?_
  have truncated := condensedSound.withStack
    (sound_truncateVersions condensedSound.stack maxVersions)
  exact resumeFrom_sound _ 0 _ false lowest truncated

theorem advancePast_sound {version : Nat} (fuel last : Nat) (sound : parser.Sound setting.source)
    (inBounds : version < parser.stack.versionCount) :
    Ensures (advancePast setting version fuel last) parser fun _ changed =>
      changed.Sound setting.source := by
  induction fuel generalizing parser last with
  | zero => exact sound
  | succ fuel inductionHypothesis =>
      rw [advancePast, ensures_bind, ensures_getStack]
      split
      next isActive =>
        refine (advance_sound sound (place?_of_isActive inBounds isActive)).bind ?_
        rintro _ advanced ⟨advancedSound, stillInBounds⟩
        rw [ensures_bind, ensures_getStack]
        dsimp only
        split_ifs
        · exact advancedSound
        · exact inductionHypothesis last advancedSound stillInBounds
      next => exact sound

theorem advanceAll_sound (bound fuel version last : Nat) (sound : parser.Sound setting.source) :
    Ensures (advanceAll setting bound fuel version last) parser fun _ changed =>
      changed.Sound setting.source := by
  induction fuel generalizing parser version last with
  | zero => exact sound
  | succ fuel inductionHypothesis =>
      rw [advanceAll, ensures_bind, ensures_getStack]
      split
      next => exact sound
      next isThere =>
        refine (advancePast_sound bound last sound (Nat.not_le.mp isThere)).bind ?_
        exact fun last _ advanced => inductionHypothesis (version + 1) last advanced

theorem rounds_sound (bound fuel last : Nat) (sound : parser.Sound setting.source) :
    Ensures (rounds setting bound fuel last) parser fun _ changed =>
      changed.Sound setting.source := by
  induction fuel generalizing parser last with
  | zero => exact sound
  | succ fuel inductionHypothesis =>
      rw [rounds]
      refine (advanceAll_sound bound bound 0 last sound).bind fun last advanced advancedSound => ?_
      refine (condense_sound advancedSound).bind fun lowest condensed condensedSound => ?_
      rw [ensures_bind, ensures_get]
      dsimp only
      split_ifs
      · exact condensedSound
      · exact inductionHypothesis last condensedSound

/-! ## Results -/

theorem sound_startParser : Parser.Sound source ⟨.start, none, 0, none, false⟩ :=
  ⟨sound_start, by simp, by simp⟩

/-- A tree that the parser finishes covers the text from its beginning, whatever the table. -/
theorem covers_of_parse {table : Table} {tree : Subtree} (parsed : parse table source = some tree) :
    Covers source .zero tree :=
  (@rounds_sound ⟨table, source⟩ _ _ _ 0 sound_startParser).finished tree parsed

/-- Every node of a syntax tree is placed in the text, whatever the table. -/
theorem placed_of_syntaxTree {table : Table} {root : Syntax.Node}
    (isTree : syntaxTree table source = some root) : Syntax.Placed source root := by
  obtain ⟨tree, parsed, shown⟩ := Option.bind_eq_some_iff.mp isTree
  exact placed_of_covers (covers_of_parse parsed) shown

end Rounds

end FunctionAtlas.Parse
