import FunctionAtlas.Proofs.Parse.Popping

/-!
Contract: reading a token, completing a production and ending a version leave the stack sound.

What an action does is said of its result and of the parser after it. Comparing versions moves
none of them; a completed production adds versions where the completed one stands; a version that
ends leaves a tree that covers the text from its beginning.

Owns: properties of what an action comes to, sound parsers, and the actions that are no repairs.
-/

namespace FunctionAtlas.Parse

open FunctionAtlas.Automaton (Table)
open FunctionAtlas.Parse.Stack
open FunctionAtlas.Parse.Subtree
open FunctionAtlas.Text

/-! ## What an action comes to -/

/-- An action has a result and leaves the parser in a state of which a property holds. -/
def Ensures {α : Type} (action : ParseM α) (parser : Parser) (property : α → Parser → Prop) :
    Prop :=
  property (action.run parser).1 (action.run parser).2

section Ensures

variable {α β : Type} {parser : Parser} {property : α → Parser → Prop}

theorem Ensures.mono {action : ParseM α} {weaker : α → Parser → Prop}
    (ensures : Ensures action parser property)
    (implies : ∀ result changed, property result changed → weaker result changed) :
    Ensures action parser weaker :=
  implies _ _ ensures

theorem Ensures.bind {action : ParseM α} {next : α → ParseM β} {last : β → Parser → Prop}
    (ensures : Ensures action parser property)
    (continues : ∀ result changed, property result changed →
      Ensures (next result) changed last) :
    Ensures (action >>= next) parser last :=
  continues _ _ ensures

@[simp] theorem ensures_pure {result : α} :
    Ensures (pure result) parser property ↔ property result parser := Iff.rfl

@[simp] theorem ensures_bind {action : ParseM α} {next : α → ParseM β}
    {property : β → Parser → Prop} :
    Ensures (action >>= next) parser property ↔
      Ensures action parser fun result changed => Ensures (next result) changed property := Iff.rfl

@[simp] theorem ensures_get {property : Parser → Parser → Prop} :
    Ensures get parser property ↔ property parser parser := Iff.rfl

@[simp] theorem ensures_set {changed : Parser} {property : PUnit → Parser → Prop} :
    Ensures (set changed) parser property ↔ property () changed := Iff.rfl

@[simp] theorem ensures_modify {change : Parser → Parser} {property : PUnit → Parser → Prop} :
    Ensures (modify change) parser property ↔ property () (change parser) := Iff.rfl

@[simp] theorem ensures_getStack {property : Stack → Parser → Prop} :
    Ensures getStack parser property ↔ property parser.stack parser := Iff.rfl

@[simp] theorem ensures_setStack {stack : Stack} {property : Unit → Parser → Prop} :
    Ensures (setStack stack) parser property ↔ property () { parser with stack } := Iff.rfl

@[simp] theorem ensures_modifyStack {change : Stack → Stack} {property : Unit → Parser → Prop} :
    Ensures (modifyStack change) parser property ↔
      property () { parser with stack := change parser.stack } := Iff.rfl

end Ensures

/-! ## Sound parsers -/

/-- The stack is sound, the last token covers the text from where it was read, and a finished tree
covers the text from its beginning. -/
structure Parser.Sound (source : Array Char) (parser : Parser) : Prop where
  stack : parser.stack.Sound source
  cache : ∀ cached ∈ parser.cache, ∃ place : Extent, place.bytes = cached.bytes ∧
    Covers source place cached.token
  finished : ∀ tree ∈ parser.finished, Covers source .zero tree

theorem Parser.Sound.withStack {source : Array Char} {parser : Parser}
    (sound : parser.Sound source) {stack : Stack} (stackSound : stack.Sound source) :
    Parser.Sound source { parser with stack } :=
  ⟨stackSound, sound.cache, sound.finished⟩

/-- The parser stays sound, and the versions before a number stay where they are. -/
structure Keeping (source : Array Char) (count : Nat) (parser changed : Parser) : Prop where
  sound : changed.Sound source
  keeps : Keeps count parser.stack changed.stack

section Keeping

variable {source : Array Char} {parser changed : Parser} {count : Nat}

theorem Keeping.refl (sound : parser.Sound source) (count : Nat) :
    Keeping source count parser parser :=
  ⟨sound, .refl count _⟩

theorem Keeping.trans {further : Parser} (first : Keeping source count parser changed)
    (second : Keeping source count changed further) : Keeping source count parser further :=
  ⟨second.sound, first.keeps.trans second.keeps⟩

end Keeping

/-! ## Comparing versions -/

/-- No version moves. -/
def Resting (source : Array Char) (parser changed : Parser) : Prop :=
  ∀ count, Keeping source count parser changed

section Compare

variable {source : Array Char} {parser changed : Parser}

theorem Resting.refl (sound : parser.Sound source) : Resting source parser parser :=
  fun count => Keeping.refl sound count

theorem Resting.sound (rests : Resting source parser changed) : changed.Sound source :=
  (rests 0).sound

theorem Resting.place? (rests : Resting source parser changed) {version : Nat} {place : Extent}
    (stands : parser.stack.place? version = some place) :
    changed.stack.place? version = some place :=
  (rests (version + 1)).keeps version (Nat.lt_succ_self _) place stands

theorem Resting.trans {further : Parser} (first : Resting source parser changed)
    (second : Resting source changed further) : Resting source parser further :=
  fun count => (first count).trans (second count)

/-- All versions are kept if those that are there are. -/
theorem Keeping.resting (keeping : Keeping source parser.stack.versionCount parser changed) :
    Resting source parser changed :=
  fun count => ⟨keeping.sound, keeping.keeps.all count⟩

theorem resting_withStack (sound : parser.Sound source) {stack : Stack}
    (rests : stack.Sound source ∧ ∀ other, stack.place? other = parser.stack.place? other) :
    Resting source parser { parser with stack } :=
  fun _ => ⟨sound.withStack rests.1, fun other _ _ stands => (rests.2 other).trans stands⟩

theorem countSinceError_rests (sound : parser.Sound source) (version : Nat) :
    Ensures (countSinceError version) parser fun _ => Resting source parser := by
  have rests : (parser.stack.countSinceError version).2.Sound source ∧
      ∀ other, (parser.stack.countSinceError version).2.place? other =
        parser.stack.place? other := by
    unfold Stack.countSinceError
    dsimp only
    split_ifs
    · exact rests_modifyHead sound.stack (fun _ => rfl) fun _ => rfl
    · exact ⟨sound.stack, fun _ => rfl⟩
  exact resting_withStack sound rests

theorem versionStatus_rests (sound : parser.Sound source) (version : Nat) :
    Ensures (versionStatus version) parser fun _ => Resting source parser :=
  countSinceError_rests sound version

theorem betterAmong_rests (sound : parser.Sound source) (version : Nat) (status : VersionStatus)
    (position : Extent) (others : List Nat) :
    Ensures (betterAmong version status position others) parser fun _ =>
      Resting source parser := by
  induction others generalizing parser with
  | nil => exact .refl sound
  | cons other rest inductionHypothesis =>
      rw [betterAmong]
      simp only [ensures_bind, ensures_getStack]
      split_ifs
      · exact inductionHypothesis sound
      · refine (versionStatus_rests sound other).bind fun otherStatus changed rests => ?_
        have later := (inductionHypothesis rests.sound).mono fun _ _ => rests.trans
        split
        · exact rests
        · simp only [ensures_bind, ensures_getStack]
          split_ifs
          · exact rests
          · exact later
        · exact later

theorem betterExists_rests (sound : parser.Sound source) (version cost : Nat) :
    Ensures (betterExists version cost) parser fun _ => Resting source parser := by
  unfold betterExists
  simp only [ensures_bind, ensures_get]
  split_ifs
  · exact .refl sound
  · refine (countSinceError_rests sound version).bind fun _ changed rests => ?_
    exact (betterAmong_rests rests.sound version _ _ _).mono fun _ _ => rests.trans

end Compare

/-! ## Reading -/

section Read

variable {source : Array Char} {parser : Parser} {version : Nat} {place : Extent}

/-- What else a head remembers after a token does not matter for where it stands. -/
theorem rememberLayout_rests (sound : parser.Sound source) (layout : Option Layout) :
    Ensures
      (match layout with
      | some layout =>
          modifyStack fun stack =>
            stack.modifyHead version fun head => { head with layout := some layout }
      | none => pure ())
      parser fun _ => Resting source parser := by
  cases layout with
  | none => exact .refl sound
  | some layout =>
      exact resting_withStack sound (rests_modifyHead sound.stack (fun _ => rfl) fun _ => rfl)

theorem pushTree_row (sound : parser.Sound source) {stop : Extent} {tree : Option Subtree}
    {state : Nat} (stands : parser.stack.place? version = some place)
    (row : Row source place stop tree.toList) :
    Ensures (pushTree version tree state) parser fun _ changed =>
      changed.Sound source ∧ changed.stack.place? version = some stop := by
  obtain ⟨pushed, moved, -⟩ := push_row sound.stack stands row
  exact ⟨sound.withStack pushed, moved⟩

theorem shift_sound (sound : parser.Sound source) {state : Nat} {lookahead : Subtree}
    {isExtra : Bool} (stands : parser.stack.place? version = some place)
    (covers : Covers source place lookahead) (isRight : lookahead.isError = false) :
    Ensures (shift version state lookahead isExtra) parser fun _ changed =>
      changed.Sound source ∧ version < changed.stack.versionCount := by
  have row : Row source place (place.add lookahead.totalSize)
      [if isExtra = lookahead.isExtra then lookahead else lookahead.setExtra isExtra] := by
    have ofLookahead := row_singleton covers (.ofSymbol isRight)
    split_ifs
    · exact ofLookahead
    · exact ofLookahead.congr rfl rfl rfl rfl
  refine (pushTree_row sound stands row).bind fun _ changed pushed => ?_
  refine (rememberLayout_rests pushed.1 _).mono fun _ further rests => ?_
  exact ⟨rests.sound, lt_of_place? (rests.place? pushed.2)⟩

end Read

/-! ## Completing productions -/

section Complete

variable {source : Array Char} {origin stop : Extent}

theorem row_splitTrailingExtras {trees : List Subtree} (row : Row source origin stop trees) :
    ∃ middle, Row source origin middle (splitTrailingExtras trees).1 ∧
      Row source middle stop (splitTrailingExtras trees).2 :=
  row_append.mp ((splitTrailingExtras_append trees).symm ▸ row)

/-- A parent over one of several lists of children, with the extras after it, covers what each
list covers. -/
theorem row_bestParent (isOrigin : IsPlace source origin) (table : Table) (symbol shape : Nat)
    {first : List Subtree} (row : Row source origin stop first) {others : List Slice}
    (rows : ∀ slice ∈ others, Row source origin stop slice.trees) :
    Row source origin stop
      ((bestParent table symbol shape first others).1 ::
        (bestParent table symbol shape first others).2) := by
  have parentOf : ∀ trees, Row source origin stop trees → Row source origin stop
      (Subtree.make table symbol (splitTrailingExtras trees).1 shape ::
        (splitTrailingExtras trees).2) := by
    intro trees row
    obtain ⟨middle, children, extras⟩ := row_splitTrailingExtras row
    exact row_append.mpr ⟨middle, children.make isOrigin table symbol shape, extras⟩
  unfold bestParent
  dsimp only
  generalize isBest : (Subtree.make table symbol (splitTrailingExtras first).1 shape,
    (splitTrailingExtras first).2) = best
  have bestRow : Row source origin stop (best.1 :: best.2) := isBest ▸ parentOf first row
  clear isBest
  induction others generalizing best with
  | nil => exact bestRow
  | cons slice rest inductionHypothesis =>
      rw [List.foldl_cons]
      refine inductionHypothesis (fun other member => rows other (List.mem_cons_of_mem _ member)) _ ?_
      split_ifs
      · exact parentOf _ (rows slice List.mem_cons_self)
      · exact bestRow

theorem mergeIntoEarlier_eq_some {except version : Nat} {earlier : List Nat} {stack merged : Stack}
    (found : mergeIntoEarlier except version earlier stack = some merged) :
    ∃ target ∈ earlier, stack.merge? target version = some merged := by
  induction earlier with
  | nil => cases found
  | cons first rest inductionHypothesis =>
      have later : mergeIntoEarlier except version rest stack = some merged →
          ∃ target ∈ first :: rest, stack.merge? target version = some merged := by
        intro found
        obtain ⟨target, member, isMerged⟩ := inductionHypothesis found
        exact ⟨target, List.mem_cons_of_mem first member, isMerged⟩
      rw [mergeIntoEarlier] at found
      split_ifs at found
      · exact later found
      · split at found
        next isMerged =>
          cases found
          exact ⟨first, List.mem_cons_self, isMerged⟩
        next => exact later found

theorem sameVersion_append (version : Nat) (slices : List Slice) :
    (sameVersion version slices).1 ++ (sameVersion version slices).2 = slices := by
  induction slices with
  | nil => rfl
  | cons slice rest inductionHypothesis =>
      rw [sameVersion]
      split_ifs
      · exact congrArg (slice :: ·) inductionHypothesis
      · rfl

theorem version_of_mem_sameVersion {version : Nat} {slices : List Slice} {slice : Slice}
    (member : slice ∈ (sameVersion version slices).1) : slice.version = version := by
  induction slices with
  | nil => cases member
  | cons first rest inductionHypothesis =>
      rw [sameVersion] at member
      split_ifs at member with isSame
      · rcases List.mem_cons.mp member with rfl | isLater
        · exact isSame
        · exact inductionHypothesis isLater
      · cases member

/-- The slices after those of a version are of later versions. -/
theorem lt_version_of_mem_others {version : Nat} {slices : List Slice}
    (ordered : slices.Pairwise fun left right => left.version ≤ right.version)
    (after : ∀ slice ∈ slices, version ≤ slice.version) {slice : Slice}
    (member : slice ∈ (sameVersion version slices).2) : version < slice.version := by
  induction slices with
  | nil => cases member
  | cons first rest inductionHypothesis =>
      rw [sameVersion] at member
      obtain ⟨isLeast, orderedRest⟩ := List.pairwise_cons.mp ordered
      have isFirst := after first List.mem_cons_self
      split_ifs at member with isSame
      · exact inductionHypothesis orderedRest
          (fun other isOther => after other (List.mem_cons_of_mem first isOther)) member
      · rcases List.mem_cons.mp member with rfl | isLater
        · omega
        · have := isLeast slice isLater
          omega

/-- The versions from a number on either stand at a place already or still have slices to be
completed up to that place. Versions were removed since the slices were made. -/
structure Pending (source : Array Char) (first : Nat) (stop : Extent) (removed : Nat)
    (slices : List Slice) (stack : Stack) : Prop where
  ordered : slices.Pairwise fun left right => left.version ≤ right.version
  rows : ∀ slice ∈ slices, ∃ version origin, slice.version = version + removed ∧ first ≤ version ∧
    stack.place? version = some origin ∧ Row source origin stop slice.trees
  others : ∀ version, first ≤ version → version < stack.versionCount →
    stack.place? version = some stop ∨ ∃ slice ∈ slices, slice.version = version + removed

section Pending

variable {first removed version : Nat} {slice : Slice} {rest slices : List Slice}
  {stack moved changed : Stack}

theorem pending_of_popped {taken : Path → Prop} {popped : Stack}
    (isPopped : Popped stack taken slices popped)
    (takenSound : ∀ path, taken path → path.Sound source stack.nodes stop) :
    Pending source stack.versionCount stop 0 slices popped where
  ordered := isPopped.ordered
  rows := fun slice member => by
    obtain ⟨origin, stands, row⟩ := isPopped.slice takenSound member
    exact ⟨slice.version, origin, rfl, (isPopped.ends slice member).1, stands, row⟩
  others := fun version isFresh inBounds =>
    .inr (isPopped.fresh version _ isFresh (Array.getElem?_eq_getElem inBounds)).2

theorem le_version_of_mem
    (ordered : (slice :: rest).Pairwise fun left right => left.version ≤ right.version)
    {other : Slice} (member : other ∈ slice :: rest) : slice.version ≤ other.version := by
  rcases List.mem_cons.mp member with rfl | isRest
  · exact Nat.le_refl _
  · exact (List.pairwise_cons.mp ordered).1 other isRest

theorem mem_others_iff
    (ordered : (slice :: rest).Pairwise fun left right => left.version ≤ right.version)
    {other : Slice} :
    other ∈ (sameVersion slice.version rest).2 ↔
      other ∈ slice :: rest ∧ slice.version < other.version := by
  obtain ⟨isLeast, orderedRest⟩ := List.pairwise_cons.mp ordered
  have parts := sameVersion_append slice.version rest
  constructor
  · intro member
    refine ⟨?_, lt_version_of_mem_others orderedRest isLeast member⟩
    exact List.mem_cons_of_mem slice (parts ▸ List.mem_append_right _ member)
  · rintro ⟨member, isLater⟩
    rcases List.mem_cons.mp member with rfl | isRest
    · exact absurd isLater (Nat.lt_irrefl _)
    · rw [← parts] at isRest
      rcases List.mem_append.mp isRest with isSame | isOther
      · exact absurd isLater (Nat.not_lt.mpr (Nat.le_of_eq (version_of_mem_sameVersion isSame)))
      · exact isOther

theorem ordered_others
    (ordered : (slice :: rest).Pairwise fun left right => left.version ≤ right.version) :
    (sameVersion slice.version rest).2.Pairwise fun left right => left.version ≤ right.version := by
  have orderedRest := (List.pairwise_cons.mp ordered).2
  rw [← sameVersion_append slice.version rest] at orderedRest
  exact (List.pairwise_append.mp orderedRest).2.1

/-- The best parent over the slices of the first version, with the extras after it, leads from
where this version stands to the common place. -/
theorem Pending.row_completed (pending : Pending source first stop removed (slice :: rest) stack)
    (isOrigin : IsPlace source origin) (isVersion : slice.version = version + removed)
    (stands : stack.place? version = some origin) (table : Table) (symbol shape : Nat)
    (precedence : Int) :
    Row source origin stop
      ((bestParent table symbol shape slice.trees
          (sameVersion slice.version rest).1).1.addDynamicPrecedence precedence ::
        (bestParent table symbol shape slice.trees (sameVersion slice.version rest).1).2) := by
  have rows : ∀ other ∈ slice :: rest, other.version = slice.version →
      Row source origin stop other.trees := by
    intro other member sameVersion
    obtain ⟨otherVersion, otherOrigin, isOther, -, standsOther, row⟩ := pending.rows other member
    obtain rfl : otherVersion = version := by omega
    rw [stands] at standsOther
    exact Option.some.inj standsOther ▸ row
  have sameRows : ∀ other ∈ (sameVersion slice.version rest).1,
      Row source origin stop other.trees := by
    intro other member
    have isRest : other ∈ rest :=
      sameVersion_append slice.version rest ▸ List.mem_append_left _ member
    exact rows other (List.mem_cons_of_mem slice isRest) (version_of_mem_sameVersion member)
  obtain ⟨middle, parent, extras⟩ := row_cons.mp
    (row_bestParent isOrigin table symbol shape (rows slice List.mem_cons_self rfl) sameRows)
  exact row_cons.mpr ⟨middle, parent.congr rfl rfl rfl rfl, extras⟩

/-- The slices of the first version are completed. -/
theorem Pending.complete (pending : Pending source first stop removed (slice :: rest) stack)
    (isVersion : slice.version = version + removed) (stands : moved.place? version = some stop)
    (same : ∀ other ≠ version, moved.place? other = stack.place? other)
    (sameCount : moved.versionCount = stack.versionCount) :
    Pending source first stop removed (sameVersion slice.version rest).2 moved where
  ordered := ordered_others pending.ordered
  rows := fun other member => by
    obtain ⟨isOld, isLater⟩ := (mem_others_iff pending.ordered).mp member
    obtain ⟨otherVersion, origin, isOther, isFresh, standsOther, row⟩ := pending.rows other isOld
    refine ⟨otherVersion, origin, isOther, isFresh, ?_, row⟩
    rw [same otherVersion (by omega)]
    exact standsOther
  others := fun other isFresh inBounds => by
    by_cases isSame : other = version
    · exact .inl (isSame ▸ stands)
    · rw [same other isSame]
      refine (pending.others other isFresh (sameCount ▸ inBounds)).imp_right ?_
      rintro ⟨known, isKnown, knownVersion⟩
      have isLeast := le_version_of_mem pending.ordered isKnown
      exact ⟨known, (mem_others_iff pending.ordered).mpr ⟨isKnown, by omega⟩, knownVersion⟩

/-- The first version is removed with its slices. -/
theorem Pending.drop (pending : Pending source first stop removed (slice :: rest) stack)
    (isVersion : slice.version = version + removed)
    (same : ∀ other ≠ version, moved.place? other = stack.place? other)
    (isRemoved : ∀ other, changed.place? other = (moved.remove version).place? other)
    (count : changed.versionCount + 1 = stack.versionCount) :
    Pending source first stop (removed + 1) (sameVersion slice.version rest).2 changed where
  ordered := ordered_others pending.ordered
  rows := fun other member => by
    obtain ⟨isOld, isLater⟩ := (mem_others_iff pending.ordered).mp member
    obtain ⟨otherVersion, origin, isOther, isFresh, standsOther, row⟩ := pending.rows other isOld
    obtain ⟨_, _, isFirst, isFreshFirst, -, -⟩ := pending.rows slice List.mem_cons_self
    obtain ⟨earlier, rfl⟩ : ∃ earlier, otherVersion = earlier + 1 := ⟨otherVersion - 1, by omega⟩
    refine ⟨earlier, origin, by omega, by omega, ?_, row⟩
    rw [isRemoved, place?_remove, if_neg (by omega), same (earlier + 1) (by omega)]
    exact standsOther
  others := fun other isFresh inBounds => by
    rw [isRemoved, place?_remove]
    split_ifs with before
    · rw [same other (by omega)]
      refine (pending.others other isFresh (by omega)).imp_right ?_
      rintro ⟨known, isKnown, knownVersion⟩
      have isLeast := le_version_of_mem pending.ordered isKnown
      omega
    · rw [same (other + 1) (by omega)]
      refine (pending.others (other + 1) (by omega) (by omega)).imp_right ?_
      rintro ⟨known, isKnown, knownVersion⟩
      exact ⟨known, (mem_others_iff pending.ordered).mpr ⟨isKnown, by omega⟩, by omega⟩

end Pending

section Reduce

variable {parser : Parser}

/-- Completing a production over all slices leaves every version that it made at the same place. -/
theorem completeSlices_spec (setting : Setting) (version : Nat) (completion : Completion)
    {first : Nat} (fuel : Nat) {removed : Nat} {slices : List Slice}
    (sound : parser.Sound source) (first_le : first ≤ parser.stack.versionCount)
    (pending : Pending source first stop removed slices parser.stack)
    (isEnough : slices.length < fuel) :
    Ensures (completeSlices setting version completion fuel removed slices) parser
      fun _ changed => Keeping source first parser changed ∧
        first ≤ changed.stack.versionCount ∧
        ∀ made, first ≤ made → made < changed.stack.versionCount →
          changed.stack.place? made = some stop := by
  induction fuel generalizing removed slices parser with
  | zero => exact absurd isEnough (Nat.not_lt_zero _)
  | succ fuel inductionHypothesis =>
      cases slices with
      | nil =>
          refine ⟨.refl sound first, first_le, fun made isMade inBounds => ?_⟩
          exact (pending.others made isMade inBounds).resolve_right (by simp)
      | cons slice rest =>
          have goesOn : ∀ {removed : Nat} {stack : Stack}, stack.Sound source →
              Keeps first parser.stack stack → first ≤ stack.versionCount →
              Pending source first stop removed (sameVersion slice.version rest).2 stack →
              Ensures (completeSlices setting version completion fuel removed
                (sameVersion slice.version rest).2) { parser with stack }
                fun _ changed => Keeping source first parser changed ∧
                  first ≤ changed.stack.versionCount ∧
                  ∀ made, first ≤ made → made < changed.stack.versionCount →
                    changed.stack.place? made = some stop := by
            intro removed stack stackSound keeps first_le pending
            refine (inductionHypothesis (sound.withStack stackSound) first_le pending ?_).mono ?_
            · have lengths := congrArg List.length (sameVersion_append slice.version rest)
              rw [List.length_append] at lengths
              rw [List.length_cons] at isEnough
              omega
            · rintro _ changed ⟨keeping, places⟩
              exact ⟨⟨keeping.sound, keeps.trans keeping.keeps⟩, places⟩
          obtain ⟨sliceVersion, origin, isVersion, isFresh, stands, row⟩ :=
            pending.rows slice List.mem_cons_self
          have isSliceVersion : slice.version - removed = sliceVersion := by omega
          have inBounds := lt_of_place? stands
          rw [completeSlices]
          dsimp only
          rw [isSliceVersion]
          split_ifs
          · have count := versionCount_remove inBounds
            have first_le : first ≤ (parser.stack.remove sliceVersion).versionCount := by omega
            refine goesOn (sound_remove sound.stack) (keeps_remove.of_le isFresh) first_le ?_
            exact pending.drop isVersion (fun _ _ => rfl) (fun _ => rfl) count
          · have isOrigin : IsPlace source origin :=
              (position_of_place? stands).1 ▸ sound.stack.isPlace sliceVersion
            have bestRow := pending.row_completed isOrigin isVersion stands setting.table
              completion.symbol completion.shape completion.dynamicPrecedence
            obtain ⟨pushed, moved, same, sameCount⟩ := foldl_push_row
              (nextState setting.table (parser.stack.state sliceVersion) completion.symbol)
              sound.stack stands bestRow
            simp only [ensures_bind, ensures_getStack]
            rw [List.foldl_cons] at pushed moved same sameCount
            generalize List.foldl _ (parser.stack.push sliceVersion _ _) _ = completed
              at pushed moved same sameCount ⊢
            split
            next merged isMerged =>
              obtain ⟨_, -, isMerged⟩ := mergeIntoEarlier_eq_some isMerged
              obtain ⟨mergedSound, mergedPlaces, mergedCount⟩ := sound_merge? pushed isMerged
              have count := versionCount_remove (lt_of_place? moved)
              rw [← mergedCount, sameCount] at count
              refine goesOn mergedSound (fun other before place standsOther => ?_) (by omega)
                (pending.drop isVersion same mergedPlaces count)
              rw [mergedPlaces, place?_remove, if_pos (Nat.lt_of_lt_of_le before isFresh),
                same other (by omega)]
              exact standsOther
            next =>
              refine goesOn pushed (fun other before place standsOther => ?_) (by omega)
                (pending.complete isVersion moved same sameCount)
              rw [same other (by omega)]
              exact standsOther

/-- Completing a production moves no version, and the versions that it makes stand where the
completed one stands. -/
theorem reduce_spec (setting : Setting) (version : Nat) (completion : Completion)
    (sound : parser.Sound source) :
    Ensures (reduce setting version completion) parser fun result changed =>
      Resting source parser changed ∧
        parser.stack.versionCount ≤ changed.stack.versionCount ∧
        ∀ made ∈ result, parser.stack.versionCount ≤ made ∧
          changed.stack.place? made = some (parser.stack.position version) := by
  have isPopped := popped_popCount sound.stack version completion.childCount
  have popped := isPopped.sound sound.stack fun path isTaken => isTaken.inBounds
  have pending := pending_of_popped isPopped fun path isTaken => isTaken
  unfold reduce
  simp only [ensures_bind, ensures_getStack, ensures_setStack]
  refine (completeSlices_spec setting version completion _ (sound.withStack popped)
    isPopped.count_le pending (Nat.lt_succ_self _)).mono ?_
  rintro _ changed ⟨keeping, count_le, places⟩
  rw [ensures_pure]
  refine ⟨Keeping.resting ⟨keeping.sound, isPopped.keeps.trans keeping.keeps⟩, count_le, ?_⟩
  intro made isMade
  split_ifs at isMade with isMore
  · cases isMade
    exact ⟨Nat.le_refl _, places _ (Nat.le_refl _) isMore⟩
  · cases isMade

end Reduce

end Complete

/-! ## Ending a version -/

section Accept

variable {source : Array Char} {parser : Parser} {version : Nat} {place : Extent}

theorem covers_rootOf {table : Table} {stop : Extent} {trees : List Subtree} {root : Subtree}
    (row : Row source .zero stop trees) (found : rootOf table trees = some root) :
    Covers source .zero root := by
  unfold rootOf at found
  dsimp only at found
  split at found
  next => cases found
  next tree before isBefore =>
    split_ifs at found with isToken
    cases found
    have isTrees : trees = before.reverse ++ [tree] ++
        (trees.reverse.takeWhile (·.isExtra)).reverse := by
      rw [← List.reverse_cons, ← isBefore, ← List.reverse_append,
        List.takeWhile_append_dropWhile, List.reverse_reverse]
    have isInner : tree.children ≠ [] ∨ tree.totalSize.bytes = 0 := by
      simp only [Bool.and_eq_true, List.isEmpty_iff, decide_eq_true_eq, not_and, Nat.not_lt,
        Nat.le_zero] at isToken
      exact or_iff_not_imp_left.mpr fun isEmpty => isToken (not_not.mp isEmpty)
    have cover := row.covers
    rw [isTrees, coverBetween_append] at cover
    obtain ⟨afterTree, upToTree, after⟩ := cover
    obtain ⟨beforeTree, upTo, single⟩ := coverBetween_append.mp upToTree
    obtain ⟨covers, toStop⟩ := coverBetween_singleton.mp single
    have inner := coverBetween_append.mpr ⟨beforeTree, upTo, toStop ▸ covers.children isInner⟩
    exact (covers_make isPlace_zero (coverBetween_append.mpr ⟨afterTree, inner, after⟩) table
      tree.symbol tree.summary.shape).1

theorem mem_foldl_finished {roots : List Subtree} {finished : Option Subtree} {tree : Subtree}
    (member : tree ∈ roots.foldl
      (fun finished root =>
        match finished with
        | none => some root
        | some known => if known.isWorseThan root then some root else some known)
      finished) :
    tree ∈ finished ∨ tree ∈ roots := by
  induction roots generalizing finished with
  | nil => exact .inl member
  | cons root rest inductionHypothesis =>
      rw [List.foldl_cons] at member
      rcases inductionHypothesis member with isNew | isRest
      · have isOne : tree ∈ finished ∨ tree = root := by
          cases finished with
          | none => exact .inr (Option.some.inj isNew).symm
          | some known =>
              dsimp only at isNew
              split_ifs at isNew
              · exact .inr (Option.some.inj isNew).symm
              · exact .inl isNew
        exact isOne.imp_right fun isRoot => List.mem_cons.mpr (.inl isRoot)
      · exact .inr (List.mem_cons_of_mem root isRest)

/-- Removing the version of the first slice keeps the versions before it where they stand. -/
theorem removeFirst_keeps {stack : Stack} {slices : List Slice} (sound : stack.Sound source)
    (stands : stack.place? version = some place)
    (isBefore : ∀ slice ∈ slices, version < slice.version) :
    (match slices with
      | slice :: _ => stack.remove slice.version
      | [] => stack).Sound source ∧
    (match slices with
      | slice :: _ => stack.remove slice.version
      | [] => stack).place? version = some place := by
  cases slices with
  | nil => exact ⟨sound, stands⟩
  | cons slice others =>
      exact ⟨sound_remove sound, keeps_remove version (isBefore slice List.mem_cons_self) _ stands⟩

/-- A finished tree covers the text from its beginning. -/
theorem accept_sound (setting : Setting) {lookahead : Subtree} (sound : parser.Sound source)
    (stands : parser.stack.place? version = some place) (covers : Covers source place lookahead)
    (isRight : lookahead.isError = false) :
    Ensures (accept setting version lookahead) parser fun _ changed =>
      changed.Sound source ∧ version < changed.stack.versionCount := by
  unfold accept
  refine (pushTree_row sound stands (row_singleton covers (.ofSymbol isRight))).bind ?_
  rintro _ pushed ⟨pushedSound, moved⟩
  have isPopped := popped_popAll pushedSound.stack version
  have popped := isPopped.sound pushedSound.stack fun path isTaken => isTaken.1.inBounds
  simp only [ensures_bind, ensures_getStack, ensures_modify]
  generalize pushed.stack.popAll version = result at isPopped popped ⊢
  have ended := removeFirst_keeps popped (isPopped.keeps version (lt_of_place? moved) _ moved)
    fun slice isSlice => Nat.lt_of_lt_of_le (lt_of_place? moved) (isPopped.ends slice isSlice).1
  refine ⟨⟨sound_halt ended.1, pushedSound.cache, fun tree isFinished => ?_⟩, ?_⟩
  · rcases mem_foldl_finished isFinished with isOld | isMade
    · exact pushedSound.finished tree isOld
    · obtain ⟨slice, isSlice, isRoot⟩ := List.mem_filterMap.mp isMade
      obtain ⟨-, path, -, ⟨pathSound, isZero⟩, sameTrees, -, -⟩ := isPopped.ends slice isSlice
      have row := pathSound.row
      rw [isZero, sameTrees] at row
      exact covers_rootOf row isRoot
  · exact lt_of_place? (keeps_halt (version + 1) version (Nat.lt_succ_self _) _ ended.2)

end Accept

end FunctionAtlas.Parse
