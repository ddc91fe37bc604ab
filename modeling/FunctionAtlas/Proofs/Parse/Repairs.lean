import FunctionAtlas.Proofs.Parse.Actions

/-!
Contract: repairs leave the stack sound.

A repair puts in a token that covers no text, wraps text that was read already, or wraps a token
that is left out. Trial completions and attempts that fail only add and remove versions after
those that were there, so the version that is repaired stays where it is until it is repaired.

Owns: the places of versions during every step of a repair.
-/

namespace FunctionAtlas.Parse

open FunctionAtlas.Automaton (Table)
open FunctionAtlas.Parse.Stack
open FunctionAtlas.Parse.Subtree
open FunctionAtlas.Text

section Repairs

variable {source : Array Char} {parser changed : Parser} {version : Nat}

/-! ## Trial completions -/

/-- A version that completing productions made after all others. -/
structure Made (parser changed : Parser) (version made : Nat) : Prop where
  isLater : parser.stack.versionCount ≤ made
  stands : ∃ place, changed.stack.place? made = some place ∧
    ∀ known, parser.stack.place? version = some known → place = known

theorem reduceAll_spec (setting : Setting) (version : Nat) (completions : List Completion)
    (sound : parser.Sound source) :
    Ensures
      (completions.foldlM (fun _ completion => reduce setting version completion)
        (none : Option Nat))
      parser fun result changed =>
        Resting source parser changed ∧
          parser.stack.versionCount ≤ changed.stack.versionCount ∧
          ∀ made ∈ result, Made parser changed version made := by
  have loop : ∀ (completions : List Completion) (result : Option Nat) (current : Parser),
      Resting source parser current → parser.stack.versionCount ≤ current.stack.versionCount →
      (∀ made ∈ result, Made parser current version made) →
      Ensures
        (completions.foldlM (fun _ completion => reduce setting version completion) result)
        current fun result changed =>
          Resting source parser changed ∧
            parser.stack.versionCount ≤ changed.stack.versionCount ∧
            ∀ made ∈ result, Made parser changed version made := by
    intro completions
    induction completions with
    | nil => exact fun result current rests count_le isMade => ⟨rests, count_le, isMade⟩
    | cons completion rest inductionHypothesis =>
        intro result current rests count_le isMade
        rw [List.foldlM_cons]
        refine (reduce_spec setting version completion rests.sound).bind ?_
        rintro result further ⟨restsLater, laterCount, isLater⟩
        refine inductionHypothesis result further (rests.trans restsLater)
          (Nat.le_trans count_le laterCount) fun made member => ?_
        obtain ⟨after, stands⟩ := isLater made member
        refine ⟨Nat.le_trans count_le after, _, stands, fun known standsKnown => ?_⟩
        exact (position_of_place? (rests.place? standsKnown)).1
  exact loop completions none parser (.refl sound) (Nat.le_refl _) (by simp)

/-- A version that was made may take the place of the one that it was made from. -/
theorem Made.renumber {made : Nat} (isMade : Made parser changed version made)
    (inBounds : version < parser.stack.versionCount) (rests : Resting source parser changed) :
    Resting source parser { changed with stack := changed.stack.renumber made version } ∧
      parser.stack.versionCount ≤ (changed.stack.renumber made version).versionCount := by
  obtain ⟨place, stands, isKnown⟩ := isMade.stands
  have isEarlier : version < made := Nat.lt_of_lt_of_le inBounds isMade.isLater
  have count := versionCount_renumber isEarlier (lt_of_place? stands)
  have madeBounds := lt_of_place? stands
  refine ⟨Keeping.resting ⟨rests.sound.withStack (sound_renumber rests.sound.stack _ _), ?_⟩, ?_⟩
  · intro other before known standsOther
    have beforeMade : other < made := Nat.lt_of_lt_of_le before isMade.isLater
    rw [place?_renumber isEarlier madeBounds beforeMade]
    split_ifs with isSame
    · rw [stands, isKnown known (isSame ▸ standsOther)]
    · exact rests.place? standsOther
  · have later := isMade.isLater
    omega

theorem mem_drop_range {count first number : Nat} (member : number ∈ (List.range count).drop first) :
    first ≤ number ∧ number < count := by
  obtain ⟨index, inBounds, rfl⟩ := List.mem_iff_getElem.mp member
  rw [List.length_drop, List.length_range] at inBounds
  rw [List.getElem_drop, List.getElem_range]
  omega

/-- Trial completions keep the versions before the first one that they make. With a given next
token, the version that they start from may be removed. -/
theorem completeAll_spec (setting : Setting) {starting first lookahead kept : Nat}
    (isEarlier : starting < first) (kept_le : kept ≤ first)
    (keepsStart : lookahead ≠ 0 → kept ≤ starting) (fuel round : Nat) (canShift : Bool)
    (sound : parser.Sound source)
    (isTrial : version = starting ∧ first ≤ parser.stack.versionCount ∨ first ≤ version) :
    Ensures (completeAll setting starting first lookahead fuel round version canShift) parser
      fun _ changed => Keeping source kept parser changed := by
  induction fuel generalizing round version canShift parser with
  | zero => exact .refl sound kept
  | succ fuel inductionHypothesis =>
      have goesOn : ∀ {after : Parser} (next round : Nat) (canShift : Bool),
          Keeping source kept parser after →
          (next = starting ∧ first ≤ after.stack.versionCount ∨ first ≤ next) →
          Ensures (completeAll setting starting first lookahead fuel round next canShift) after
            fun _ changed => Keeping source kept parser changed := by
        intro after next round canShift keeping isTrial
        exact (inductionHypothesis round canShift keeping.sound isTrial).mono fun _ _ =>
          keeping.trans
      rw [completeAll]
      simp only [ensures_bind, ensures_getStack]
      split
      next => exact .refl sound kept
      next isGoing =>
        split
        next merged isMerged =>
          obtain ⟨target, isTarget, isMerged⟩ := mergeIntoEarlier_eq_some isMerged
          have between := mem_drop_range isTarget
          obtain ⟨mergedSound, mergedPlaces, -⟩ := sound_merge? sound.stack isMerged
          refine goesOn version _ _ ⟨sound.withStack mergedSound, ?_⟩ (.inr (by omega))
          intro other before place stands
          rw [mergedPlaces]
          exact keeps_remove.of_le (by omega) other before place stands
        next =>
          refine (reduceAll_spec setting version _ sound).bind ?_
          rintro made after ⟨rests, count_le, isMade⟩
          have keeping := rests kept
          have inBounds : version < parser.stack.versionCount := Nat.not_le.mp isGoing
          obtain ⟨next, isNext, first_le⟩ : ∃ next,
              (if version = starting then parser.stack.versionCount else version + 1) = next ∧
                first ≤ next := by
            refine ⟨_, rfl, ?_⟩
            split_ifs <;> omega
          have goesOnWithout : ∀ canShift, Ensures
              (if lookahead ≠ 0 then do
                  modifyStack fun stack => stack.remove version
                  completeAll setting starting first lookahead fuel (round + 1) next canShift
                else completeAll setting starting first lookahead fuel (round + 1) next canShift)
              after fun _ changed => Keeping source kept parser changed := by
            intro canShift
            split_ifs with isGiven
            · have kept_le_version : kept ≤ version := by
                have := keepsStart isGiven
                omega
              refine goesOn next _ _ ⟨?_, ?_⟩ (.inr first_le)
              · exact keeping.sound.withStack (sound_remove keeping.sound.stack)
              · exact keeping.keeps.trans (keeps_remove.of_le kept_le_version)
            · exact goesOn next _ _ keeping (.inr first_le)
          rw [isNext]
          generalize (completionsFor setting (parser.stack.state version) _).1 = hasShift
          cases hasShift with
          | true => exact goesOn next _ _ keeping (.inr first_le)
          | false =>
              cases made with
              | none => exact goesOnWithout canShift
              | some reduced =>
                  obtain ⟨restsAfter, countAfter⟩ := (isMade reduced rfl).renumber inBounds rests
                  rw [if_neg Bool.false_ne_true]
                  dsimp only
                  split
                  · exact goesOn version _ _ (restsAfter kept) (by dsimp only; omega)
                  · exact goesOnWithout canShift

theorem completeFrom_spec (setting : Setting) {lookahead kept : Nat} (sound : parser.Sound source)
    (inBounds : version < parser.stack.versionCount) (kept_le : kept ≤ parser.stack.versionCount)
    (keepsStart : lookahead ≠ 0 → kept ≤ version) :
    Ensures (completeFrom setting version lookahead) parser fun _ changed =>
      Keeping source kept parser changed := by
  unfold completeFrom
  simp only [ensures_bind, ensures_getStack]
  exact completeAll_spec setting inBounds kept_le keepsStart _ _ _ sound
    (.inl ⟨rfl, Nat.le_refl _⟩)

/-! ## Marking the error -/

/-- Pushing over no text leaves every version where it is, whether it waits or not. -/
theorem resting_push (version state : Nat) (tree : Option Subtree) (sound : parser.Sound source)
    (row : ∀ place, IsPlace source place → Row source place place tree.toList)
    (isEmpty : treeExtent tree = .zero) :
    Resting source parser { parser with stack := parser.stack.push version tree state } := by
  intro count
  refine ⟨sound.withStack (sound_push sound.stack (row _ (sound.stack.isPlace version)) ?_), ?_⟩
  · exact .inl isEmpty
  · exact keeps_push_of_empty sound.stack isEmpty count

theorem row_missingLeaf {place : Extent} (isPlace : IsPlace source place) (table : Table)
    (symbol : Nat) : Row source place place [missingLeaf table symbol] :=
  row_singleton (covers_missingLeaf isPlace) (opens_missingLeaf table symbol)

theorem insertMissing_rests (setting : Setting) (lookahead : Nat) (symbols : List Nat)
    (sound : parser.Sound source) :
    Ensures (insertMissing setting version lookahead symbols) parser fun _ changed =>
      Resting source parser changed := by
  induction symbols generalizing parser with
  | nil => exact .refl sound
  | cons symbol rest inductionHypothesis =>
      rw [insertMissing]
      simp only [ensures_bind, ensures_getStack]
      split_ifs
      · exact inductionHypothesis sound
      · -- The copy comes after all versions, and only it and later ones are touched.
        have copied : Resting source parser
            { parser with stack := (parser.stack.copy version).2 } :=
          Keeping.resting ⟨sound.withStack (sound_copy sound.stack), keeps_copy⟩
        have pushed := copied.trans (resting_push (parser.stack.copy version).1
          (nextState setting.table (parser.stack.state version) symbol)
          (some (missingLeaf setting.table symbol)) copied.sound
          (fun _ isPlace => row_missingLeaf isPlace setting.table symbol) rfl)
        have count : ((parser.stack.copy version).2.push (parser.stack.copy version).1
            (some (missingLeaf setting.table symbol))
            (nextState setting.table (parser.stack.state version) symbol)).versionCount =
              parser.stack.versionCount + 1 := by
          rw [versionCount_push]
          exact Array.size_push _
        have inBounds := Nat.lt_of_lt_of_eq (Nat.lt_succ_self _) count.symm
        rw [ensures_bind, ensures_setStack]
        refine (completeFrom_spec setting pushed.sound inBounds (Nat.le_of_lt inBounds)
          fun _ => Nat.le_refl _).bind ?_
        · intro isInserted after keeping
          have rests : Resting source parser after :=
            Keeping.resting ⟨keeping.sound, (pushed _).keeps.trans keeping.keeps⟩
          split_ifs
          · exact rests
          · exact (inductionHypothesis rests.sound).mono fun _ _ => rests.trans

theorem markErrors_rests (setting : Setting) (version previous count lookahead fuel : Nat)
    {current : Nat} {inserted : Bool} (sound : parser.Sound source) :
    Ensures (markErrors setting version previous count lookahead fuel current inserted) parser
      fun _ changed => Resting source parser changed := by
  induction fuel generalizing parser current inserted with
  | zero => exact .refl sound
  | succ fuel inductionHypothesis =>
      have goesOn : ∀ (after : Parser) (next : Nat) (inserted : Bool),
          Resting source parser after →
          Ensures
            (do
              pushTree current none 0
              markErrors setting version previous count lookahead fuel next inserted)
            after fun _ changed => Resting source parser changed := by
        intro after next inserted rests
        have pushed := rests.trans 
          (resting_push current 0 none rests.sound (fun place _ => row_nil source place) rfl)
        exact (inductionHypothesis pushed.sound).mono fun _ _ => pushed.trans
      rw [markErrors]
      split
      next => exact .refl sound
      next =>
        dsimp only
        split
        next => exact goesOn parser _ true (.refl sound)
        next =>
          exact (insertMissing_rests setting lookahead _ sound).bind fun inserted after rests =>
            goesOn after _ inserted rests

theorem mergeMarked_spec (version previous count : Nat) (sound : parser.Sound source) :
    Ensures (mergeMarked version previous count) parser fun _ changed =>
      Keeping source previous parser changed := by
  induction count generalizing parser with
  | zero => exact .refl sound previous
  | succ count inductionHypothesis =>
      rw [mergeMarked]
      simp only [ensures_bind, ensures_getStack]
      split
      next merged isMerged =>
        obtain ⟨mergedSound, mergedPlaces, -⟩ := sound_merge? sound.stack isMerged
        have keeping : Keeping source previous parser { parser with stack := merged } := by
          refine ⟨sound.withStack mergedSound, fun other before place stands => ?_⟩
          rw [mergedPlaces]
          exact keeps_remove other before place stands
        exact (inductionHypothesis keeping.sound).mono fun _ _ => keeping.trans
      next => exact .refl sound previous

/-! ## Going back -/

/-- The slices that are still to be looked at: each leads from where its version stands to a common
place, unless its version is the one that was repaired last. -/
structure Awaiting (source : Array Char) (first : Nat) (stop : Extent) (done : Option Nat)
    (slices : List Slice) (stack : Stack) : Prop where
  ordered : slices.Pairwise fun left right => left.version ≤ right.version
  after : ∀ slice ∈ slices, first ≤ slice.version ∧ ∀ version ∈ done, version ≤ slice.version
  rows : ∀ slice ∈ slices, done ≠ some slice.version → ∃ origin,
    stack.place? slice.version = some origin ∧ Row source origin stop slice.trees

section GoBack

variable {first : Nat} {stop : Extent} {done : Option Nat} {slice : Slice} {rest : List Slice}
  {stack : Stack}

theorem Awaiting.next {later : Stack} (awaiting : Awaiting source first stop done (slice :: rest) stack)
    (keeps : ∀ version place, stack.place? version = some place →
      later.place? version = some place) :
    Awaiting source first stop done rest later where
  ordered := (List.pairwise_cons.mp awaiting.ordered).2
  after := fun other member => awaiting.after other (List.mem_cons_of_mem slice member)
  rows := fun other member isOpen => by
    obtain ⟨origin, stands, row⟩ :=
      awaiting.rows other (List.mem_cons_of_mem slice member) isOpen
    exact ⟨origin, keeps _ _ stands, row⟩

theorem Awaiting.finish {later : Stack}
    (awaiting : Awaiting source first stop done (slice :: rest) stack)
    (isOpen : done ≠ some slice.version)
    (keeps : ∀ version ≠ slice.version, ∀ place, stack.place? version = some place →
      later.place? version = some place) :
    Awaiting source first stop (some slice.version) rest later where
  ordered := (List.pairwise_cons.mp awaiting.ordered).2
  after := fun other member => by
    refine ⟨(awaiting.after other (List.mem_cons_of_mem slice member)).1, ?_⟩
    rintro version ⟨⟩
    exact (List.pairwise_cons.mp awaiting.ordered).1 other member
  rows := fun other member isOther => by
    have slice_le := (List.pairwise_cons.mp awaiting.ordered).1 other member
    have otherOpen : done ≠ some other.version := by
      intro isDone
      have done_le := (awaiting.after slice List.mem_cons_self).2 other.version isDone
      exact isOpen (isDone.trans (congrArg some (Nat.le_antisymm done_le slice_le)))
    obtain ⟨origin, stands, row⟩ :=
      awaiting.rows other (List.mem_cons_of_mem slice member) otherOpen
    exact ⟨origin, keeps _ (fun isSame => isOther (congrArg some isSame.symm)) _ stands, row⟩

/-- What was popped goes back onto a version, wrapped as wrong text up to the extras at its end. -/
def putBack (table : Table) (version goal : Nat) (trees : List Subtree) (stack : Stack) : Stack :=
  let (wrapped, extras) := splitTrailingExtras trees
  let stack :=
    if wrapped.isEmpty then stack
    else stack.push version (some (.errorNode table wrapped true)) goal
  extras.foldl (fun stack extra => stack.push version (some extra) goal) stack

/-- Putting trees back moves no other version. -/
theorem putBack_row {origin : Extent} {trees : List Subtree} (table : Table) (goal : Nat)
    (sound : stack.Sound source) (stands : stack.place? version = some origin)
    (row : Row source origin stop trees) :
    (putBack table version goal trees stack).Sound source ∧
      ∀ other ≠ version, (putBack table version goal trees stack).place? other =
        stack.place? other := by
  obtain ⟨middle, wrapped, extras⟩ := row_splitTrailingExtras row
  unfold putBack
  dsimp only
  split_ifs with isEmpty
  · rw [List.isEmpty_iff.mp isEmpty] at wrapped
    have isMiddle : origin = middle := wrapped.covers
    obtain ⟨pushed, -, same, -⟩ := foldl_push_row goal sound (isMiddle ▸ stands) extras
    exact ⟨pushed, same⟩
  · have isOrigin : IsPlace source origin :=
      (position_of_place? stands).1 ▸ sound.isPlace version
    have errorTree : Row source origin middle
        [errorNode table (splitTrailingExtras trees).1 true] :=
      (wrapped.make isOrigin table Table.errorSymbol 0).congr rfl rfl rfl rfl
    obtain ⟨errorSound, moved, sameAfterError⟩ := @push_row source stack version goal
      (some (errorNode table (splitTrailingExtras trees).1 true)) sound origin middle stands
      errorTree
    obtain ⟨pushed, -, same, -⟩ := foldl_push_row goal errorSound moved extras
    exact ⟨pushed, fun other isOther => (same other isOther).trans (sameAfterError other isOther)⟩

theorem ensures_putBack {table : Table} {goal : Nat} {next : ParseM Bool}
    {property : Bool → Parser → Prop} (trees : List Subtree) :
    Ensures
      (do
        if !(splitTrailingExtras trees).1.isEmpty then
          pushTree version (some (.errorNode table (splitTrailingExtras trees).1 true)) goal
        modifyStack fun stack => (splitTrailingExtras trees).2.foldl
          (fun stack extra => stack.push version (some extra) goal) stack
        next)
      parser property ↔
    Ensures next { parser with stack := putBack table version goal trees parser.stack }
      property := by
  unfold putBack
  dsimp only
  by_cases isEmpty : (splitTrailingExtras trees).1.isEmpty = true
  · rw [if_pos isEmpty, if_neg (by simp [isEmpty])]
    rfl
  · rw [if_neg isEmpty, if_pos (by simp [isEmpty])]
    rfl

/-- One slice: its version is done, or in the wrong state and halted, or repaired. -/
theorem ensures_recoverSlices_cons {setting : Setting} {goal : Nat}
    {property : Bool → Parser → Prop} :
    Ensures (recoverSlices setting goal done (slice :: rest)) parser property ↔
      if done = some slice.version then
        Ensures (recoverSlices setting goal done rest) parser property
      else if parser.stack.state slice.version ≠ goal then
        Ensures (recoverSlices setting goal done rest)
          { parser with stack := parser.stack.halt slice.version } property
      else
        let (error, popped) := parser.stack.popError slice.version
        let stack := putBack setting.table slice.version goal
          (error.elim [] Subtree.children ++ slice.trees) popped
        Ensures (recoverSlices setting goal (some slice.version) rest) { parser with stack }
          property := by
  rw [recoverSlices]
  split_ifs with isDone isOther
  · rfl
  · simp only [ensures_bind, ensures_getStack, if_pos isOther]
    rfl
  · simp only [ensures_bind, ensures_getStack, if_neg isOther]
    generalize parser.stack.popError slice.version = popped
    obtain ⟨error, popped⟩ := popped
    cases error with
    | none => exact ensures_putBack slice.trees
    | some error => exact ensures_putBack (error.children ++ slice.trees)

end GoBack

/-- Wrapping what was popped brings a version back to where it stood. -/
theorem recoverSlices_spec (setting : Setting) (goal : Nat) {first : Nat} {stop : Extent}
    {done : Option Nat} {slices : List Slice} (sound : parser.Sound source)
    (awaiting : Awaiting source first stop done slices parser.stack) :
    Ensures (recoverSlices setting goal done slices) parser fun _ changed =>
      Keeping source first parser changed := by
  induction slices generalizing done parser with
  | nil => exact .refl sound first
  | cons slice rest inductionHypothesis =>
      have isFresh := (awaiting.after slice List.mem_cons_self).1
      rw [ensures_recoverSlices_cons]
      split_ifs with isDone isOther
      · exact inductionHypothesis sound (awaiting.next fun _ _ stands => stands)
      · have keeping : Keeping source first parser
            { parser with stack := parser.stack.halt slice.version } :=
          ⟨sound.withStack (sound_halt sound.stack), keeps_halt first⟩
        refine (inductionHypothesis keeping.sound (awaiting.next fun other place stands => ?_)).mono
          fun _ _ => keeping.trans
        exact keeps_halt (other + 1) other (Nat.lt_succ_self _) place stands
      · obtain ⟨origin, stands, row⟩ := awaiting.rows slice List.mem_cons_self isDone
        obtain ⟨poppedSound, poppedPlaces, before, standsBefore, errorRow⟩ :=
          popError_spec sound.stack stands
        obtain ⟨backSound, same⟩ := putBack_row setting.table goal poppedSound standsBefore
          (row_append.mpr ⟨origin, errorRow, row⟩)
        have keepsOthers := fun other isOther place standsOther =>
          (same other isOther).trans (poppedPlaces other isOther place standsOther)
        refine (inductionHypothesis (sound.withStack backSound)
          (awaiting.finish isDone keepsOthers)).mono fun _ changed keeping => ?_
        refine ⟨keeping.sound, Keeps.trans (fun other isBefore => ?_) keeping.keeps⟩
        exact keepsOthers other (by omega)

theorem recoverToState_rests (setting : Setting) (version depth goal : Nat)
    (sound : parser.Sound source) :
    Ensures (recoverToState setting version depth goal) parser fun _ changed =>
      Resting source parser changed := by
  have isPopped := popped_popCount sound.stack version depth
  have popped := isPopped.sound sound.stack fun path isTaken => isTaken.inBounds
  have awaiting : Awaiting source parser.stack.versionCount (parser.stack.position version) none
      (parser.stack.popCount version depth).1 (parser.stack.popCount version depth).2 := by
    refine ⟨isPopped.ordered, fun slice member => ⟨(isPopped.ends slice member).1, by simp⟩, ?_⟩
    exact fun slice member _ => isPopped.slice (fun path isTaken => isTaken) member
  unfold recoverToState
  simp only [ensures_bind, ensures_getStack, ensures_setStack]
  refine (recoverSlices_spec setting goal (sound.withStack popped) awaiting).mono ?_
  intro _ changed keeping
  exact Keeping.resting ⟨keeping.sound, isPopped.keeps.trans keeping.keeps⟩

theorem recoverToPast_rests (setting : Setting) (version previous count cost : Nat)
    (lookahead : Subtree) (past : List PastState) (sound : parser.Sound source) :
    Ensures (recoverToPast setting version previous count cost lookahead past) parser
      fun _ changed => Resting source parser changed := by
  induction past generalizing parser with
  | nil => exact .refl sound
  | cons state rest inductionHypothesis =>
      rw [recoverToPast]
      simp only [ensures_bind, ensures_getStack]
      split
      next => exact inductionHypothesis sound
      next =>
        refine (betterExists_rests sound version _).bind fun exists_ after rests => ?_
        have goesOn := (inductionHypothesis rests.sound).mono fun _ _ => rests.trans
        split
        next => exact rests
        next =>
          split
          next => exact goesOn
          next =>
            refine (recoverToState_rests setting version _ state.state rests.sound).bind ?_
            intro didRecover further restsLater
            have restsAll := rests.trans restsLater
            split
            next => exact restsAll
            next => exact (inductionHypothesis restsAll.sound).mono fun _ _ => restsAll.trans

theorem removeInactive_spec (fuel version : Nat) (sound : parser.Sound source) :
    Ensures (removeInactive fuel version) parser fun _ changed =>
      Keeping source version parser changed := by
  induction fuel generalizing parser version with
  | zero => exact .refl sound version
  | succ fuel inductionHypothesis =>
      rw [removeInactive]
      simp only [ensures_bind, ensures_getStack]
      split
      next => exact .refl sound version
      next =>
        split
        next =>
          refine (inductionHypothesis (version + 1) sound).mono fun _ changed keeping => ?_
          exact ⟨keeping.sound, keeping.keeps.of_le (Nat.le_succ version)⟩
        next =>
          have keeping : Keeping source version parser
              { parser with stack := parser.stack.remove version } :=
            ⟨sound.withStack (sound_remove sound.stack), keeps_remove⟩
          exact (inductionHypothesis version keeping.sound).mono fun _ _ => keeping.trans

/-! ## Leaving out a token -/

theorem symbol_foldl_add {table : Table} {holdsError : Bool} (children : List Subtree)
    (summing : Summing) :
    (children.foldl (Summing.add table holdsError) summing).summary.symbol =
      summing.summary.symbol := by
  induction children generalizing summing with
  | nil => rfl
  | cons child rest inductionHypothesis =>
      rw [List.foldl_cons, inductionHypothesis]
      rfl

theorem symbol_make (table : Table) (symbol : Nat) (children : List Subtree) (shape : Nat) :
    (Subtree.make table symbol children shape).symbol = symbol := by
  rw [Subtree.make, Subtree.symbol, Subtree.summary]
  split_ifs <;> exact symbol_foldl_add children _

/-- What is left out is no node of wrong text yet, whatever it consists of. -/
theorem row_skipped {origin stop : Extent} {children : List Subtree} (table : Table)
    (isOrigin : IsPlace source origin) (cover : CoverBetween source origin stop children) :
    Row source origin stop [Subtree.make table Table.skippedSymbol children 0] := by
  refine ⟨coverBetween_singleton.mpr (covers_make isOrigin cover table _ 0), ?_⟩
  rintro tree member
  rw [List.mem_singleton.mp member]
  refine .ofSymbol ?_
  rw [Subtree.isError, symbol_make]
  rfl

theorem skipToken_sound (setting : Setting) (count : Nat) {lookahead : Subtree} {place : Extent}
    (sound : parser.Sound source) (stands : parser.stack.place? version = some place)
    (covers : Covers source place lookahead) :
    Ensures (skipToken setting version count lookahead) parser fun _ changed =>
      changed.Sound source ∧ version < changed.stack.versionCount := by
  unfold skipToken
  extract_lets isExtra token alone pushSkipped
  have tokenCovers : Covers source place token := by
    simp only [token]
    split_ifs
    · exact covers.setExtra true
    · exact covers
  have aloneRow : Row source place (place.add token.totalSize) [alone] :=
    row_skipped setting.table covers.isPlace (coverBetween_singleton.mpr ⟨tokenCovers, rfl⟩)
  have pushes : ∀ {after : Parser} {skipped : Subtree} {origin stop : Extent},
      after.Sound source → after.stack.place? version = some origin →
      Row source origin stop [skipped] →
      Ensures (pushSkipped skipped) after fun _ changed =>
        changed.Sound source ∧ version < changed.stack.versionCount := by
    intro after skipped origin stop afterSound standsAfter row
    refine (pushTree_row afterSound standsAfter row).bind fun _ pushed isPushed => ?_
    refine (rememberLayout_rests isPushed.1 _).mono fun _ changed rests => ?_
    exact ⟨rests.sound, lt_of_place? (rests.place? isPushed.2)⟩
  split_ifs
  · have isPopped := popped_popCount sound.stack version 1
    have poppedSound := isPopped.sound sound.stack fun path isTaken => isTaken.inBounds
    simp only [ensures_bind, ensures_getStack]
    generalize parser.stack.popCount version 1 = result at isPopped poppedSound ⊢
    obtain ⟨slices, popped⟩ := result
    cases slices with
    | nil =>
        refine pushes (sound.withStack poppedSound) ?_ aloneRow
        exact isPopped.keeps version (lt_of_place? stands) place stands
    | cons slice others =>
        -- What was left out before goes together with the token.
        obtain ⟨origin, standsSlice, row⟩ :=
          isPopped.slice (fun path isTaken => isTaken) List.mem_cons_self
        rw [(position_of_place? stands).1] at row
        have isEarlier : version < slice.version :=
          Nat.lt_of_lt_of_le (lt_of_place? stands) (isPopped.ends slice List.mem_cons_self).1
        have isOrigin : IsPlace source origin :=
          (position_of_place? standsSlice).1 ▸ poppedSound.isPlace slice.version
        have together := row_skipped setting.table isOrigin
          (coverBetween_append.mpr ⟨place, row.covers, aloneRow.covers⟩)
        have truncated : (if others.isEmpty = true then popped
              else truncateVersions (slice.version + 1) popped).Sound source ∧
            (if others.isEmpty = true then popped
              else truncateVersions (slice.version + 1) popped).place? slice.version =
                some origin := by
          split_ifs
          · exact ⟨poppedSound, standsSlice⟩
          · refine ⟨sound_truncateVersions poppedSound _, ?_⟩
            rw [place?_truncateVersions (Nat.lt_succ_self _)]
            exact standsSlice
        dsimp only
        generalize (if others.isEmpty = true then popped
          else truncateVersions (slice.version + 1) popped) = kept at truncated ⊢
        refine pushes (sound.withStack (sound_renumber truncated.1 _ _)) ?_ together
        dsimp only
        rw [place?_renumber isEarlier (lt_of_place? truncated.2) isEarlier, if_pos rfl]
        exact truncated.2
  · exact pushes sound stands aloneRow

/-! ## Repairs as a whole -/

theorem isError_eq_false_of_isEnd {tree : Subtree} (isEnd : tree.isEnd = true) :
    tree.isError = false := by
  rw [Subtree.isEnd, decide_eq_true_eq] at isEnd
  rw [Subtree.isError, isEnd]
  rfl

theorem halt_sound {place : Extent} (sound : parser.Sound source)
    (stands : parser.stack.place? version = some place) :
    Parser.Sound source { parser with stack := parser.stack.halt version } ∧
      version < (parser.stack.halt version).versionCount :=
  ⟨sound.withStack (sound_halt sound.stack),
    lt_of_place? (keeps_halt (version + 1) version (Nat.lt_succ_self _) place stands)⟩

theorem recover_sound (setting : Setting) {lookahead : Subtree} {place : Extent}
    (sound : parser.Sound source) (stands : parser.stack.place? version = some place)
    (covers : Covers source place lookahead) :
    Ensures (recover setting version lookahead) parser fun _ changed =>
      changed.Sound source ∧ version < changed.stack.versionCount := by
  unfold recover
  rw [ensures_bind, ensures_getStack]
  extract_lets previous total
  refine (countSinceError_rests sound version).bind fun count counted restsCounted => ?_
  rw [ensures_bind, ensures_getStack]
  extract_lets cost newCost settle
  have settles : ∀ (after : Parser) (didRecover : Bool), Resting source parser after →
      Ensures (settle didRecover) after fun _ changed =>
        changed.Sound source ∧ version < changed.stack.versionCount := by
    intro after didRecover rests
    simp only [settle]
    rw [ensures_bind, ensures_getStack]
    refine (removeInactive_spec _ previous rests.sound).bind fun _ cleared keeping => ?_
    have standsCleared : cleared.stack.place? version = some place :=
      keeping.keeps version (lt_of_place? stands) place (rests.place? stands)
    rw [ensures_bind, ensures_getStack]
    split_ifs with isGivenUp isEnd
    · exact halt_sound keeping.sound standsCleared
    · have emptyError : Row source place place [errorNode setting.table [] false] :=
        ((row_nil source place).make covers.isPlace setting.table Table.errorSymbol 0).congr
          rfl rfl rfl rfl
      refine (pushTree_row keeping.sound standsCleared emptyError).bind fun _ pushed isPushed => ?_
      exact accept_sound setting isPushed.1 isPushed.2 covers (isError_eq_false_of_isEnd isEnd)
    · refine (betterExists_rests keeping.sound version newCost).bind fun isBeaten compared rests => ?_
      split_ifs
      · exact halt_sound rests.sound (rests.place? standsCleared)
      · exact skipToken_sound setting count rests.sound (rests.place? standsCleared) covers
  split
  next past _ =>
    split_ifs
    · exact settles counted false restsCounted
    · refine (recoverToPast_rests setting version previous count cost lookahead past
        restsCounted.sound).bind fun didRecover after rests => ?_
      exact settles after didRecover (restsCounted.trans rests)
  next => exact settles counted false restsCounted

theorem handleError_sound (setting : Setting) {lookahead : Subtree} {place : Extent}
    (sound : parser.Sound source) (stands : parser.stack.place? version = some place)
    (covers : Covers source place lookahead) :
    Ensures (handleError setting version lookahead) parser fun _ changed =>
      changed.Sound source := by
  have inBounds := lt_of_place? stands
  unfold handleError
  rw [ensures_bind, ensures_getStack]
  refine (completeFrom_spec setting sound inBounds (Nat.le_refl _) (by simp)).bind ?_
  intro _ completed keeping
  rw [ensures_bind, ensures_getStack]
  refine (markErrors_rests setting version _ _ lookahead.symbol _ keeping.sound).bind ?_
  intro _ marked rests
  refine (mergeMarked_spec version parser.stack.versionCount _ rests.sound).bind ?_
  intro _ merged keepingMerged
  have standsMerged : merged.stack.place? version = some place :=
    keepingMerged.keeps version inBounds place
      (rests.place? (keeping.keeps version inBounds place stands))
  have recorded : Resting source merged
      { merged with stack := merged.stack.recordPast version maxPastDepth } :=
    resting_withStack keepingMerged.sound
      (rests_modifyHead keepingMerged.sound.stack (fun _ => rfl) fun _ => rfl)
  rw [ensures_bind, ensures_modifyStack]
  refine (recover_sound setting recorded.sound (recorded.place? standsMerged) covers).mono ?_
  exact fun _ _ isSound => isSound.1

end Repairs

end FunctionAtlas.Parse
