import FunctionAtlas.Proofs.Docstring.LiteralEnd
import FunctionAtlas.Proofs.Regex.EscapedText
import FunctionAtlas.Regex.Room
import FunctionAtlas.Regex.Run

/-!
Contract: the program of a text matches where the text stands.

The program has one instruction for each character, so it runs with one thread, which lives as long
as the characters agree. In either direction, a text takes the room of its bytes.

Owns: the match of a text at a position, and the room of a text.

Does not own: where in a text the program is run.
-/

namespace FunctionAtlas.Regex

open FunctionAtlas.Docstring (byteLength byteLength_cons)

/-! ## Instructions -/

/-- The instruction that reads one character. -/
def Instruction.reading (character : Char) : Instruction :=
  .read (Text.RangeTable.ofRanges (CharClass.single character).ranges)

/-- The expression of a text where case counts. -/
theorem Expr.ofText_cons_cons (first second : Char) (text : List Char) :
    Expr.ofText {} (first :: second :: text) =
      .sequence (.one (CharClass.single first)) (Expr.ofText {} (second :: text)) := rfl

theorem Expr.code_ofText (text : List Char) (start : Nat) :
    (Expr.ofText {} text).code start = text.map Instruction.reading := by
  induction text generalizing start with
  | nil => rfl
  | cons first rest inductionHypothesis =>
      cases rest with
      | nil => rfl
      | cons second rest =>
          rw [Expr.ofText_cons_cons, Expr.code, inductionHypothesis]
          rfl

/-- The program of a text. -/
def Program.ofText (text : List Char) : Program := Program.ofExpr (Expr.ofText {} text)

theorem Program.code_ofText (text : List Char) :
    (Program.ofText text).code = (text.map Instruction.reading).toArray := by
  show ((Expr.ofText {} text).code 0).toArray = _
  rw [Expr.code_ofText]

/-- Of a single character, only its own code point is a member. -/
theorem contains_single (character : Char) (code : Nat) :
    (Text.RangeTable.ofRanges (CharClass.single character).ranges).contains code =
      decide (code = character.toNat) := by
  have nowhere : ∀ table place, Text.RangeTable.search table code 39 place place = false := by
    intro table place
    rw [Text.RangeTable.search, if_neg (Nat.lt_irrefl place)]
  show Text.RangeTable.search _ code (39 + 1) 0 1 = _
  rw [Text.RangeTable.search, if_pos Nat.zero_lt_one]
  show (if code < character.toNat then Text.RangeTable.search _ code 39 0 0
    else if character.toNat < code then Text.RangeTable.search _ code 39 1 1 else true) = _
  rw [nowhere, nowhere]
  split
  next below => exact (decide_eq_false (by omega)).symm
  next notBelow =>
    split
    next above => exact (decide_eq_false (by omega)).symm
    next notAbove => exact (decide_eq_true (by omega)).symm

/-! ## Threads -/

namespace Program

variable {text : List Char} {before after : Option Char}

theorem threadsFrom_nil (program : Program) :
    program.threadsFrom before after [] = [] := by
  rw [threadsFrom, follow]

theorem follow_nil (program : Program) (fuel : Nat) (seen : Std.HashSet Nat) :
    program.follow before after fuel [] seen = [] := by
  cases fuel <;> rfl

/-- Every address of the program of a text is a thread, as nothing but reading happens. -/
theorem threadsFrom_single (address : Nat) :
    (ofText text).threadsFrom before after [address] = [address] := by
  have reads : ∀ instruction, (ofText text).code[address]? = some instruction →
      ∃ set, instruction = .read set := by
    intro instruction isThere
    rw [code_ofText, List.getElem?_toArray, List.getElem?_map] at isThere
    obtain ⟨character, -, rfl⟩ := Option.map_eq_some_iff.mp isThere
    exact ⟨_, rfl⟩
  rw [threadsFrom, follow, if_neg (by simp)]
  cases isThere : (ofText text).code[address]? with
  | none => exact congrArg (List.cons address) (follow_nil _ _ _)
  | some instruction =>
      obtain ⟨set, rfl⟩ := reads instruction isThere
      exact congrArg (List.cons address) (follow_nil _ _ _)

theorem advance_ofText (character : Char) {address : Nat} {expected : Char}
    (isNext : text[address]? = some expected) :
    (ofText text).advance character address =
      if character = expected then some (address + 1) else none := by
  have isThere : (ofText text).code[address]? = some (.reading expected) := by
    rw [code_ofText, List.getElem?_toArray, List.getElem?_map, isNext]
    rfl
  rw [advance, isThere, Instruction.reading]
  dsimp only
  rw [contains_single]
  simp only [decide_eq_true_eq, Char.toNat_inj]

/-- Without threads nothing is added to the best match. -/
theorem run_nil (program : Program) (taken : Nat) (best : Option Nat) (rest : List Char) :
    program.run [] taken best rest = best := by
  cases rest <;> rfl

theorem size_ofText : (ofText text).code.size = text.length := by
  rw [code_ofText, List.size_toArray, List.length_map]

/-- A thread that is not at the end of the text reads the next character of it. -/
theorem run_ofText_of_getElem? {address taken : Nat} {expected : Char}
    (isNext : text[address]? = some expected) (rest : List Char) :
    (ofText text).run [address] taken none rest =
      match rest with
      | [] => none
      | character :: rest =>
          if character = expected then (ofText text).run [address + 1] (taken + 1) none rest
          else none := by
  obtain ⟨below, -⟩ := List.getElem?_eq_some_iff.mp isNext
  have notEnd : address ≠ (ofText text).code.size := by
    rw [size_ofText]
    omega
  have noMatch : [address].contains (ofText text).code.size = false := by simp [notEnd.symm]
  have alive : [address].takeWhile (· ≠ (ofText text).code.size) = [address] := by simp [notEnd]
  cases rest with
  | nil =>
      rw [run, noMatch]
      rfl
  | cons character rest =>
      rw [run, noMatch, alive]
      show run _ (threadsFrom _ _ _ ([address].filterMap ((ofText text).advance character)))
        (taken + 1) none rest = _
      have goesOn : [address].filterMap ((ofText text).advance character) =
          if character = expected then [address + 1] else [] := by
        rw [List.filterMap_cons, advance_ofText character isNext]
        by_cases agrees : character = expected <;> simp [agrees]
      rw [goesOn]
      dsimp only
      split
      next => rw [threadsFrom_single]
      next => rw [threadsFrom_nil, run_nil]

/-- A thread goes on as long as the characters agree. -/
theorem run_ofText {address taken : Nat} {pending : List Char} (rest : List Char)
    (isPending : text.drop address = pending) (within : address ≤ text.length) :
    (ofText text).run [address] taken none rest =
      if pending <+: rest then some (taken + pending.length) else none := by
  induction pending generalizing address taken rest with
  | nil =>
      have isEnd : address = (ofText text).code.size := by
        rw [size_ofText]
        exact Nat.le_antisymm within (List.drop_eq_nil_iff.mp isPending)
      rw [if_pos List.nil_prefix]
      cases rest <;> simp [run, isEnd]
  | cons expected pending inductionHypothesis =>
      have below : address < text.length := by
        apply Nat.lt_of_not_le
        intro beyond
        rw [List.drop_of_length_le beyond] at isPending
        cases isPending
      rw [List.drop_eq_getElem_cons below] at isPending
      obtain ⟨isNext, isLater⟩ := List.cons.inj isPending
      rw [run_ofText_of_getElem? (List.getElem?_eq_some_iff.mpr ⟨below, isNext⟩)]
      cases rest with
      | nil =>
          rw [if_neg]
          exact fun isPrefix => absurd (List.prefix_nil.mp isPrefix) (List.cons_ne_nil _ _)
      | cons character rest =>
          dsimp only
          rw [inductionHypothesis rest isLater below]
          by_cases agrees : character = expected
          · subst agrees
            rw [if_pos rfl, List.length_cons, Nat.add_right_comm]
            simp only [List.cons_prefix_cons, true_and]
            rfl
          · rw [if_neg agrees, if_neg]
            exact fun isPrefix => agrees (List.cons_prefix_cons.mp isPrefix).1.symm

/-- The program of a text matches the text and nothing else. -/
theorem matchLength?_ofText (rest : List Char) :
    (ofText text).matchLength? before rest =
      if text <+: rest then some text.length else none := by
  rw [matchLength?, threadsFrom_single, run_ofText rest List.drop_zero (Nat.zero_le _),
    Nat.zero_add]

end Program

/-! ## Room -/

theorem length_bytesOfCode (character : Char) :
    (bytesOfCode character.toNat).length = character.utf8Size := by
  have bySize : character.utf8Size =
      if character.toNat ≤ 0x7F then 1
      else if character.toNat ≤ 0x7FF then 2
      else if character.toNat ≤ 0xFFFF then 3
      else 4 := rfl
  rw [bySize, bytesOfCode]
  split_ifs <;> first | rfl | omega

theorem room_single (isForward : Bool) (character : Char) :
    (CharClass.single character).room isForward = stateRoom * character.utf8Size := by
  rw [CharClass.room, CharClass.single]
  dsimp only
  rw [if_pos rfl, length_bytesOfCode]

/-- In either direction, a text takes as many states as it has bytes, and at least one. -/
theorem Expr.room_ofText (isForward : Bool) (text : List Char) :
    (Expr.ofText {} text).room isForward =
      if text = [] then stateRoom else stateRoom * byteLength text := by
  induction text with
  | nil => rfl
  | cons first rest inductionHypothesis =>
      rw [if_neg (List.cons_ne_nil _ _), byteLength_cons]
      cases rest with
      | nil => exact room_single isForward first
      | cons second rest =>
          rw [Expr.ofText_cons_cons, Expr.room, inductionHypothesis,
            if_neg (List.cons_ne_nil _ _), Expr.room, room_single, Nat.mul_add]

/-- A text is too large if its bytes do not fit into the limit. -/
theorem Expr.isTooLarge_ofText (text : List Char) :
    (Expr.ofText {} text).isTooLarge =
      decide (roomLimit < frameRoom + stateRoom * byteLength text) := by
  rw [Expr.isTooLarge, Expr.room_ofText, Expr.room_ofText, Bool.or_self]
  by_cases isEmpty : text = []
  · subst isEmpty
    rfl
  · rw [if_neg isEmpty]

end FunctionAtlas.Regex
