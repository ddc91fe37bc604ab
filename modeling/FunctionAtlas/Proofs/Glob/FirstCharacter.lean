import FunctionAtlas.Glob.Match
import FunctionAtlas.Proofs.Text.ByteOrder
import Mathlib.Data.List.Basic

/-!
Contract: a pattern that begins with a character matches only paths that begin with it.

Patterns are matched byte by byte, and no UTF-8 form of a character is the beginning of another
one, so the bytes of the first character decide about it. When a pattern is read, stars and groups
may replace or gather tokens, but never the first character of the text.

Owns: the first character of a pattern and of what it matches.

Does not own: what the tokens after the first one match.
-/

namespace FunctionAtlas.Glob

open FunctionAtlas.Text

/-! ## Matching -/

theorem exists_eq_append_of_afterText {text path : List UInt8} (isLeft : afterText text path ≠ []) :
    ∃ rest, path = text ++ rest := by
  fun_induction afterText text path with
  | case1 path => exact ⟨path, rfl⟩
  | case2 => exact absurd rfl isLeft
  | case3 text byte path inductionHypothesis =>
      obtain ⟨rest, rfl⟩ := inductionHypothesis isLeft
      exact ⟨rest, rfl⟩
  | case4 => exact absurd rfl isLeft

/-- Where nothing is left to match, no tokens match. -/
theorem remaindersOfAll_nil (tokens : List Token) : remaindersOfAll tokens [] = [] := by
  induction tokens with
  | nil => rw [remaindersOfAll]
  | cons token tokens inductionHypothesis =>
      rw [remaindersOfAll]
      exact inductionHypothesis

theorem bytesOf_eq_utf8EncodeChar (character : Char) :
    bytesOf character = String.utf8EncodeChar character := by
  rw [bytesOf, toList_eq_toList_data, toList_toUTF8]
  simp

/-- A pattern that begins with a character matches only paths that begin with it. -/
theorem exists_toList_of_matches {character : Char} {tokens : List Token} {path : String}
    (matched : matches_ (.literal character :: tokens) path = true) :
    ∃ rest, path.toList = character :: rest := by
  have isLeft : afterText (bytesOf character) path.toUTF8.toList ≠ [] := by
    intro nothing
    have noRemainder :
        remaindersOfAll (.literal character :: tokens) [path.toUTF8.toList] = [] := by
      rw [remaindersOfAll, List.flatMap_singleton, remaindersOf, nothing]
      exact remaindersOfAll_nil tokens
    simp only [matches_, noRemainder, List.any_nil, Bool.and_false, Bool.false_eq_true] at matched
  obtain ⟨others, begins⟩ := exists_eq_append_of_afterText isLeft
  rw [toList_eq_toList_data, toList_toUTF8, bytesOf_eq_utf8EncodeChar] at begins
  cases isPath : path.toList with
  | nil =>
      rw [isPath, List.flatMap_nil] at begins
      exact absurd (List.append_eq_nil_iff.mp begins.symm).1 String.utf8EncodeChar_ne_nil
  | cons first rest =>
      rw [isPath, List.flatMap_cons] at begins
      refine ⟨rest, ?_⟩
      rw [utf8EncodeChar_append_inj begins]

/-! ## Reading -/

namespace Reading

/-- The tokens outside of all groups, newest first. -/
def outermost (reading : Reading) : List Token :=
  match reading.outer.getLast? with
  | some branch => branch.tokens
  | none => reading.current.tokens

/-- What has been read begins with a character, which no later stars replace: they replace a slash,
and then more than that character has been read. -/
structure BeginsWith (character : Char) (reading : Reading) (previous : Option Char) : Prop where
  first : reading.outermost.getLast? = some (.literal character)
  follows : reading.outer = [] → previous = some '/' → 2 ≤ reading.current.tokens.length

section BeginsWith

variable {character : Char} {reading : Reading} {previous : Option Char}

/-- Inside of a group, what is being read does not matter. -/
theorem BeginsWith.inGroup {current other : Branch} {outer : List Branch} (isInner : outer ≠ [])
    (begins : BeginsWith character ⟨current, outer⟩ previous) (next : Option Char) :
    BeginsWith character ⟨other, outer⟩ next := by
  have first := begins.first
  simp only [outermost, List.getLast?_eq_some_getLast isInner] at first
  refine ⟨?_, fun isOuter => absurd isOuter isInner⟩
  simp only [outermost, List.getLast?_eq_some_getLast isInner, first]

/-- Outside of groups, one more token leaves the first one in its place. -/
theorem beginsWith_of_cons {token : Token} {tokens : List Token} {finished : List (List Token)}
    (first : tokens.getLast? = some (.literal character)) (next : Option Char) :
    BeginsWith character ⟨⟨token :: tokens, finished⟩, []⟩ next := by
  refine ⟨?_, fun _ _ => ?_⟩
  · change (token :: tokens).getLast? = _
    rw [List.getLast?_cons, first]
    rfl
  · cases tokens with
    | nil => cases first
    | cons second others => simp

theorem BeginsWith.push (begins : BeginsWith character reading previous) (token : Token)
    (next : Option Char) : BeginsWith character (reading.push token) next := by
  obtain ⟨current, outer⟩ := reading
  by_cases isOuter : outer = []
  · subst isOuter
    exact beginsWith_of_cons begins.first next
  · exact begins.inGroup isOuter next

theorem BeginsWith.pushStars (begins : BeginsWith character reading previous)
    (next : Option Char) : BeginsWith character reading.pushStars next :=
  (begins.push .anything previous).push .anything next

theorem BeginsWith.openGroup (begins : BeginsWith character reading previous)
    (next : Option Char) : BeginsWith character reading.openGroup next := by
  refine ⟨?_, fun isOuter => absurd isOuter (by simp [Reading.openGroup])⟩
  have first := begins.first
  obtain ⟨current, outer⟩ := reading
  cases outer with
  | nil => exact first
  | cons branch outer =>
      simpa [outermost, Reading.openGroup, List.getLast?_cons] using first

theorem BeginsWith.nextBranch (isInGroup : reading.isInGroup = true)
    (begins : BeginsWith character reading previous) (next : Option Char) :
    BeginsWith character reading.nextBranch next := by
  obtain ⟨current, outer⟩ := reading
  exact begins.inGroup (by simpa [Reading.isInGroup] using isInGroup) next

theorem BeginsWith.closeGroup {closed : Reading} (begins : BeginsWith character reading previous)
    (closes : reading.closeGroup = .ok closed) (next : Option Char) :
    BeginsWith character closed next := by
  obtain ⟨current, outer⟩ := reading
  cases outer with
  | nil => cases closes
  | cons branch outer =>
      cases closes
      by_cases isOuter : outer = []
      · subst isOuter
        exact beginsWith_of_cons begins.first next
      · have first := begins.first
        simp only [outermost, List.getLast?_cons, List.getLast?_eq_some_getLast isOuter,
          Option.getD_some] at first
        refine ⟨?_, fun isOutside => absurd isOutside isOuter⟩
        simp only [outermost, List.getLast?_eq_some_getLast isOuter, first]

/-- Stars in the place of a slash leave what stands before the slash. -/
theorem BeginsWith.absorb (begins : BeginsWith character reading (some '/')) (isLast : Bool)
    (next : Option Char) : BeginsWith character (reading.absorb isLast) next := by
  have unchanged : BeginsWith character reading next :=
    ⟨begins.first, fun isOuter _ => begins.follows isOuter rfl⟩
  unfold Reading.absorb
  dsimp only
  split
  next => exact unchanged
  next => exact unchanged
  next tokens _ _ isTokens =>
    obtain ⟨⟨current, finished⟩, outer⟩ := reading
    by_cases isOuter : outer = []
    · -- The slash is not the first token, since the text does not begin with it.
      subst isOuter
      dsimp only at isTokens
      subst isTokens
      have isLong := begins.follows rfl rfl
      have first : (_ :: tokens).getLast? = _ := begins.first
      cases tokens with
      | nil => simp at isLong
      | cons second others =>
          rw [List.getLast?_cons_cons] at first
          exact beginsWith_of_cons first next
    · exact begins.inGroup isOuter next
  next => exact begins.push _ next

theorem BeginsWith.doubleStar {rest remaining : List Char} {after : Reading}
    (begins : BeginsWith character reading previous)
    (reads : reading.doubleStar previous rest = (after, remaining)) (next : Option Char) :
    BeginsWith character after next := by
  unfold Reading.doubleStar at reads
  split_ifs at reads with isEmpty isOther
  · split at reads <;> cases reads
    · exact begins.push _ next
    · exact begins.push _ next
    · exact begins.pushStars next
  · cases reads
    exact begins.pushStars next
  · rw [not_not.mp isOther] at begins
    split at reads
    next =>
      cases reads
      exact begins.absorb true next
    next =>
      cases reads
      exact begins.absorb false next
    next =>
      split_ifs at reads <;> cases reads
      · exact begins.absorb true next
      · exact begins.pushStars next

/-- The first character stays to the end of the text. -/
theorem BeginsWith.after_readTokens {fuel : Nat} {after : Reading} {rest : List Char}
    (begins : BeginsWith character reading previous)
    (reads : readTokens fuel reading previous rest = .ok after) :
    ∃ last, BeginsWith character after last := by
  fun_induction readTokens fuel reading previous rest with
  | case1 | case2 =>
      cases reads
      exact ⟨_, begins⟩
  | case3 _ _ _ _ inductionHypothesis => exact inductionHypothesis (begins.push _ _) reads
  | case4 _ _ _ _ _ _ stars inductionHypothesis =>
      exact inductionHypothesis (begins.doubleStar stars _) reads
  | case5 _ _ _ _ _ inductionHypothesis => exact inductionHypothesis (begins.push _ _) reads
  | case6 => cases reads
  | case7 _ _ _ _ _ _ _ inductionHypothesis => exact inductionHypothesis (begins.push _ _) reads
  | case8 _ _ _ _ inductionHypothesis => exact inductionHypothesis (begins.openGroup _) reads
  | case9 => cases reads
  | case10 _ _ _ _ _ closes inductionHypothesis =>
      exact inductionHypothesis (begins.closeGroup closes _) reads
  | case11 _ reading _ _ next inductionHypothesis =>
      refine inductionHypothesis ?_ reads
      by_cases isInGroup : reading.isInGroup = true
      · rw [show next = reading.nextBranch from if_pos isInGroup]
        exact begins.nextBranch isInGroup _
      · rw [show next = reading.push (.literal ',') from if_neg isInGroup]
        exact begins.push _ _
  | case12 => cases reads
  | case13 _ _ _ _ _ inductionHypothesis => exact inductionHypothesis (begins.push _ _) reads
  | case14 _ _ _ _ _ _ _ _ _ _ _ _ inductionHypothesis =>
      exact inductionHypothesis (begins.push _ _) reads

end BeginsWith

end Reading

/-- The slash, and the characters that do not stand for themselves. -/
def specialCharacters : List Char := ['?', '*', '[', '\x7b', '\x7d', ',', '\\', '/']

/-- A text that begins with a character that stands for itself is a pattern that does so. -/
theorem exists_tokens_of_read {character : Char} {text : String} {tokens : List Token}
    (isOrdinary : character ∉ specialCharacters) (starts : text.toList.head? = some character)
    (reads : read text = .ok tokens) : ∃ rest, tokens = .literal character :: rest := by
  obtain ⟨others, isText⟩ := List.head?_eq_some_iff.mp starts
  simp only [specialCharacters, List.mem_cons, List.not_mem_nil, or_false, not_or] at isOrdinary
  obtain ⟨_, _, _, _, _, _, _, notSlash⟩ := isOrdinary
  have begins : Reading.BeginsWith character (Reading.start.push (.literal character))
      (some character) := ⟨rfl, fun _ isSlash => absurd (Option.some.inj isSlash) notSlash⟩
  unfold read at reads
  dsimp only at reads
  rw [isText, List.length_cons, readTokens] at reads
  split at reads
  next => cases reads
  next after isRead =>
    split_ifs at reads with isInGroup
    cases reads
    obtain ⟨last, begun⟩ := begins.after_readTokens isRead
    obtain ⟨current, outer⟩ := after
    obtain rfl : outer = [] := by simpa [Reading.isInGroup] using isInGroup
    have first : current.tokens.getLast? = some (.literal character) := begun.first
    exact List.head?_eq_some_iff.mp (by rw [List.head?_reverse, first])
  all_goals assumption
end FunctionAtlas.Glob
