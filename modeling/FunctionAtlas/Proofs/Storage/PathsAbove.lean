import FunctionAtlas.Proofs.Storage.Components
import FunctionAtlas.Storage.Disk
import Mathlib

/-!
Contract: the paths above a path.

Going to the parent of a path leaves out pieces at its end, so the paths above it have its first
components, and a walk along the path begins with a walk along each of them. All these paths can be
written and cut again.

Owns: what cutting a text and writing a path do to each other, parents, and the start of a walk.

Does not own: what is on a disk.
-/

namespace FunctionAtlas.Storage

/-! ## Pieces and texts -/

theorem undivided_of_mem_splitSlash {characters piece : List Char}
    (member : piece ∈ splitSlash characters) : '/' ∉ piece := by
  induction characters generalizing piece with
  | nil =>
      rw [List.mem_singleton.mp member]
      exact List.not_mem_nil
  | cons character rest inductionHypothesis =>
      rw [splitSlash] at member
      split_ifs at member with isSlash
      · rcases List.mem_cons.mp member with rfl | later
        · exact List.not_mem_nil
        · exact inductionHypothesis later
      · cases split : splitSlash rest with
        | nil => exact absurd split (splitSlash_ne_nil rest)
        | cons first others =>
            rw [split] at member inductionHypothesis
            rcases List.mem_cons.mp member with rfl | later
            · have undivided := inductionHypothesis List.mem_cons_self
              simp [undivided, Ne.symm isSlash]
            · exact inductionHypothesis (List.mem_cons_of_mem _ later)

/-- Pieces with slashes between them can be told from their text. -/
theorem splitSlash_intercalate {pieces : List String} (isSome : pieces ≠ [])
    (undivided : ∀ piece ∈ pieces, '/' ∉ piece.toList) :
    (splitSlash (String.intercalate "/" pieces).toList).map String.ofList = pieces := by
  induction pieces with
  | nil => exact absurd rfl isSome
  | cons piece rest inductionHypothesis =>
      obtain ⟨pieceUndivided, restUndivided⟩ := List.forall_mem_cons.mp undivided
      cases rest with
      | nil => simp [splitSlash_of_not_mem pieceUndivided]
      | cons next others =>
          have joined : (String.intercalate "/" (piece :: next :: others)).toList =
              piece.toList ++ '/' :: (String.intercalate "/" (next :: others)).toList := by
            simp [String.toList_intercalate]
          rw [joined, splitSlash_append, splitSlash_of_not_mem pieceUndivided, List.map_append,
            inductionHypothesis (by simp) restUndivided]
          simp

/-- Only a text that begins with a slash has an empty piece with another one behind it in front. -/
theorem exists_rest_of_splitSlash {characters : List Char} {next : List Char}
    {others : List (List Char)} (split : splitSlash characters = [] :: next :: others) :
    ∃ rest, characters = '/' :: rest := by
  cases characters with
  | nil => simp [splitSlash] at split
  | cons character rest =>
      rw [splitSlash] at split
      split_ifs at split with isSlash
      · exact ⟨rest, by rw [isSlash]⟩
      · cases pieces : splitSlash rest with
        | nil => exact absurd pieces (splitSlash_ne_nil rest)
        | cons first others =>
            rw [pieces] at split
            simp at split

namespace Path

/-- A path that can be written: no piece holds a slash, and a relative path begins with a piece that
says something. -/
structure Proper (path : Path) : Prop where
  undivided : ∀ piece ∈ path.pieces, '/' ∉ piece.toList
  begins : path.anchor = .relative → ∀ first ∈ path.pieces.head?, isSilent first = false

/-- Where a walk along a path starts. -/
def start (working : Location) (path : Path) : Location :=
  if path.anchor = .top then [] else working

/-- What cutting a text gives, by its pieces. -/
theorem ofText_cases (text : String) :
    (∃ rest, (splitSlash text.toList).map String.ofList = "" :: rest ∧ rest ≠ [] ∧
      ofText text = ⟨.top, rest⟩) ∨
    (∃ rest, (splitSlash text.toList).map String.ofList = "." :: rest ∧
      ofText text = ⟨.here, rest⟩) ∨
    ((splitSlash text.toList).map String.ofList = [""] ∧ ofText text = ⟨.relative, []⟩) ∨
    ∃ first rest, (splitSlash text.toList).map String.ofList = first :: rest ∧
      isSilent first = false ∧ ofText text = ⟨.relative, first :: rest⟩ := by
  have isSome : (splitSlash text.toList).map String.ofList ≠ [] := by
    simpa using splitSlash_ne_nil text.toList
  unfold ofText
  generalize (splitSlash text.toList).map String.ofList = pieces at isSome ⊢
  split
  next first rest => exact .inl ⟨_, rfl, by simp, rfl⟩
  next rest => exact .inr (.inl ⟨rest, rfl, rfl⟩)
  next notTop notHere =>
    obtain ⟨first, rest, rfl⟩ := List.exists_cons_of_ne_nil isSome
    by_cases isEmpty : first = ""
    · subst isEmpty
      cases rest with
      | nil => exact .inr (.inr (.inl ⟨rfl, rfl⟩))
      | cons next others => exact absurd rfl (notTop next others)
    · have isOther : first ≠ "." := fun isHere => notHere rest (by rw [isHere])
      refine .inr (.inr (.inr ⟨first, rest, rfl, by simp [isSilent, isEmpty, isOther], ?_⟩))
      rw [if_neg (by simp [isEmpty])]

theorem proper_ofText (text : String) : (ofText text).Proper := by
  have undivided : ∀ piece ∈ (splitSlash text.toList).map String.ofList, '/' ∉ piece.toList := by
    intro piece member
    obtain ⟨characters, isPiece, rfl⟩ := List.mem_map.mp member
    rw [String.toList_ofList]
    exact undivided_of_mem_splitSlash isPiece
  rcases ofText_cases text with ⟨rest, cut, -, isPath⟩ | ⟨rest, cut, isPath⟩ | ⟨-, isPath⟩ |
    ⟨first, rest, cut, speaks, isPath⟩
  · rw [cut] at undivided
    rw [isPath]
    exact ⟨(List.forall_mem_cons.mp undivided).2, by simp⟩
  · rw [cut] at undivided
    rw [isPath]
    exact ⟨(List.forall_mem_cons.mp undivided).2, by simp⟩
  · rw [isPath]
    exact ⟨by simp, by simp⟩
  · rw [cut] at undivided
    rw [isPath]
    exact ⟨undivided, by simpa using speaks⟩

/-- A path that is written and cut again is the same, except that the top folder gets a piece that
says nothing. -/
theorem Proper.ofText_toText {path : Path} (proper : path.Proper) :
    ofText path.toText = path ∨ path = ⟨.top, []⟩ ∧ ofText path.toText = ⟨.top, [""]⟩ := by
  obtain ⟨anchor, pieces⟩ := path
  have undivided := proper.undivided
  cases anchor with
  | relative =>
      left
      cases pieces with
      | nil => rfl
      | cons first rest =>
          have speaks : isSilent first = false := proper.begins rfl first rfl
          have cut : (splitSlash (toText ⟨.relative, first :: rest⟩).toList).map String.ofList =
              first :: rest := splitSlash_intercalate (by simp) undivided
          obtain ⟨nonempty, notHere⟩ : first ≠ "" ∧ first ≠ "." := by
            simpa [isSilent] using speaks
          rw [ofText, cut]
          split
          next isFirst => exact absurd (List.cons.inj isFirst).1 nonempty
          next isFirst => exact absurd (List.cons.inj isFirst).1 notHere
          next => rw [if_neg (by simp [nonempty])]
  | here =>
      left
      have cut : (splitSlash (toText ⟨.here, pieces⟩).toList).map String.ofList = "." :: pieces :=
        splitSlash_intercalate (by simp) (List.forall_mem_cons.mpr ⟨by decide, undivided⟩)
      rw [ofText, cut]
      rfl
  | top =>
      have begins : (toText ⟨.top, pieces⟩).toList =
          '/' :: (String.intercalate "/" pieces).toList := by
        simp [toText]
      cases pieces with
      | nil => exact .inr ⟨rfl, by cbv⟩
      | cons first rest =>
          have cut : (splitSlash (toText ⟨.top, first :: rest⟩).toList).map String.ofList =
              "" :: first :: rest := by
            rw [begins, splitSlash, if_pos rfl, List.map_cons,
              splitSlash_intercalate (by simp) undivided]
          left
          rw [ofText, cut]
          rfl

theorem Proper.components_toText {path : Path} (proper : path.Proper) :
    (ofText path.toText).components = path.components := by
  rcases proper.ofText_toText with same | ⟨isTop, isCut⟩
  · rw [same]
  · rw [isCut, isTop]
    rfl

theorem not_mem_pieces {path : Path} (inwards : .up ∉ path.components) : ".." ∉ path.pieces := by
  intro isThere
  refine inwards (List.mem_append_right _ (List.mem_map.mpr ⟨"..", ?_, rfl⟩))
  exact List.mem_filter.mpr ⟨isThere, by simp [isSilent]⟩

/-! ## Parents -/

theorem trimEnd_isPrefix (pieces : List String) : trimEnd pieces <+: pieces := by
  rw [trimEnd, ← List.reverse_suffix, List.reverse_reverse]
  exact List.dropWhile_suffix _

/-- A parent has some of the first pieces; that of the working folder is the empty path. -/
theorem parent_cases {path above : Path} (isParent : path.parent = some above) :
    path.anchor = .here ∧ above = ⟨.relative, []⟩ ∨
      above.anchor = path.anchor ∧ above.pieces <+: path.pieces := by
  unfold parent at isParent
  split at isParent
  · split at isParent
    next isHere => exact .inl ⟨isHere, (Option.some.inj isParent).symm⟩
    next => cases isParent
  · obtain rfl := Option.some.inj isParent
    refine .inr ⟨rfl, ?_⟩
    exact (trimEnd_isPrefix _).trans ((List.dropLast_prefix _).trans (trimEnd_isPrefix _))

theorem Proper.parent {path above : Path} (proper : path.Proper)
    (isParent : path.parent = some above) : above.Proper := by
  rcases parent_cases isParent with ⟨-, rfl⟩ | ⟨sameAnchor, isFirst⟩
  · exact ⟨by simp, by simp⟩
  · refine ⟨fun piece member => proper.undivided piece (isFirst.subset member), ?_⟩
    intro isRelative first isHead
    obtain ⟨rest, split⟩ := isFirst
    refine proper.begins (sameAnchor.symm.trans isRelative) first ?_
    rw [← split, List.head?_append, isHead]
    rfl

theorem parent_components {path above : Path} (isParent : path.parent = some above) :
    above.components <+: path.components := by
  rcases parent_cases isParent with ⟨-, rfl⟩ | ⟨sameAnchor, rest, split⟩
  · exact List.nil_prefix
  · refine ⟨pieceComponents rest, ?_⟩
    rw [components, components, sameAnchor, List.append_assoc, ← split]
    exact congrArg _ (pieceComponents_append _ _).symm

/-- A walk along a path begins like one along its parent. -/
theorem start_and_pieces_of_parent {path above : Path} (isParent : path.parent = some above)
    (working : Location) :
    above.start working = path.start working ∧ ∃ rest, path.pieces = above.pieces ++ rest := by
  rcases parent_cases isParent with ⟨isHere, rfl⟩ | ⟨sameAnchor, rest, split⟩
  · exact ⟨by simp [start, isHere], path.pieces, rfl⟩
  · exact ⟨by rw [start, start, sameAnchor], rest, split.symm⟩

/-- The paths above a path have its first components. -/
theorem components_of_mem_pathsUpwards {fuel : Nat} {path : Path} (proper : path.Proper)
    {text : String} (member : text ∈ Disk.pathsUpwards fuel path) :
    (ofText text).components <+: path.components := by
  induction fuel generalizing path with
  | zero => cases member
  | succ fuel inductionHypothesis =>
      rw [Disk.pathsUpwards] at member
      split_ifs at member
      · cases member
      · rcases List.mem_cons.mp member with rfl | isAbove
        · rw [proper.components_toText]
        · split at isAbove
          next above isParent =>
            exact (inductionHypothesis (proper.parent isParent) isAbove).trans
              (parent_components isParent)
          next => cases isAbove

/-! ## The start of a walk -/

/-- A walk along a text is one along its path, with silent pieces in front. -/
theorem exists_startOf_eq (working : Location) (text : String) :
    ∃ lead, (∀ piece ∈ lead, isSilent piece = true) ∧
      Disk.startOf working text =
        ((ofText text).start working, lead ++ (ofText text).pieces) := by
  have isTop : text.startsWith "/" = true ↔ ∃ rest, text.toList = '/' :: rest := by
    rw [String.startsWith_string_iff]
    exact ⟨fun ⟨rest, split⟩ => ⟨rest, split.symm⟩, fun ⟨rest, split⟩ => ⟨rest, split.symm⟩⟩
  have notTop : ∀ {first rest}, (splitSlash text.toList).map String.ofList = first :: rest →
      first ≠ "" ∨ rest = [] → ¬ text.startsWith "/" = true := by
    intro first rest cut notEmpty begins
    obtain ⟨others, split⟩ := isTop.mp begins
    rw [split, splitSlash, if_pos rfl, List.map_cons] at cut
    rcases notEmpty with nonempty | isAlone
    · exact nonempty (List.cons.inj cut).1.symm
    · rw [isAlone] at cut
      exact splitSlash_ne_nil others (List.map_eq_nil_iff.mp (List.cons.inj cut).2)
  unfold Disk.startOf
  rcases ofText_cases text with ⟨rest, cut, isSome, isPath⟩ | ⟨rest, cut, isPath⟩ | ⟨cut, isPath⟩ |
    ⟨first, rest, cut, speaks, isPath⟩
  · have begins : text.startsWith "/" = true := by
      obtain ⟨next, others, rfl⟩ := List.exists_cons_of_ne_nil isSome
      obtain ⟨first, more, split, isFirst, isMore⟩ := List.map_eq_cons_iff.mp cut
      obtain ⟨second, last, rfl, -, -⟩ := List.map_eq_cons_iff.mp isMore
      obtain rfl : first = [] := by simpa using isFirst
      exact isTop.mpr (exists_rest_of_splitSlash split)
    refine ⟨[], by simp, ?_⟩
    rw [cut, isPath, if_pos begins]
    rfl
  · refine ⟨["."], by simp [isSilent], ?_⟩
    rw [isPath, if_neg (notTop cut (.inl (by decide))), cut]
    rfl
  · refine ⟨[""], by simp [isSilent], ?_⟩
    rw [isPath, if_neg (notTop cut (.inr rfl)), cut]
    rfl
  · have nonempty : first ≠ "" := by
      rintro rfl
      cases speaks
    refine ⟨[], by simp, ?_⟩
    rw [isPath, if_neg (notTop cut (.inl nonempty)), cut]
    rfl

end Path

end FunctionAtlas.Storage
