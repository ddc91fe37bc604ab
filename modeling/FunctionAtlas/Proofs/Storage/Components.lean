import FunctionAtlas.Storage.Path
import Mathlib.Data.List.Basic
import Mathlib.Tactic.SplitIfs

/-!
Contract: the components of joined paths.

The pieces of a text with a slash in it are the pieces before the slash and those after it. So a
path that is joined to a name has one more component, which is that name.

Owns: the names of entries, and the components of joined paths.
-/

namespace FunctionAtlas.Storage

/-- What can be the name of an entry. -/
structure IsName (name : String) : Prop where
  nonempty : name ≠ ""
  undivided : '/' ∉ name.toList
  notHere : name ≠ "."
  notUp : name ≠ ".."

instance (name : String) : Decidable (IsName name) :=
  decidable_of_iff (name ≠ "" ∧ '/' ∉ name.toList ∧ name ≠ "." ∧ name ≠ "..")
    ⟨fun ⟨nonempty, undivided, notHere, notUp⟩ => ⟨nonempty, undivided, notHere, notUp⟩,
      fun isName => ⟨isName.nonempty, isName.undivided, isName.notHere, isName.notUp⟩⟩

/-! ## Pieces -/

theorem splitSlash_slash (rest : List Char) :
    splitSlash ('/' :: rest) = [] :: splitSlash rest := rfl

theorem splitSlash_of_ne {character : Char} {rest piece : List Char} {pieces : List (List Char)}
    (isOther : character ≠ '/') (split : splitSlash rest = piece :: pieces) :
    splitSlash (character :: rest) = (character :: piece) :: pieces := by
  rw [splitSlash, if_neg isOther, split]

theorem splitSlash_ne_nil (characters : List Char) : splitSlash characters ≠ [] := by
  induction characters with
  | nil => exact List.cons_ne_nil _ _
  | cons character rest inductionHypothesis =>
      by_cases isSlash : character = '/'
      · rw [isSlash, splitSlash_slash]
        exact List.cons_ne_nil _ _
      · obtain ⟨piece, pieces, split⟩ := List.exists_cons_of_ne_nil inductionHypothesis
        rw [splitSlash_of_ne isSlash split]
        exact List.cons_ne_nil _ _

theorem splitSlash_of_not_mem {characters : List Char} (undivided : '/' ∉ characters) :
    splitSlash characters = [characters] := by
  induction characters with
  | nil => rfl
  | cons character rest inductionHypothesis =>
      obtain ⟨isOther, restUndivided⟩ := not_or.mp (List.mem_cons.not.mp undivided)
      exact splitSlash_of_ne (Ne.symm isOther) (inductionHypothesis restUndivided)

theorem splitSlash_append (before after : List Char) :
    splitSlash (before ++ '/' :: after) = splitSlash before ++ splitSlash after := by
  induction before with
  | nil => rfl
  | cons character rest inductionHypothesis =>
      rw [List.cons_append]
      by_cases isSlash : character = '/'
      · rw [isSlash, splitSlash_slash, splitSlash_slash, inductionHypothesis, List.cons_append]
      · obtain ⟨piece, pieces, split⟩ := List.exists_cons_of_ne_nil (splitSlash_ne_nil rest)
        rw [split, List.cons_append] at inductionHypothesis
        rw [splitSlash_of_ne isSlash split, splitSlash_of_ne isSlash inductionHypothesis,
          List.cons_append]

namespace Path

/-- What pieces after the beginning contribute to the components. -/
def pieceComponents (pieces : List String) : List Component :=
  (pieces.filter fun piece => !isSilent piece).map componentOf

theorem pieceComponents_append (before after : List String) :
    pieceComponents (before ++ after) = pieceComponents before ++ pieceComponents after := by
  rw [pieceComponents, List.filter_append, List.map_append]
  rfl

theorem pieceComponents_singleton {name : String} (isName : IsName name) :
    pieceComponents [name] = [.named name] := by
  have speaks : isSilent name = false := by
    simp [isSilent, isName.nonempty, isName.notHere]
  simp [pieceComponents, speaks, componentOf, isName.notUp]

/-- How a path with the given pieces begins. -/
def anchorOf : List String → Anchor
  | "" :: _ :: _ => .top
  | "." :: _ => .here
  | _ => .relative

/-- The pieces that make the beginning are silent, so it does no harm to count them with the
rest. -/
theorem components_ofText (text : String) :
    (ofText text).components =
      anchorComponents (anchorOf ((splitSlash text.toList).map String.ofList)) ++
        pieceComponents ((splitSlash text.toList).map String.ofList) := by
  unfold ofText
  generalize (splitSlash text.toList).map String.ofList = pieces
  split
  · rfl
  · rfl
  next notTop notHere =>
    have isRelative : anchorOf pieces = .relative := by
      unfold anchorOf
      split
      next first rest => exact absurd rfl (notTop first rest)
      next rest => exact absurd rfl (notHere rest)
      next => rfl
    rw [isRelative]
    split_ifs with isBare
    · rw [isBare]
      rfl
    · rfl

/-- More pieces change no beginning, but that of the empty text. -/
theorem anchorOf_append {pieces : List String} (more : List String) (isSome : pieces ≠ [])
    (notBare : pieces ≠ [""]) : anchorOf (pieces ++ more) = anchorOf pieces := by
  match pieces with
  | [] => exact absurd rfl isSome
  | [piece] =>
      by_cases isHere : piece = "."
      · rw [isHere]
        rfl
      · have nonempty : piece ≠ "" := by simpa using notBare
        simp [anchorOf, isHere, nonempty]
  | first :: second :: rest =>
      by_cases isTop : first = ""
      · rw [isTop]
        rfl
      · by_cases isHere : first = "."
        · rw [isHere]
          rfl
        · simp [anchorOf, isHere, isTop]

end Path

/-! ## Joined paths -/

theorem exists_stem_of_endsWith {text : String} (ends : text.endsWith "/" = true) :
    ∃ stem : List Char, text.toList = stem ++ ['/'] := by
  rw [← String.endsWith_toSlice, String.Slice.endsWith_string_iff] at ends
  obtain ⟨stem, split⟩ := ends
  rw [String.copy_toSlice] at split
  exact ⟨stem, split.symm⟩

/-- The characters of a path without a slash at its end. -/
def stemOf (folder : String) : List Char :=
  if folder.endsWith "/" then folder.toList.dropLast else folder.toList

theorem IsName.startsWith_slash {name : String} (isName : IsName name) :
    name.startsWith "/" = false := by
  rw [Bool.eq_false_iff, ne_eq, String.startsWith_string_iff]
  rintro ⟨rest, divided⟩
  exact isName.undivided (divided ▸ List.mem_cons_self)

/-- Where there is no folder, a name stands alone. -/
theorem joinPath_empty {name : String} (notTop : name.startsWith "/" = false) :
    joinPath "" name = name := by
  simp [joinPath, notTop]

theorem toList_joinPath {folder name : String} (nonempty : folder ≠ "") (isName : IsName name) :
    (joinPath folder name).toList = stemOf folder ++ '/' :: name.toList := by
  rw [joinPath, isName.startsWith_slash, if_neg (by decide), stemOf]
  by_cases ends : folder.endsWith "/" = true
  · obtain ⟨stem, split⟩ := exists_stem_of_endsWith ends
    simp [ends, split]
  · simp [ends, nonempty]

theorem joinPath_of_isName {folder name : String} (nonempty : folder ≠ "") (isName : IsName name) :
    ∃ stem : List Char, (joinPath folder name).toList = stem ++ '/' :: name.toList ∧
      (folder.toList = stem ∨ folder.toList = stem ++ ['/']) := by
  refine ⟨stemOf folder, toList_joinPath nonempty isName, ?_⟩
  unfold stemOf
  split_ifs with ends
  · obtain ⟨stem, split⟩ := exists_stem_of_endsWith ends
    exact .inr (by simp [split])
  · exact .inl rfl

theorem joinPath_ne_empty {folder name : String} (nonempty : folder ≠ "") (isName : IsName name) :
    joinPath folder name ≠ "" := by
  obtain ⟨stem, joined, -⟩ := joinPath_of_isName nonempty isName
  intro isEmpty
  rw [isEmpty] at joined
  simp at joined

theorem eq_nil_of_splitSlash {characters : List Char} (isBare : splitSlash characters = [[]]) :
    characters = [] := by
  cases characters with
  | nil => rfl
  | cons character rest =>
      by_cases isSlash : character = '/'
      · rw [isSlash, splitSlash_slash] at isBare
        exact absurd (List.cons.inj isBare).2 (splitSlash_ne_nil rest)
      · obtain ⟨piece, pieces, split⟩ := List.exists_cons_of_ne_nil (splitSlash_ne_nil rest)
        rw [splitSlash_of_ne isSlash split] at isBare
        cases isBare

/-- A name that is joined to a path is its last component. -/
theorem components_joinPath {folder name : String} (nonempty : folder ≠ "")
    (isName : IsName name) :
    (Path.ofText (joinPath folder name)).components =
      (Path.ofText folder).components ++ [.named name] := by
  obtain ⟨stem, joined, isFolder⟩ := joinPath_of_isName nonempty isName
  rw [Path.components_ofText, Path.components_ofText, joined, splitSlash_append,
    splitSlash_of_not_mem isName.undivided, List.map_append, List.map_singleton,
    String.ofList_toList, Path.pieceComponents_append, Path.pieceComponents_singleton isName,
    List.append_assoc]
  have isSome : (splitSlash stem).map String.ofList ≠ [] := by
    simpa using splitSlash_ne_nil stem
  rcases isFolder with isStem | isStem
  · have notBare : (splitSlash stem).map String.ofList ≠ [""] := by
      intro isBare
      have bare : splitSlash stem = [[]] := by simpa [List.map_eq_cons_iff] using isBare
      rw [eq_nil_of_splitSlash bare] at isStem
      exact nonempty (by simpa using isStem)
    rw [isStem, Path.anchorOf_append _ isSome notBare]
  · rw [isStem, splitSlash_append, List.map_append, Path.pieceComponents_append]
    have sameAnchor : Path.anchorOf ((splitSlash stem).map String.ofList ++ [name]) =
        Path.anchorOf ((splitSlash stem).map String.ofList ++ [""]) := by
      by_cases isBare : (splitSlash stem).map String.ofList = [""]
      · rw [isBare]
        rfl
      · rw [Path.anchorOf_append _ isSome isBare, Path.anchorOf_append _ isSome isBare]
    rw [sameAnchor]
    simp [splitSlash, Path.pieceComponents, isSilent]

end FunctionAtlas.Storage
