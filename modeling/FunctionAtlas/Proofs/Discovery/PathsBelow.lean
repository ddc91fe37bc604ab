import FunctionAtlas.Discovery.Walk
import FunctionAtlas.Proofs.Storage.Components
import Mathlib

/-!
Contract: the texts of paths below a root.

All paths below a root begin with the same text, and the names follow with slashes between them.
Seen from a base that lies on the way to the root, they lose the same text at the beginning. So
such paths can be told apart by their names alone, also in reports, except that reports write
backslashes as slashes.

Owns: the common beginnings of paths below a root and of their identifiers.
-/

namespace FunctionAtlas.Discovery

open FunctionAtlas.Storage

/-! ## Names with slashes between them -/

/-- Names of entries, at least one. -/
structure AreNames (names : Names) : Prop where
  isSome : names ≠ []
  isName : ∀ name ∈ names, IsName name

/-- Names with slashes between them. -/
def namesText (names : Names) : List Char := (String.intercalate "/" names).toList

theorem namesText_singleton (name : String) : namesText [name] = name.toList := by
  simp [namesText]

theorem namesText_cons (name : String) {rest : Names} (isSome : rest ≠ []) :
    namesText (name :: rest) = name.toList ++ '/' :: namesText rest := by
  cases rest with
  | nil => exact absurd rfl isSome
  | cons next others =>
      simp [namesText, String.toList_intercalate]

theorem AreNames.tail {name : String} {rest : Names} (areNames : AreNames (name :: rest))
    (isSome : rest ≠ []) : AreNames rest :=
  ⟨isSome, fun other member => areNames.isName other (List.mem_cons_of_mem _ member)⟩

/-- The names can be told from their text. -/
theorem splitSlash_namesText {names : Names} (areNames : AreNames names) :
    splitSlash (namesText names) = names.map String.toList := by
  induction names with
  | nil => exact absurd rfl areNames.isSome
  | cons name rest inductionHypothesis =>
      have undivided := (areNames.isName name List.mem_cons_self).undivided
      by_cases isLast : rest = []
      · rw [isLast, namesText_singleton, splitSlash_of_not_mem undivided]
        rfl
      · rw [namesText_cons name isLast, splitSlash_append, splitSlash_of_not_mem undivided,
          inductionHypothesis (areNames.tail isLast)]
        rfl

theorem namesText_inj {first second : Names} (areFirst : AreNames first)
    (areSecond : AreNames second) (same : namesText first = namesText second) :
    first = second := by
  have sameNames : first.map String.toList = second.map String.toList := by
    rw [← splitSlash_namesText areFirst, same, splitSlash_namesText areSecond]
  exact List.map_injective_iff.mpr (fun _ _ => String.toList_inj.mp) sameNames

theorem namesText_ne_nil {names : Names} (areNames : AreNames names) : namesText names ≠ [] := by
  cases names with
  | nil => exact absurd rfl areNames.isSome
  | cons name rest =>
      have nonempty : name.toList ≠ [] := by
        simpa using (areNames.isName name List.mem_cons_self).nonempty
      by_cases isLast : rest = []
      · rw [isLast, namesText_singleton]
        exact nonempty
      · rw [namesText_cons name isLast]
        simp

/-- Pieces before the names put the same text in front of them. -/
theorem namesText_append (pieces : List String) {names : Names} (isSome : names ≠ []) :
    namesText (pieces ++ names) =
      pieces.flatMap (fun piece => piece.toList ++ ['/']) ++ namesText names := by
  induction pieces with
  | nil => rfl
  | cons piece rest inductionHypothesis =>
      rw [List.cons_append, namesText_cons piece (by simp [isSome]), inductionHypothesis]
      simp

/-- Names bring no character with them but slashes. -/
theorem not_mem_namesText {names : Names} {character : Char} (isOther : character ≠ '/')
    (notInside : ∀ name ∈ names, character ∉ name.toList) : character ∉ namesText names := by
  induction names with
  | nil => exact List.not_mem_nil
  | cons name rest inductionHypothesis =>
      obtain ⟨notInName, notInRest⟩ := List.forall_mem_cons.mp notInside
      by_cases isLast : rest = []
      · rw [isLast, namesText_singleton]
        exact notInName
      · rw [namesText_cons name isLast, List.mem_append, List.mem_cons, not_or, not_or]
        exact ⟨notInName, isOther, inductionHypothesis notInRest⟩

/-! ## Paths below a root -/

theorem stemOf_joinPath {folder name : String} (nonempty : folder ≠ "") (isName : IsName name) :
    stemOf (joinPath folder name) = (joinPath folder name).toList := by
  rw [stemOf, if_neg]
  intro ends
  obtain ⟨stem, split⟩ := exists_stem_of_endsWith ends
  rw [toList_joinPath nonempty isName] at split
  have isSlash := congrArg List.getLast? split
  have nameEnds : name.toList ≠ [] := by simpa using isName.nonempty
  rw [List.getLast?_append, List.getLast?_append, List.getLast?_cons,
    List.getLast?_eq_some_getLast nameEnds] at isSlash
  have isLast : name.toList.getLast nameEnds = '/' := by simpa using isSlash
  exact isName.undivided (isLast ▸ List.getLast_mem nameEnds)

/-- A path below a root is the root, a slash and the names. -/
theorem toList_pathBelow {root : String} (nonempty : root ≠ "") {names : Names}
    (areNames : AreNames names) :
    (pathBelow root names).toList = stemOf root ++ '/' :: namesText names := by
  induction names generalizing root with
  | nil => exact absurd rfl areNames.isSome
  | cons name rest inductionHypothesis =>
      have isName := areNames.isName name List.mem_cons_self
      have joined : pathBelow root (name :: rest) = pathBelow (joinPath root name) rest := rfl
      by_cases isLast : rest = []
      · rw [isLast, namesText_singleton, ← toList_joinPath nonempty isName]
        rfl
      · rw [joined, inductionHypothesis (joinPath_ne_empty nonempty isName) (areNames.tail isLast),
          stemOf_joinPath nonempty isName, toList_joinPath nonempty isName,
          namesText_cons name isLast, List.append_assoc, List.cons_append]

/-- Cut into pieces, a path below a root begins like the root and ends in the names. -/
theorem ofText_pathBelow {root : String} (nonempty : root ≠ "") :
    ∃ anchor pieces, ∀ names, AreNames names →
      Path.ofText (pathBelow root names) = ⟨anchor, pieces ++ names⟩ := by
  have cut : ∀ names, AreNames names →
      (splitSlash (pathBelow root names).toList).map String.ofList =
        (splitSlash (stemOf root)).map String.ofList ++ names := by
    intro names areNames
    rw [toList_pathBelow nonempty areNames, splitSlash_append, splitSlash_namesText areNames,
      List.map_append, List.map_map]
    simp [Function.comp_def]
  have isSome : (splitSlash (stemOf root)).map String.ofList ≠ [] := by
    simpa using splitSlash_ne_nil (stemOf root)
  generalize (splitSlash (stemOf root)).map String.ofList = pieces at cut isSome
  match pieces with
  | [] => exact absurd rfl isSome
  | first :: rest =>
      -- The first piece tells how the path begins; names come after it, so it is not alone.
      by_cases isTop : first = ""
      · refine ⟨.top, rest, fun names areNames => ?_⟩
        obtain ⟨next, others, following⟩ := List.exists_cons_of_ne_nil
          (List.append_ne_nil_of_right_ne_nil rest areNames.isSome)
        rw [Path.ofText, cut names areNames, isTop, List.cons_append, following]
        rfl
      · by_cases isHere : first = "."
        · refine ⟨.here, rest, fun names areNames => ?_⟩
          rw [Path.ofText, cut names areNames, isHere, List.cons_append]
          rfl
        · refine ⟨.relative, first :: rest, fun names areNames => ?_⟩
          have notBare : first :: (rest ++ names) ≠ [""] := by simp [isTop]
          rw [Path.ofText, cut names areNames, List.cons_append]
          split
          next isFirst => exact absurd (List.cons.inj isFirst).1 isTop
          next isFirst => exact absurd (List.cons.inj isFirst).1 isHere
          next => rw [if_neg notBare]

/-! ## As seen from a base -/

theorem isSilent_of_isName {name : String} (isName : IsName name) : isSilent name = false := by
  simp [isSilent, isName.nonempty, isName.notHere]

/-- Names at the end are not left out with silent pieces. -/
theorem trimEnd_append_names (pieces : List String) {names : Names} (areNames : AreNames names) :
    Path.trimEnd (pieces ++ names) = pieces ++ names := by
  obtain ⟨before, last, rfl⟩ := List.eq_nil_or_concat names |>.resolve_left areNames.isSome
  have speaks := isSilent_of_isName (areNames.isName last (by simp))
  simp [Path.trimEnd, speaks]

theorem dropWhile_append_names (pieces : List String) {names : Names} (areNames : AreNames names) :
    (pieces ++ names).dropWhile isSilent = pieces.dropWhile isSilent ++ names := by
  obtain ⟨name, rest, rfl⟩ := List.exists_cons_of_ne_nil areNames.isSome
  have speaks := isSilent_of_isName (areNames.isName name List.mem_cons_self)
  induction pieces with
  | nil => simp [speaks]
  | cons piece others inductionHypothesis =>
      rw [List.cons_append, List.dropWhile_cons, List.dropWhile_cons]
      split_ifs
      · exact inductionHypothesis
      · rfl

/-- Steps that the pieces make can be dropped from them, whatever follows. -/
theorem exists_dropSteps_append {steps : List Component} {pieces : List String}
    (made : steps <+: Path.pieceComponents pieces) :
    ∃ rest, ∀ more, Path.dropSteps steps (pieces ++ more) = some (rest ++ more) := by
  induction pieces generalizing steps with
  | nil =>
      obtain rfl := List.prefix_nil.mp made
      exact ⟨[], fun more => by rw [Path.dropSteps]⟩
  | cons piece pieces inductionHypothesis =>
      cases steps with
      | nil => exact ⟨piece :: pieces, fun more => by rw [Path.dropSteps]⟩
      | cons step steps =>
          by_cases silent : isSilent piece = true
          · have sameSteps : Path.pieceComponents (piece :: pieces) =
                Path.pieceComponents pieces := by
              simp [Path.pieceComponents, silent]
            rw [sameSteps] at made
            obtain ⟨rest, dropped⟩ := inductionHypothesis made
            refine ⟨rest, fun more => ?_⟩
            rw [List.cons_append, Path.dropSteps, if_pos silent, dropped]
          · have nextStep : Path.pieceComponents (piece :: pieces) =
                Path.componentOf piece :: Path.pieceComponents pieces := by
              simp [Path.pieceComponents, silent]
            rw [nextStep, List.cons_prefix_cons] at made
            obtain ⟨rest, dropped⟩ := inductionHypothesis made.2
            refine ⟨rest, fun more => ?_⟩
            rw [List.cons_append, Path.dropSteps, if_neg silent, if_pos made.1.symm, dropped]

/-- What stands before the names when a path is written. -/
theorem exists_toText_append (anchor : Anchor) (pieces : List String) :
    ∃ front, ∀ names : Names, names ≠ [] →
      (Path.toText ⟨anchor, pieces ++ names⟩).toList = front ++ namesText names := by
  cases anchor with
  | relative => exact ⟨_, fun names isSome => namesText_append pieces isSome⟩
  | here => exact ⟨_, fun names isSome => namesText_append ("." :: pieces) isSome⟩
  | top =>
      refine ⟨'/' :: pieces.flatMap (fun piece => piece.toList ++ ['/']), fun names isSome => ?_⟩
      rw [List.cons_append, ← namesText_append pieces isSome]
      exact String.toList_append

/-- The components of a root are those of the paths below it, without the names. -/
theorem components_of_cut {root : String} (nonempty : root ≠ "") {anchor : Anchor}
    {pieces : List String}
    (cut : ∀ names, AreNames names →
      Path.ofText (pathBelow root names) = ⟨anchor, pieces ++ names⟩) :
    (Path.ofText root).components =
      Path.anchorComponents anchor ++ Path.pieceComponents pieces := by
  have isName : IsName "a" := by decide
  have joined := components_joinPath nonempty isName
  have isCut : Path.ofText (joinPath root "a") = ⟨anchor, pieces ++ ["a"]⟩ :=
    cut ["a"] ⟨by simp, by simpa using isName⟩
  rw [isCut] at joined
  have parts : Path.components ⟨anchor, pieces ++ ["a"]⟩ =
      Path.anchorComponents anchor ++ Path.pieceComponents pieces ++ [.named "a"] := by
    rw [List.append_assoc, ← Path.pieceComponents_singleton isName, ← Path.pieceComponents_append]
    rfl
  exact (List.append_cancel_right (parts.symm.trans joined)).symm

/-- Seen from a base on the way to the root, all paths below the root begin with the same text. -/
theorem exists_relativeText_pathBelow {base root : String} (nonempty : root ≠ "")
    (isBase : (Path.ofText base).components <+: (Path.ofText root).components) :
    ∃ front, ∀ names, AreNames names →
      (relativeText base (pathBelow root names)).toList = front ++ namesText names := by
  obtain ⟨anchor, pieces, cut⟩ := ofText_pathBelow nonempty
  rw [components_of_cut nonempty cut] at isBase
  by_cases isEmpty : (Path.ofText base).components = []
  · obtain ⟨front, written⟩ := exists_toText_append anchor pieces
    refine ⟨front, fun names areNames => ?_⟩
    rw [relativeText, cut names areNames, Path.relativeTo, isEmpty]
    dsimp only
    rw [trimEnd_append_names pieces areNames, written names areNames.isSome]
  · obtain ⟨step, steps, isSteps⟩ := List.exists_cons_of_ne_nil isEmpty
    rw [isSteps] at isBase
    -- The base has the beginning of the root, and its other steps are steps of the pieces.
    obtain ⟨begins, made⟩ : (step :: steps).take (Path.anchorComponents anchor).length =
          Path.anchorComponents anchor ∧
        (step :: steps).drop (Path.anchorComponents anchor).length <+:
          Path.pieceComponents pieces := by
      cases anchor with
      | relative => exact ⟨rfl, isBase⟩
      | here =>
          obtain ⟨rfl, made⟩ := List.cons_prefix_cons.mp isBase
          exact ⟨rfl, made⟩
      | top =>
          obtain ⟨rfl, made⟩ := List.cons_prefix_cons.mp isBase
          exact ⟨rfl, made⟩
    obtain ⟨rest, dropped⟩ := exists_dropSteps_append made
    obtain ⟨front, written⟩ := exists_toText_append .relative (rest.dropWhile isSilent)
    refine ⟨front, fun names areNames => ?_⟩
    rw [relativeText, cut names areNames, Path.relativeTo, isSteps]
    dsimp only
    rw [if_pos begins, dropped, Option.map_some]
    dsimp only
    rw [dropWhile_append_names rest areNames, trimEnd_append_names _ areNames,
      written names areNames.isSome]

/-! ## Identifiers -/

theorem forwardSlashes_eq_iff {first second : String} :
    forwardSlashes first = forwardSlashes second ↔
      first.toList.map (fun character => if character = '\\' then '/' else character) =
        second.toList.map (fun character => if character = '\\' then '/' else character) := by
  rw [forwardSlashes, forwardSlashes, String.ofList_inj]

theorem forwardSlashes_of_not_mem {text : String} (noBackslash : '\\' ∉ text.toList) :
    forwardSlashes text = text := by
  have unchanged : text.toList.map (fun character => if character = '\\' then '/' else character) =
      text.toList := by
    refine (List.map_congr_left fun character member => ?_).trans (List.map_id _)
    rw [if_neg]
    · rfl
    · rintro rfl
      exact noBackslash member
  rw [forwardSlashes, unchanged, String.ofList_toList]

/-- Seen from a base on the way to the root, two paths below the root have one identifier exactly if
their names are the same up to backslashes for slashes. -/
theorem fileId_pathBelow_eq_iff {base root : String} (nonempty : root ≠ "")
    (isBase : (Path.ofText base).components <+: (Path.ofText root).components)
    {first second : Names} (areFirst : AreNames first) (areSecond : AreNames second) :
    fileId base (pathBelow root first) = fileId base (pathBelow root second) ↔
      forwardSlashes (String.intercalate "/" first) =
        forwardSlashes (String.intercalate "/" second) := by
  obtain ⟨front, seen⟩ := exists_relativeText_pathBelow nonempty isBase
  have isNamed : ∀ names, AreNames names →
      fileId base (pathBelow root names) =
        forwardSlashes (relativeText base (pathBelow root names)) := by
    intro names areNames
    have isSome : relativeText base (pathBelow root names) ≠ "" := by
      intro isEmpty
      have noText := seen names areNames
      rw [isEmpty] at noText
      exact namesText_ne_nil areNames (List.append_eq_nil_iff.mp noText.symm).2
    rw [fileId, if_neg isSome]
  rw [isNamed first areFirst, isNamed second areSecond, forwardSlashes_eq_iff,
    forwardSlashes_eq_iff, seen first areFirst, seen second areSecond, List.map_append,
    List.map_append, List.append_cancel_left_eq]
  rfl

end FunctionAtlas.Discovery
