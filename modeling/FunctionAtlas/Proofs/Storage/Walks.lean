import FunctionAtlas.Proofs.Storage.PathsAbove
import FunctionAtlas.Proofs.Storage.Writing

/-!
Contract: walks that go on, and walks along paths.

A walk along a path that leads to a folder goes on from that folder. Pieces that say nothing can be
left out in front, and at the end they only ask for a folder. So where a text leads is where a walk
along its path ends.

Owns: walks that are split in two, and walks that end at a slash or a vacant place.

Does not own: what a disk gains.
-/

namespace FunctionAtlas.Storage

namespace Disk

/-! ## Where walks end -/

section Walks

variable {disk before after : Disk} {follow : Bool} {links : Nat} {current location : Location}
  {pieces : List String}

/-- A walk to a vacant place ends in the folder of that place. -/
theorem exists_folder_of_walk
    (walked : disk.walk follow links current pieces = .ok (.vacant location)) :
    disk.entryAt location = none ∧
      ∃ folder name, location = folder ++ [name] ∧ disk.isFolderAt folder = true := by
  fun_induction disk.walk follow links current pieces with
  | case3 _ _ _ _ _ _ inductionHypothesis => exact inductionHypothesis walked
  | case4 _ _ _ _ _ inductionHypothesis => exact inductionHypothesis walked
  | case6 _ current piece rest isFolder _ _ _ vacant =>
      cases walked
      exact ⟨vacant, current, piece, rfl, by simpa using isFolder⟩
  | case10 _ _ _ _ _ _ _ _ _ _ _ _ _ _ inductionHypothesis => exact inductionHypothesis walked
  | case11 _ _ _ _ _ _ _ _ _ _ _ inductionHypothesis => exact inductionHypothesis walked
  | case1 | case2 | case5 | case7 | case8 | case9 => cases walked

/-- The place of a file is in a folder. -/
theorem exists_folder_of_walkToFile (walked : disk.walkToFile links current pieces = .ok location) :
    ∃ folder name, location = folder ++ [name] ∧ disk.isFolderAt folder = true := by
  fun_induction disk.walkToFile links current pieces with
  | case3 _ _ _ _ _ _ inductionHypothesis => exact inductionHypothesis walked
  | case4 _ _ _ _ _ inductionHypothesis => exact inductionHypothesis walked
  | case7 _ current piece isFolder
  | case9 _ current piece isFolder =>
      cases walked
      exact ⟨current, piece, rfl, by simpa using isFolder⟩
  | case11 _ _ _ _ _ _ _ _ _ _ inductionHypothesis => exact inductionHypothesis walked
  | case13 _ _ _ _ _ _ _ _ _ _ _ _ _ _ inductionHypothesis => exact inductionHypothesis walked
  | case1 | case2 | case5 | case6 | case8 | case10 | case12 => cases walked

/-- Slashes at the end lead nowhere else. -/
theorem walk_replicate (count : Nat) (isFolder : disk.isFolderAt current = true) :
    disk.walk follow links current (List.replicate count "") = .ok (.found current) := by
  induction count with
  | zero => rw [List.replicate_zero, walk]
  | succ count inductionHypothesis =>
      rw [List.replicate_succ, walk, if_neg (by simp [isFolder]), if_pos (by simp),
        inductionHypothesis]

/-- What a slash at the end leads to is a folder. -/
theorem isFolderAt_of_walk (ends : pieces.getLast? = some "") (isFollow : follow = true)
    (walked : disk.walk follow links current pieces = .ok (.found location)) :
    disk.isFolderAt location = true := by
  fun_induction disk.walk follow links current pieces with
  | case1 => cases ends
  | case3 _ current piece rest stands _ inductionHypothesis =>
      rcases getLast?_of_cons ends with ⟨rfl, -⟩ | endsLater
      · rw [walk] at walked
        cases walked
        simpa using stands
      · exact inductionHypothesis endsLater walked
  | case4 _ current rest _ _ inductionHypothesis =>
      rcases getLast?_of_cons ends with ⟨-, isEmpty⟩ | endsLater
      · exact absurd isEmpty (by decide)
      · exact inductionHypothesis endsLater walked
  | case8 _ _ _ _ _ _ _ _ _ _ isLast => simp [isFollow] at isLast
  | case10 _ _ _ _ speaks _ _ _ _ _ _ _ _ _ inductionHypothesis =>
      rcases getLast?_of_cons ends with ⟨-, rfl⟩ | endsLater
      · simp at speaks
      · refine inductionHypothesis ?_ walked
        rw [List.getLast?_append, endsLater]
        rfl
  | case11 _ _ _ _ _ speaks _ _ _ _ _ inductionHypothesis =>
      rcases getLast?_of_cons ends with ⟨-, rfl⟩ | endsLater
      · simp at speaks
      · exact inductionHypothesis endsLater walked
  | case2 | case5 | case6 | case7 | case9 => cases walked

/-- A walk does not lead on from a file. -/
theorem walk_of_file {content : ByteArray} (held : disk.entryAt current = some (.file content))
    {spot : Spot} (walked : disk.walk follow links current pieces = .ok spot) :
    pieces = [] ∧ spot = .found current := by
  cases pieces with
  | nil =>
      rw [walk] at walked
      exact ⟨rfl, (Except.ok.inj walked).symm⟩
  | cons piece rest =>
      rw [walk, if_pos (by simp [isFolderAt, held])] at walked
      cases walked

/-- Once there is a folder at a vacant place, the walk to the place leads to the folder. -/
theorem walk_of_vacant (keeps : Keeps before after) (count : Nat)
    (isFolder : after.isFolderAt location = true)
    (walked : before.walk follow links current pieces = .ok (.vacant location)) :
    after.walk true links current (pieces ++ List.replicate count "") = .ok (.found location) := by
  fun_induction before.walk follow links current pieces with
  | case3 _ current piece rest stands silent inductionHypothesis =>
      rw [List.cons_append, walk, if_neg (keeps.not_stopped stands), if_pos silent]
      exact inductionHypothesis walked
  | case4 _ current rest stands speaks inductionHypothesis =>
      rw [List.cons_append, walk, if_neg (keeps.not_stopped stands), if_neg speaks, if_pos rfl]
      exact inductionHypothesis walked
  | case6 _ current piece rest stands speaks inwards fits _ blank =>
      cases walked
      have blanks : rest ++ List.replicate count "" = List.replicate (rest.length + count) "" := by
        have isBlank : rest = List.replicate rest.length "" :=
          List.eq_replicate_of_mem (by simpa using blank)
        rw [List.replicate_add, ← isBlank]
      rw [List.cons_append, walk, if_neg (keeps.not_stopped stands), if_neg speaks, if_neg inwards,
        if_neg fits, isFolderAt_iff.mp isFolder]
      dsimp only
      rw [blanks]
      exact walk_replicate _ isFolder
  | case10 current piece rest stands speaks inwards fits target held _ links start targetPieces
      started inductionHypothesis =>
      rw [List.cons_append, walk, if_neg (keeps.not_stopped stands), if_neg speaks, if_neg inwards,
        if_neg fits, keeps.links held]
      simp only [Bool.not_true, Bool.and_false, Bool.false_eq_true, if_false, started]
      rw [← List.append_assoc]
      exact inductionHypothesis walked
  | case11 _ current piece rest stands speaks inwards fits entry isNoLink held
      inductionHypothesis =>
      rw [List.cons_append, walk, if_neg (keeps.not_stopped stands), if_neg speaks, if_neg inwards,
        if_neg fits]
      cases entry with
      | link text => exact absurd rfl (isNoLink text)
      | file content =>
          obtain ⟨other, isThere⟩ := keeps.files held
          rw [isThere]
          exact inductionHypothesis walked
      | folder =>
          rw [keeps.folders held]
          exact inductionHypothesis walked
  | case1 | case2 | case5 | case7 | case8 | case9 => cases walked

/-! ## Walks in two parts -/

/-- A walk along a path that leads to a folder goes on from that folder, with the links that are
left. -/
theorem exists_walk_of_append (isFolder : disk.isFolderAt location = true)
    (walked : disk.walk true links current pieces = .ok (.found location)) :
    ∃ left, ∀ more,
      (∀ found, disk.walk true links current (pieces ++ more) = .ok found →
        disk.walk true left location more = .ok found) ∧
      ∀ found, disk.walkToFile links current (pieces ++ more) = .ok found →
        disk.walkToFile left location more = .ok found := by
  generalize isFollow : true = follow at walked
  fun_induction disk.walk follow links current pieces with
  | case1 links current =>
      cases walked
      exact ⟨links, fun more => ⟨fun found => id, fun found => id⟩⟩
  | case3 _ current piece rest stands silent inductionHypothesis =>
      obtain ⟨left, goesOn⟩ := inductionHypothesis walked
      refine ⟨left, fun more => ?_⟩
      rw [List.cons_append, walk, walkToFile, if_neg stands, if_neg stands, if_pos silent,
        if_pos silent]
      exact goesOn more
  | case4 _ current rest stands speaks inductionHypothesis =>
      obtain ⟨left, goesOn⟩ := inductionHypothesis walked
      refine ⟨left, fun more => ?_⟩
      rw [List.cons_append, walk, walkToFile, if_neg stands, if_neg stands, if_neg speaks,
        if_neg speaks, if_pos rfl, if_pos rfl]
      exact goesOn more
  | case10 current piece rest stands speaks inwards fits target held _ links start targetPieces
      started inductionHypothesis =>
      obtain ⟨left, goesOn⟩ := inductionHypothesis walked
      refine ⟨left, fun more => ?_⟩
      subst isFollow
      rw [List.cons_append, walk, walkToFile, if_neg stands, if_neg stands, if_neg speaks,
        if_neg speaks, if_neg inwards, if_neg inwards, if_neg fits, if_neg fits, held]
      simp only [Bool.not_true, Bool.and_false, Bool.false_eq_true, if_false, started]
      rw [← List.append_assoc]
      refine ⟨(goesOn more).1, fun found walkedOn => (goesOn more).2 found ?_⟩
      split_ifs at walkedOn
      exact walkedOn
  | case11 _ current piece rest stands speaks inwards fits entry isNoLink held
      inductionHypothesis =>
      obtain ⟨left, goesOn⟩ := inductionHypothesis walked
      refine ⟨left, fun more => ?_⟩
      rw [List.cons_append, walk, walkToFile, if_neg stands, if_neg stands, if_neg speaks,
        if_neg speaks, if_neg inwards, if_neg inwards, if_neg fits, if_neg fits, held]
      cases entry with
      | link text => exact absurd rfl (isNoLink text)
      | folder =>
          refine ⟨(goesOn more).1, fun found walkedOn => (goesOn more).2 found ?_⟩
          dsimp only at walkedOn
          split_ifs at walkedOn
          exact walkedOn
      | file content =>
          -- Nothing but the end of the path is behind a file, and the file is no folder.
          obtain ⟨-, isFile⟩ := walk_of_file held walked
          cases isFile
          simp [isFolderAt, held] at isFolder
  | case8 _ _ _ _ _ _ _ _ _ _ isLast =>
      subst isFollow
      simp at isLast
  | case2 | case5 | case6 | case7 | case9 => cases walked

end Walks

/-! ## Paths and walks -/

section Paths

variable {disk : Disk} {text : String} {location : Location}

/-- Silent pieces in front of others can be left out. -/
theorem walk_of_append_silent {follow : Bool} {links : Nat} {current : Location} {spot : Spot}
    {lead pieces : List String} (silent : ∀ piece ∈ lead, isSilent piece = true)
    (walked : disk.walk follow links current (lead ++ pieces) = .ok spot) :
    disk.walk follow links current pieces = .ok spot := by
  induction lead with
  | nil => exact walked
  | cons piece rest inductionHypothesis =>
      obtain ⟨isSilentPiece, others⟩ := List.forall_mem_cons.mp silent
      rw [List.cons_append, walk] at walked
      rw [isSilent] at isSilentPiece
      simp only [isSilentPiece, if_true] at walked
      split_ifs at walked
      exact inductionHypothesis others walked

theorem walkToFile_of_append_silent {links : Nat} {current : Location} {lead pieces : List String}
    (silent : ∀ piece ∈ lead, isSilent piece = true)
    (walked : disk.walkToFile links current (lead ++ pieces) = .ok location) :
    disk.walkToFile links current pieces = .ok location := by
  induction lead with
  | nil => exact walked
  | cons piece rest inductionHypothesis =>
      obtain ⟨isSilentPiece, others⟩ := List.forall_mem_cons.mp silent
      rw [List.cons_append, walkToFile] at walked
      rw [isSilent] at isSilentPiece
      simp only [isSilentPiece, if_true] at walked
      split_ifs at walked
      exact inductionHypothesis others walked

/-- A text leads where a walk along its path ends. -/
theorem walk_of_canonical (leads : disk.canonical text = .ok location) :
    disk.walk true linkLimit ((Path.ofText text).start disk.working) (Path.ofText text).pieces =
      .ok (.found location) := by
  unfold canonical locate resolve at leads
  obtain ⟨lead, silent, started⟩ := Path.exists_startOf_eq disk.working text
  split_ifs at leads
  rw [started] at leads
  dsimp only at leads
  split at leads
  next => cases leads
  next => cases leads
  next walked =>
    cases leads
    exact walk_of_append_silent silent walked

theorem walkToFile_of_locateFile (isPlace : disk.locateFile text = .ok location) :
    disk.walkToFile linkLimit ((Path.ofText text).start disk.working) (Path.ofText text).pieces =
      .ok location := by
  unfold locateFile at isPlace
  obtain ⟨lead, silent, started⟩ := Path.exists_startOf_eq disk.working text
  split_ifs at isPlace
  rw [started] at isPlace
  exact walkToFile_of_append_silent silent isPlace

/-- The text of a path leads where a walk along the path ends. -/
theorem walk_of_canonical_toText {path : Path} (proper : path.Proper)
    (leads : disk.canonical path.toText = .ok location) :
    disk.walk true linkLimit (path.start disk.working) path.pieces = .ok (.found location) := by
  have walked := walk_of_canonical leads
  rcases proper.ofText_toText with same | ⟨rfl, isCut⟩
  · rwa [same] at walked
  · rw [isCut] at walked
    have silent : ∀ piece ∈ [""], isSilent piece = true := by simp [isSilent]
    exact walk_of_append_silent silent walked

theorem exists_pieces_of_startOf (working : Location) (text : String) :
    ∃ piece rest, (startOf working text).2 = piece :: rest := by
  apply List.exists_cons_of_ne_nil
  unfold startOf
  split_ifs with begins
  · rw [String.startsWith_string_iff] at begins
    obtain ⟨rest, split⟩ := begins
    have isSlash : "/".toList = ['/'] := rfl
    rw [← split, isSlash]
    simpa [splitSlash] using splitSlash_ne_nil rest
  · simpa using splitSlash_ne_nil text.toList

end Paths

end Disk

end FunctionAtlas.Storage
