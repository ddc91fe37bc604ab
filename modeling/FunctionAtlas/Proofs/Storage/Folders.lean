import FunctionAtlas.Proofs.Storage.Grounded

/-!
Contract: what is on a disk after folders are made.

Making folders puts new folders where nothing was, at places that the paths of these folders lead
to, and changes nothing else. That holds also if not all of them can be made. Where every entry
stands in a folder, a path below a new folder, without steps upwards, cannot lead to something that
was there before.

Owns: disks with new folders, and what is below them.

Does not own: which folders a task makes.
-/

namespace FunctionAtlas.Storage

namespace Disk

/-! ## One new folder -/

/-- A path is its text without slashes at the end and those slashes. -/
theorem exists_withoutEndSlashes_eq (path : String) :
    withoutEndSlashes path = "/" ∨
      ∃ count, path.toList = (withoutEndSlashes path).toList ++ List.replicate count '/' := by
  unfold withoutEndSlashes
  have split : path.toList = (path.toList.reverse.dropWhile (· = '/')).reverse ++
      (path.toList.reverse.takeWhile (· = '/')).reverse := by
    rw [← List.reverse_append, List.takeWhile_append_dropWhile, List.reverse_reverse]
  have slashes : (path.toList.reverse.takeWhile (· = '/')).reverse =
      List.replicate (path.toList.reverse.takeWhile (· = '/')).length '/' := by
    rw [← List.length_reverse]
    refine List.eq_replicate_of_mem fun character member => ?_
    simpa using List.mem_takeWhile_imp (List.mem_reverse.mp member)
  split
  · exact .inl rfl
  next kept =>
    rw [slashes] at split
    exact .inr ⟨_, by rw [String.toList_ofList]; exact split⟩

theorem splitSlash_append_replicate (characters : List Char) (count : Nat) :
    splitSlash (characters ++ List.replicate count '/') =
      splitSlash characters ++ List.replicate count [] := by
  induction count generalizing characters with
  | zero => simp
  | succ count inductionHypothesis =>
      have split : splitSlash (List.replicate count '/') = [[]] ++ List.replicate count [] := by
        simpa [splitSlash] using inductionHypothesis []
      rw [List.replicate_succ, splitSlash_append, split, List.replicate_succ]
      rfl

/-- Slashes at the end add empty pieces at the end. -/
theorem startOf_append_slashes {path trimmed : String} {count : Nat} (working : Location)
    (nonempty : trimmed ≠ "") (split : path.toList = trimmed.toList ++ List.replicate count '/') :
    startOf working path =
      ((startOf working trimmed).1, (startOf working trimmed).2 ++ List.replicate count "") := by
  have sameBegin : path.startsWith "/" = trimmed.startsWith "/" := by
    rw [Bool.eq_iff_iff, String.startsWith_string_iff, String.startsWith_string_iff, split]
    have isSome : trimmed.toList ≠ [] := by simpa using nonempty
    obtain ⟨first, rest, cut⟩ := List.exists_cons_of_ne_nil isSome
    rw [cut]
    have isSlash : "/".toList = ['/'] := rfl
    simp [isSlash]
  unfold startOf
  rw [sameBegin, split, splitSlash_append_replicate, List.map_append, List.map_replicate]
  obtain ⟨first, rest, cut⟩ := List.exists_cons_of_ne_nil (splitSlash_ne_nil trimmed.toList)
  rw [cut]
  split_ifs <;> rfl

/-- The only new thing on a disk is a folder, to which a path leads. -/
structure MadeFolder (before : Disk) (path : String) (after : Disk) (location : Location) :
    Prop where
  vacant : before.entryAt location = none
  leads : after.canonical path = .ok location
  holds : after.entryAt location = some .folder
  others : ∀ other, other ≠ location → after.entryAt other = before.entryAt other
  keeps : Keeps before after
  grounded : before.Grounded → after.Grounded

theorem keeps_put_of_vacant {disk : Disk} {location : Location} {entry : Entry}
    (vacant : disk.entryAt location = none) : Keeps disk (disk.put location entry) := by
  have untouched : ∀ {other held}, disk.entryAt other = some held →
      (disk.put location entry).entryAt other = some held := by
    intro other held isHeld
    rw [entryAt_put_of_ne, isHeld]
    rintro rfl
    rw [vacant] at isHeld
    cases isHeld
  exact ⟨rfl, untouched, untouched, fun isHeld => ⟨_, untouched isHeld⟩⟩

/-- A path that is vacant without the slashes at its end leads to the folder that is put there. -/
theorem canonical_of_resolve_vacant {before after : Disk} {follow : Bool} {path trimmed : String}
    {count : Nat} {location : Location} (keeps : Keeps before after)
    (isFolder : after.isFolderAt location = true) (isShort : ¬ pathLimit ≤ path.utf8ByteSize)
    (split : path.toList = trimmed.toList ++ List.replicate count '/')
    (isVacant : before.resolve follow trimmed = .ok (.vacant location)) :
    after.canonical path = .ok location := by
  unfold resolve at isVacant
  split_ifs at isVacant with hasZero isEmpty
  have walked : after.walk true linkLimit (startOf before.working trimmed).1
      ((startOf before.working trimmed).2 ++ List.replicate count "") = .ok (.found location) :=
    walk_of_vacant keeps count isFolder isVacant
  have noZero : ¬ path.toList.contains '\x00' = true := by
    rw [split]
    simpa using hasZero
  have nonempty : path ≠ "" := by
    rintro rfl
    rw [eq_comm, String.toList_empty, List.append_eq_nil_iff] at split
    exact isEmpty (by simpa using split.1)
  rw [canonical, locate, resolve, if_neg noZero, if_neg nonempty, if_neg isShort, keeps.working,
    startOf_append_slashes before.working isEmpty split]
  dsimp only
  rw [walked]

theorem resolve_slash (disk : Disk) (follow : Bool) :
    disk.resolve follow "/" = .ok (.found []) := by
  have started : startOf disk.working "/" = ([], [""]) := by
    simp [startOf, splitSlash]
  have isTop : disk.isFolderAt [] = true := by simp [isFolderAt, entryAt]
  rw [resolve, if_neg (by decide), if_neg (by decide), if_neg (by decide), started]
  exact walk_replicate 1 isTop

theorem exists_madeFolder_of_makeFolder {before after : Disk} {path : String}
    (made : before.makeFolder path = .ok after) :
    ∃ location, MadeFolder before path after location := by
  unfold makeFolder at made
  by_cases isLong : pathLimit ≤ path.utf8ByteSize
  · rw [if_pos isLong] at made
    cases made
  rw [if_neg isLong] at made
  split at made
  next => cases made
  next => cases made
  next location isVacant =>
    cases made
    have exists_count : ∃ count, path.toList =
        (if path.endsWith "/" then withoutEndSlashes path else path).toList ++
          List.replicate count '/' := by
      split_ifs at isVacant ⊢
      · refine (exists_withoutEndSlashes_eq path).resolve_left fun isTop => ?_
        rw [isTop, resolve_slash] at isVacant
        cases isVacant
      · exact ⟨0, by simp⟩
    obtain ⟨count, split⟩ := exists_count
    obtain ⟨vacant, folder, name, isPlace, isFolder⟩ :
        before.entryAt location = none ∧
          ∃ folder name, location = folder ++ [name] ∧ before.isFolderAt folder = true := by
      unfold resolve at isVacant
      split_ifs at isVacant <;> exact exists_folder_of_walk isVacant
    have isInner : location ≠ [] := by simp [isPlace]
    have keeps : Keeps before (before.put location .folder) := keeps_put_of_vacant vacant
    have held : (before.put location .folder).entryAt location = some .folder :=
      entryAt_put_self isInner
    have leads := canonical_of_resolve_vacant keeps (isFolderAt_iff.mpr held) isLong split isVacant
    refine ⟨location, vacant, leads, held, fun other isOther => entryAt_put_of_ne isOther, keeps,
      fun grounded => ?_⟩
    rw [isPlace] at vacant ⊢
    exact grounded.put isFolder (by simp [isFolderAt, vacant])

/-! ## Several new folders -/

/-- What one disk has more than the other are folders, to each of which one of the paths leads. -/
structure GainsFolders (before : Disk) (paths : List String) (after : Disk) : Prop where
  keeps : Keeps before after
  gained : ∀ location, after.entryAt location = before.entryAt location ∨
    before.entryAt location = none ∧ after.entryAt location = some .folder ∧
      ∃ path ∈ paths, after.canonical path = .ok location
  grounded : before.Grounded → after.Grounded

section GainsFolders

variable {before middle after : Disk} {paths more : List String}

theorem GainsFolders.refl (disk : Disk) (paths : List String) : GainsFolders disk paths disk :=
  ⟨.refl disk, fun _ => .inl rfl, id⟩

theorem GainsFolders.mono (gains : GainsFolders before paths after) (isPart : paths ⊆ more) :
    GainsFolders before more after where
  keeps := gains.keeps
  gained location := (gains.gained location).imp_right fun ⟨vacant, holds, path, member, leads⟩ =>
    ⟨vacant, holds, path, isPart member, leads⟩
  grounded := gains.grounded

theorem GainsFolders.trans (first : GainsFolders before paths middle)
    (second : GainsFolders middle paths after) : GainsFolders before paths after where
  keeps := first.keeps.trans second.keeps
  gained location := by
    rcases second.gained location with same | ⟨vacant, holds, path, member, leads⟩
    · rcases first.gained location with sameFirst | ⟨vacant, holds, path, member, leads⟩
      · exact .inl (same.trans sameFirst)
      · exact .inr ⟨vacant, same.trans holds, path, member, second.keeps.canonical leads⟩
    · refine .inr ⟨?_, holds, path, member, leads⟩
      rcases first.gained location with sameFirst | ⟨wasVacant, -⟩
      · rw [← sameFirst, vacant]
      · exact wasVacant
  grounded := second.grounded ∘ first.grounded

theorem MadeFolder.gains {path : String} {location : Location}
    (made : MadeFolder before path after location) (member : path ∈ paths) :
    GainsFolders before paths after where
  keeps := made.keeps
  gained other := by
    by_cases isHere : other = location
    · subst isHere
      exact .inr ⟨made.vacant, made.holds, path, member, made.leads⟩
    · exact .inl (made.others other isHere)
  grounded := made.grounded

/-- Folders that are made along paths are new folders at these paths, also if not all of them can be
made. -/
theorem gainsFolders_makeFoldersAlong (disk : Disk) (paths : List String) :
    GainsFolders disk paths (disk.makeFoldersAlong paths).disk := by
  induction paths generalizing disk with
  | nil => exact .refl disk []
  | cons path above inductionHypothesis =>
      have ofOne : ∀ {start changed : Disk}, start.makeFolder path = .ok changed →
          GainsFolders start (path :: above) changed := by
        intro start changed made
        obtain ⟨location, madeFolder⟩ := exists_madeFolder_of_makeFolder made
        exact madeFolder.gains List.mem_cons_self
      have ofAbove := (inductionHypothesis disk).mono (List.subset_cons_self path above)
      rw [makeFoldersAlong]
      split
      next made => exact ofOne made
      next =>
        dsimp only
        split
        next => exact ofAbove
        next =>
          split
          next made => exact ofAbove.trans (ofOne made)
          next => split_ifs <;> exact ofAbove
      next => split_ifs <;> exact .refl disk _
      next => exact .refl disk _

/-! ## Below new folders -/

/-- A walk that starts where nothing was ends where nothing was, unless it goes upwards: what is
below are new folders. -/
theorem GainsFolders.vacant_of_walk (gains : GainsFolders before paths after)
    (grounded : before.Grounded) {follow : Bool} {links : Nat} {current location : Location}
    {pieces : List String} (vacant : before.entryAt current = none) (inwards : ".." ∉ pieces)
    (walked : after.walk follow links current pieces = .ok (.found location)) :
    before.entryAt location = none := by
  fun_induction after.walk follow links current pieces with
  | case1 =>
      cases walked
      exact vacant
  | case3 _ _ _ _ _ _ inductionHypothesis =>
      exact inductionHypothesis vacant (fun later => inwards (List.mem_cons_of_mem _ later)) walked
  | case4 => exact absurd List.mem_cons_self inwards
  | case8 =>
      cases walked
      exact grounded.vacant_below vacant
  | case10 current piece rest _ _ _ _ target held =>
      rcases gains.gained (current ++ [piece]) with same | ⟨-, holds, -⟩
      · rw [grounded.vacant_below vacant, held] at same
        cases same
      · rw [holds] at held
        cases held
  | case11 _ current piece rest _ _ _ _ _ _ _ inductionHypothesis =>
      exact inductionHypothesis (grounded.vacant_below vacant)
        (fun later => inwards (List.mem_cons_of_mem _ later)) walked
  | case2 | case5 | case6 | case7 | case9 => cases walked

theorem GainsFolders.vacant_of_walkToFile (gains : GainsFolders before paths after)
    (grounded : before.Grounded) {links : Nat} {current location : Location}
    {pieces : List String} (vacant : before.entryAt current = none) (inwards : ".." ∉ pieces)
    (walked : after.walkToFile links current pieces = .ok location) :
    before.entryAt location = none := by
  fun_induction after.walkToFile links current pieces with
  | case3 _ _ _ _ _ _ inductionHypothesis =>
      exact inductionHypothesis vacant (fun later => inwards (List.mem_cons_of_mem _ later)) walked
  | case4 => exact absurd List.mem_cons_self inwards
  | case7 | case9 =>
      cases walked
      exact grounded.vacant_below vacant
  | case11 _ current piece rest _ _ _ _ _ _ inductionHypothesis =>
      exact inductionHypothesis (grounded.vacant_below vacant)
        (fun later => inwards (List.mem_cons_of_mem _ later)) walked
  | case13 current piece rest _ _ _ _ _ target held =>
      rcases gains.gained (current ++ [piece]) with same | ⟨-, holds, -⟩
      · rw [grounded.vacant_below vacant, held] at same
        cases same
      · rw [holds] at held
        cases held
  | case1 | case2 | case5 | case6 | case8 | case10 | case12 => cases walked

/-- A path leads to a folder where nothing was. -/
def LeadsToNew (before after : Disk) (path : Path) : Prop :=
  ∃ location, after.walk true linkLimit (path.start after.working) path.pieces =
    .ok (.found location) ∧ after.isFolderAt location = true ∧ before.entryAt location = none

/-- If a path leads to a new folder, then so does one below it that leads to a folder. -/
theorem LeadsToNew.below {path above : Path} (gains : GainsFolders before paths after)
    (grounded : before.Grounded) (proper : path.Proper) (inwards : ".." ∉ path.pieces)
    (isParent : path.parent = some above) (leadsAbove : LeadsToNew before after above)
    (leads : after.isFolder path.toText = true) : LeadsToNew before after path := by
  obtain ⟨place, walkedAbove, isFolderAbove, vacantAbove⟩ := leadsAbove
  unfold isFolder at leads
  split at leads
  next location isPlace =>
    have walked := walk_of_canonical_toText proper isPlace
    obtain ⟨sameStart, rest, split⟩ := Path.start_and_pieces_of_parent isParent after.working
    rw [sameStart] at walkedAbove
    obtain ⟨left, goesOn⟩ := exists_walk_of_append isFolderAbove walkedAbove
    have inwardsRest : ".." ∉ rest := fun later => inwards (split ▸ List.mem_append_right _ later)
    have walkedOn := (goesOn rest).1 _ (split ▸ walked)
    exact ⟨location, walked, leads, gains.vacant_of_walk grounded vacantAbove inwardsRest walkedOn⟩
  next => cases leads

theorem LeadsToNew.of_toText {path : Path} (proper : path.Proper)
    (leads : LeadsToNew before after (Path.ofText path.toText)) : LeadsToNew before after path := by
  rcases proper.ofText_toText with same | ⟨rfl, isCut⟩
  · rwa [same] at leads
  · rw [isCut] at leads
    obtain ⟨location, walked, others⟩ := leads
    have silent : ∀ piece ∈ [""], isSilent piece = true := by simp [isSilent]
    exact ⟨location, walk_of_append_silent silent walked, others⟩

/-- A file below a new folder gets a place where nothing was. -/
theorem LeadsToNew.vacant_of_locateFile {above : Path} (gains : GainsFolders before paths after)
    (grounded : before.Grounded) {text : String} (inwards : ".." ∉ (Path.ofText text).pieces)
    (isParent : (Path.ofText text).parent = some above)
    (leadsAbove : LeadsToNew before after above) {location : Location}
    (isPlace : after.locateFile text = .ok location) : before.entryAt location = none := by
  obtain ⟨place, walkedAbove, isFolderAbove, vacantAbove⟩ := leadsAbove
  have walked := walkToFile_of_locateFile isPlace
  obtain ⟨sameStart, rest, split⟩ := Path.start_and_pieces_of_parent isParent after.working
  rw [sameStart] at walkedAbove
  rw [split] at walked inwards
  obtain ⟨left, goesOn⟩ := exists_walk_of_append isFolderAbove walkedAbove
  exact gains.vacant_of_walkToFile grounded vacantAbove
    (fun later => inwards (List.mem_append_right _ later)) ((goesOn rest).2 _ walked)

theorem GainsFolders.vacant (gains : GainsFolders before paths after) {location : Location}
    (vacant : after.entryAt location = none) : before.entryAt location = none := by
  rcases gains.gained location with same | ⟨wasVacant, -⟩
  · rw [← same, vacant]
  · exact wasVacant

theorem MadeFolder.leadsToNew {start : Disk} {path : Path} {location : Location}
    (proper : path.Proper) (gains : GainsFolders start paths before)
    (made : MadeFolder before path.toText after location) : LeadsToNew start after path :=
  ⟨location, walk_of_canonical_toText proper made.leads, isFolderAt_iff.mpr made.holds,
    gains.vacant made.vacant⟩

/-- A folder that is made along with those above it was there, or it is the last one that was made,
or all was done with those above it. -/
theorem cases_of_makeFoldersAlong {disk : Disk} {path : String} {above : List String}
    (allMade : (disk.makeFoldersAlong (path :: above)).fault? = none) :
    (disk.makeFoldersAlong (path :: above)).disk = disk ∨
    (∃ start location, GainsFolders disk above start ∧
      MadeFolder start path (disk.makeFoldersAlong (path :: above)).disk location) ∨
    (disk.makeFoldersAlong above).fault? = none ∧
      (disk.makeFoldersAlong (path :: above)).disk = (disk.makeFoldersAlong above).disk ∧
      (disk.makeFoldersAlong above).disk.isFolder path = true := by
  have gains := gainsFolders_makeFoldersAlong disk above
  rw [makeFoldersAlong] at allMade ⊢
  generalize disk.makeFoldersAlong above = ofAbove at allMade gains ⊢
  cases first : disk.makeFolder path with
  | ok changed =>
      obtain ⟨location, made⟩ := exists_madeFolder_of_makeFolder first
      exact .inr (.inl ⟨disk, location, .refl disk above, made⟩)
  | error fault =>
      rw [first] at allMade
      cases fault with
      | missing =>
          dsimp only at allMade ⊢
          cases aboveMade : ofAbove.fault? with
          | some fault =>
              rw [aboveMade] at allMade
              exact absurd (aboveMade.symm.trans allMade) (by simp)
          | none =>
              rw [aboveMade] at allMade
              cases second : ofAbove.disk.makeFolder path with
              | ok finished =>
                  obtain ⟨location, made⟩ := exists_madeFolder_of_makeFolder second
                  exact .inr (.inl ⟨ofAbove.disk, location, gains, made⟩)
              | error fault =>
                  rw [second] at allMade
                  dsimp only at allMade ⊢
                  split_ifs at allMade ⊢ with isThere
                  exact .inr (.inr ⟨rfl, rfl, isThere⟩)
      | alreadyThere =>
          dsimp only at allMade ⊢
          split_ifs at allMade ⊢
          exact .inl rfl
      | _ => cases allMade

/-- If all folders on the way to a path are made, and the path has no steps upwards, then nothing
was to be made, or the path leads to a new folder. -/
theorem leadsToNew_makeFoldersAlong {disk : Disk} (grounded : disk.Grounded) {fuel : Nat}
    {path : Path} (proper : path.Proper) (inwards : ".." ∉ path.pieces)
    (allMade : (disk.makeFoldersAlong (pathsUpwards fuel path)).fault? = none) :
    (disk.makeFoldersAlong (pathsUpwards fuel path)).disk = disk ∨
      LeadsToNew disk (disk.makeFoldersAlong (pathsUpwards fuel path)).disk path := by
  induction fuel generalizing path with
  | zero => exact .inl rfl
  | succ fuel inductionHypothesis =>
      rw [pathsUpwards] at allMade ⊢
      split_ifs at allMade ⊢
      · exact .inl rfl
      rcases cases_of_makeFoldersAlong allMade with unchanged | ⟨start, location, gains, made⟩ |
        ⟨aboveMade, same, isFolder⟩
      · exact .inl unchanged
      · exact .inr (made.leadsToNew proper gains)
      · rw [same]
        cases isParent : path.parent with
        | none => exact .inl rfl
        | some above =>
            simp only [isParent] at aboveMade isFolder ⊢
            have inwardsAbove : ".." ∉ above.pieces := by
              obtain ⟨-, rest, split⟩ := Path.start_and_pieces_of_parent isParent []
              exact fun isThere => inwards (split ▸ List.mem_append_left _ isThere)
            have gains := gainsFolders_makeFoldersAlong disk (pathsUpwards fuel above)
            exact (inductionHypothesis (proper.parent isParent) inwardsAbove aboveMade).imp_right
              fun leads => leads.below gains grounded proper inwards isParent isFolder

end GainsFolders

end Disk

end FunctionAtlas.Storage
