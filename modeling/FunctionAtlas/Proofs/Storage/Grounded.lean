import FunctionAtlas.Proofs.Storage.Walks

/-!
Contract: disks on which every entry stands in a folder.

On such a disk nothing is below a place where nothing is, and writing a file leaves it such. A path
to a file gives a file the place that the file has, and a path that leads nowhere gives it a vacant
one.

Owns: entries that stand in folders, and the places of files among them.

Does not own: new folders.
-/

namespace FunctionAtlas.Storage

namespace Disk

/-! ## Entries that stand in folders -/

/-- Every entry stands in a folder. -/
def Grounded (disk : Disk) : Prop :=
  ∀ folder name, disk.entryAt (folder ++ [name]) ≠ none → disk.isFolderAt folder = true

section Grounded

variable {disk before after : Disk} {folder location : Location} {name : String} {entry : Entry}

/-- Nothing is below a place where nothing is. -/
theorem Grounded.vacant_below (grounded : disk.Grounded) (vacant : disk.entryAt folder = none) :
    disk.entryAt (folder ++ [name]) = none := by
  by_contra isSome
  have isFolder := isFolderAt_iff.mp (grounded folder name isSome)
  rw [vacant] at isFolder
  cases isFolder

/-- An entry that takes the place of no folder, in a folder, leaves all entries in folders. -/
theorem Grounded.put (grounded : disk.Grounded) (isFolder : disk.isFolderAt folder = true)
    (replacesNone : disk.isFolderAt (folder ++ [name]) = false) :
    (disk.put (folder ++ [name]) entry).Grounded := by
  have staysFolder : ∀ {location}, disk.isFolderAt location = true →
      (disk.put (folder ++ [name]) entry).isFolderAt location = true := by
    intro location wasFolder
    rw [isFolderAt_iff] at wasFolder ⊢
    rw [entryAt_put_of_ne, wasFolder]
    rintro rfl
    rw [isFolderAt_iff.mpr wasFolder] at replacesNone
    cases replacesNone
  intro otherFolder otherName isSome
  apply staysFolder
  by_cases isHere : otherFolder ++ [otherName] = folder ++ [name]
  · obtain ⟨rfl, -⟩ := List.append_inj' isHere rfl
    exact isFolder
  · rw [entryAt_put_of_ne isHere] at isSome
    exact grounded otherFolder otherName isSome

end Grounded

/-! ## Files among them -/

section Files

variable {disk before after : Disk} {path : String} {location : Location}

theorem exists_folder_of_locateFile (isPlace : disk.locateFile path = .ok location) :
    ∃ folder name, location = folder ++ [name] ∧ disk.isFolderAt folder = true := by
  unfold locateFile at isPlace
  split_ifs at isPlace
  exact exists_folder_of_walkToFile isPlace

theorem Grounded.of_writeBytes (grounded : before.Grounded) {content : ByteArray}
    (written : before.writeBytes path content = .ok after) : after.Grounded := by
  unfold writeBytes at written
  split at written
  next => cases written
  next location isPlace =>
    cases written
    obtain ⟨-, noLoss⟩ := vacant_or_file_of_locateFile isPlace
    obtain ⟨folder, name, rfl, isFolder⟩ := exists_folder_of_locateFile isPlace
    refine grounded.put isFolder ?_
    rcases noLoss with vacant | ⟨old, held⟩
    · simp [isFolderAt, vacant]
    · simp [isFolderAt, held]

theorem exists_iff : disk.exists_ path = true ↔ ∃ location, disk.canonical path = .ok location := by
  unfold exists_
  cases disk.canonical path <;> simp

/-- A path that leads nowhere gives a file a place where nothing is. -/
theorem vacant_of_not_exists (notThere : disk.exists_ path = false)
    (isPlace : disk.locateFile path = .ok location) : disk.entryAt location = none := by
  obtain ⟨-, vacant | ⟨content, held⟩⟩ := vacant_or_file_of_locateFile isPlace
  · exact vacant
  · have isThere := exists_iff.mpr ⟨location, canonical_of_locateFile (.refl disk) isPlace held⟩
    rw [notThere] at isThere
    cases isThere

theorem Grounded.isFolderAt_dropLast (grounded : disk.Grounded)
    (isFolder : disk.isFolderAt location = true) : disk.isFolderAt location.dropLast = true := by
  rcases location.eq_nil_or_concat with rfl | ⟨folder, name, rfl⟩
  · exact isFolder
  · rw [List.concat_eq_append] at isFolder ⊢
    rw [List.dropLast_concat]
    refine grounded folder name ?_
    rw [isFolderAt_iff.mp isFolder]
    simp

/-- A walk to a file is one to the place of the file. -/
theorem walkToFile_of_walk (grounded : disk.Grounded) {follow : Bool} {links : Nat}
    {current : Location} {pieces : List String} {content : ByteArray} (isFollow : follow = true)
    (isFolder : disk.isFolderAt current = true)
    (held : disk.entryAt location = some (.file content))
    (walked : disk.walk follow links current pieces = .ok (.found location)) :
    disk.walkToFile links current pieces = .ok location := by
  have notFolder : ¬ disk.isFolderAt location = true := by simp [isFolderAt, held]
  -- No slash comes after a name that leads to a file.
  have endsLast : ∀ {follow : Bool} {links : Nat} {current : Location} {front rest : List String},
      follow = true → disk.walk follow links current (front ++ rest) = .ok (.found location) →
      ¬ (decide (rest ≠ []) && rest.all (· = "")) = true := by
    intro follow links current front rest isFollow walked isBlank
    simp only [Bool.and_eq_true, decide_eq_true_eq, List.all_eq_true] at isBlank
    obtain ⟨isSome, blank⟩ := isBlank
    refine notFolder (isFolderAt_of_walk ?_ isFollow walked)
    rw [List.getLast?_append, List.getLast?_eq_some_getLast isSome,
      blank _ (List.getLast_mem isSome)]
    rfl
  fun_induction disk.walk follow links current pieces with
  | case1 =>
      cases walked
      exact absurd isFolder notFolder
  | case3 _ current piece rest stands silent inductionHypothesis =>
      rw [walkToFile, if_neg stands, if_pos silent]
      exact inductionHypothesis isFolder walked
  | case4 _ current rest stands speaks inductionHypothesis =>
      rw [walkToFile, if_neg stands, if_neg speaks, if_pos rfl]
      exact inductionHypothesis (grounded.isFolderAt_dropLast isFolder) walked
  | case8 _ _ _ _ _ _ _ _ _ _ isLast => simp [isFollow] at isLast
  | case10 current piece rest stands speaks inwards fits target isThere _ links start targetPieces
      started inductionHypothesis =>
      have startsInFolder : disk.isFolderAt start = true := by
        unfold startOf at started
        split_ifs at started
        · rw [← (Prod.mk.inj started).1]
          simp [isFolderAt, entryAt]
        · rw [← (Prod.mk.inj started).1]
          exact isFolder
      rw [walkToFile, if_neg stands, if_neg speaks, if_neg inwards,
        if_neg (endsLast isFollow walked), if_neg fits, isThere]
      simp only [started]
      exact inductionHypothesis startsInFolder walked
  | case11 _ current piece rest stands speaks inwards fits entry isNoLink isThere
      inductionHypothesis =>
      rw [walkToFile, if_neg stands, if_neg speaks, if_neg inwards,
        if_neg (@endsLast follow _ _ [] rest isFollow walked), if_neg fits, isThere]
      cases entry with
      | link target => exact absurd rfl (isNoLink target)
      | folder => exact inductionHypothesis (isFolderAt_iff.mpr isThere) walked
      | file other =>
          obtain ⟨rfl, isFile⟩ := walk_of_file isThere walked
          cases isFile
          rfl
  | case2 | case5 | case6 | case7 | case9 => cases walked

/-- A path to a file gives it the place that it has. -/
theorem locateFile_of_canonical (grounded : disk.Grounded) {content : ByteArray}
    (leads : disk.canonical path = .ok location)
    (held : disk.entryAt location = some (.file content)) :
    disk.locateFile path = .ok location := by
  unfold canonical locate resolve at leads
  unfold locateFile
  split_ifs at leads ⊢
  dsimp only at leads ⊢
  split at leads
  next => cases leads
  next => cases leads
  next walked =>
    cases leads
    refine walkToFile_of_walk grounded rfl ?_ held walked
    obtain ⟨piece, rest, isPieces⟩ := exists_pieces_of_startOf disk.working path
    rw [isPieces, walk] at walked
    split_ifs at walked with stands <;> simpa using stands

end Files

end Disk

end FunctionAtlas.Storage
