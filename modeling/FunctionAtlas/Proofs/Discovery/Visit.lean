import FunctionAtlas.Discovery.Walk
import FunctionAtlas.Proofs.FirstFailure
import FunctionAtlas.Proofs.Storage.Entries
import Mathlib.Tactic.Ring

/-!
Contract: which folders a visit enters, and when it comes to an end.

The folders that a visit is inside of form a trail from the top folder. No trail is longer than the
bound on depth allows: a link leads to a folder that is not on the trail, and between two links
every folder lies inside of the one before it. So a visit never stops for want of fuel, and it
succeeds if and only if it can look at every entry of every folder that a trail leads into.

Owns: trails, their length, and when a visit succeeds.
-/

namespace FunctionAtlas.Discovery

open FunctionAtlas.Storage

/-! ## One folder -/

section Folder

variable (disk : Disk) (rules : Rules) (root : String)

/-- The files that one entry of a folder contributes. -/
def filesAt (fuel : Nat) (ancestors : List Ancestor) (names : Names) (location : Location)
    (name : String) : Except WalkFault (List Names) :=
  match look disk root ancestors (names ++ [name]) (location ++ [name]) with
  | .error fault => .error fault
  | .ok .file => .ok (if rules.selects root (names ++ [name]) then [names ++ [name]] else [])
  | .ok (.folder target) =>
      if rules.enters root (names ++ [name]) then
        filesIn disk rules root fuel ancestors (names ++ [name]) target
      else .ok []

variable {disk rules root}

/-- An entry contributes itself if it is a selected file, and what lies in it if it is a folder to
enter. -/
theorem filesAt_cases {fuel : Nat} {ancestors : List Ancestor} {names : Names}
    {location : Location} {name : String} {part : List Names}
    (contributes : filesAt disk rules root fuel ancestors names location name = .ok part) :
    (look disk root ancestors (names ++ [name]) (location ++ [name]) = .ok .file ∧
      part = if rules.selects root (names ++ [name]) then [names ++ [name]] else []) ∨
    (∃ target,
      look disk root ancestors (names ++ [name]) (location ++ [name]) = .ok (.folder target) ∧
      rules.enters root (names ++ [name]) = true ∧
      filesIn disk rules root fuel ancestors (names ++ [name]) target = .ok part) ∨
    ∃ target,
      look disk root ancestors (names ++ [name]) (location ++ [name]) = .ok (.folder target) ∧
      rules.enters root (names ++ [name]) = false ∧ part = [] := by
  unfold filesAt at contributes
  split at contributes
  next => cases contributes
  next looked => exact .inl ⟨looked, (Except.ok.inj contributes).symm⟩
  next target looked =>
    split_ifs at contributes with entered
    · exact .inr (.inl ⟨target, looked, entered, contributes⟩)
    · exact .inr (.inr ⟨target, looked, by simpa using entered, (Except.ok.inj contributes).symm⟩)

theorem filesAmong_eq_mapM {fuel : Nat} {ancestors : List Ancestor} {names : Names}
    {location : Location} (entries : List String) :
    filesAmong disk rules root fuel ancestors names location entries =
      (entries.mapM (filesAt disk rules root fuel ancestors names location)).map
        List.flatten := by
  induction entries with
  | nil =>
      rw [filesAmong]
      rfl
  | cons name rest inductionHypothesis =>
      rw [filesAmong, FirstFailure.mapM_cons_eq_match, filesAt, inductionHypothesis]
      cases look disk root ancestors (names ++ [name]) (location ++ [name]) with
      | error fault => rfl
      | ok sight =>
          -- What the rest gives does not matter for the part that is put in front of it.
          generalize rest.mapM (filesAt disk rules root fuel ancestors names location) = others
          cases sight with
          | file =>
              cases others with
              | error fault => rfl
              | ok others =>
                  dsimp [Except.map]
                  split_ifs <;> rfl
          | folder target =>
              dsimp only
              split_ifs
              · cases filesIn disk rules root fuel ancestors (names ++ [name]) target <;>
                  cases others <;> rfl
              · cases others <;> rfl

/-- A folder is visited entry by entry. -/
theorem filesIn_succ {fuel : Nat} {above : List Ancestor} {names : Names} {location : Location} :
    filesIn disk rules root (fuel + 1) above names location =
      ((disk.namesIn location).mapM
        (filesAt disk rules root fuel (⟨names, location⟩ :: above) names location)).map
          List.flatten := by
  rw [filesIn, filesAmong_eq_mapM]

/-- The files in a folder are those that its entries contribute. -/
theorem filesIn_succ_eq_ok_iff {fuel : Nat} {above : List Ancestor} {names : Names}
    {location : Location} {found : List Names} :
    filesIn disk rules root (fuel + 1) above names location = .ok found ↔
      ∃ part : String → List Names, found = (disk.namesIn location).flatMap part ∧
        ∀ name ∈ disk.namesIn location,
          filesAt disk rules root fuel (⟨names, location⟩ :: above) names location name =
            .ok (part name) := by
  have isMap := @FirstFailure.mapM_eq_ok_iff_map _ _ _
    (filesAt disk rules root fuel (⟨names, location⟩ :: above) names location) _
    (disk.namesIn location)
  rw [filesIn_succ]
  generalize (disk.namesIn location).mapM
    (filesAt disk rules root fuel (⟨names, location⟩ :: above) names location) = visited at isMap
  constructor
  · intro isFound
    cases visited with
    | error fault => cases isFound
    | ok parts =>
        obtain ⟨part, rfl, contributed⟩ := (isMap parts).mp rfl
        exact ⟨part, (Except.ok.inj isFound).symm, contributed⟩
  · rintro ⟨part, rfl, contributed⟩
    rw [(isMap _).mpr ⟨part, rfl, contributed⟩]
    rfl

/-- What is found in a folder is contributed by one of its entries. -/
theorem exists_filesAt_of_mem_filesIn {fuel : Nat} {above : List Ancestor} {names : Names}
    {location : Location} {found : List Names}
    (visited : filesIn disk rules root fuel above names location = .ok found) {way : Names}
    (isFound : way ∈ found) :
    ∃ less name part, less < fuel ∧ name ∈ disk.namesIn location ∧ way ∈ part ∧
      filesAt disk rules root less (⟨names, location⟩ :: above) names location name =
        .ok part := by
  cases fuel with
  | zero =>
      rw [filesIn] at visited
      cases visited
      cases isFound
  | succ fuel =>
      obtain ⟨part, rfl, contributed⟩ := filesIn_succ_eq_ok_iff.mp visited
      obtain ⟨name, member, isPart⟩ := List.mem_flatMap.mp isFound
      exact ⟨fuel, name, part name, Nat.lt_succ_self fuel, member, isPart, contributed name member⟩

end Folder

/-! ## Trails -/

/-- The folders that a visit is inside of, the innermost in front. -/
inductive Trail (disk : Disk) (rules : Rules) (root : String) (top : Location) :
    List Ancestor → Prop where
  | top : Trail disk rules root top [⟨[], top⟩]
  | inner {above : List Ancestor} {names : Names} {location target : Location} {name : String}
      (outer : Trail disk rules root top (⟨names, location⟩ :: above))
      (member : name ∈ disk.namesIn location)
      (seen : look disk root (⟨names, location⟩ :: above) (names ++ [name]) (location ++ [name]) =
        .ok (.folder target))
      (entered : rules.enters root (names ++ [name]) = true) :
      Trail disk rules root top (⟨names ++ [name], target⟩ :: ⟨names, location⟩ :: above)

section Trails

variable {disk : Disk} {rules : Rules} {root : String} {top : Location}

/-- What a look at an entry finds: the entry itself, or what a link leads to. -/
inductive Looks (disk : Disk) (root : String) (ancestors : List Ancestor) (names : Names)
    (location : Location) : Sight → Prop where
  | file {content : ByteArray} (held : disk.entryAt location = some (.file content)) :
      Looks disk root ancestors names location .file
  | folder (held : disk.entryAt location = some .folder) :
      Looks disk root ancestors names location (.folder location)
  | linkToFile {text : String} {target : Location}
      (held : disk.entryAt location = some (.link text))
      (leads : disk.canonical (pathBelow root names) = .ok target)
      (isFile : disk.isFolderAt target = false) :
      Looks disk root ancestors names location .file
  | linkToFolder {text : String} {target : Location}
      (held : disk.entryAt location = some (.link text))
      (leads : disk.canonical (pathBelow root names) = .ok target)
      (isFolder : disk.isFolderAt target = true)
      (isFresh : ∀ ancestor ∈ ancestors, ancestor.location ≠ target) :
      Looks disk root ancestors names location (.folder target)

section Looks

variable {ancestors : List Ancestor} {names : Names} {location : Location}

theorem look_eq_ok_iff {sight : Sight} :
    look disk root ancestors names location = .ok sight ↔
      Looks disk root ancestors names location sight := by
  constructor
  · intro seen
    unfold look at seen
    split at seen
    next held =>
      cases seen
      exact .file held
    next held =>
      cases seen
      exact .folder held
    next => cases seen
    next held =>
      dsimp only at seen
      split at seen
      next => cases seen
      next leads =>
        split_ifs at seen with isFolder
        · split at seen
          next => cases seen
          next none =>
            cases seen
            refine .linkToFolder held leads isFolder fun ancestor member => ?_
            simpa using List.find?_eq_none.mp none ancestor member
        · cases seen
          exact .linkToFile held leads (by simpa using isFolder)
  · intro looks
    cases looks with
    | file held => rw [look, held]
    | folder held => rw [look, held]
    | linkToFile held leads isFile => simp [look, held, leads, isFile]
    | @linkToFolder _ target held leads isFolder isFresh =>
        have notBack : (ancestors.find? fun ancestor => ancestor.location = target) = none :=
          List.find?_eq_none.mpr fun ancestor member => by simpa using isFresh ancestor member
        simp only [look, held, leads, isFolder, if_true, notBack]

/-- What is seen as a folder is one, and a link to it does not lead back. -/
theorem folder_of_look {target : Location}
    (seen : look disk root ancestors names location = .ok (.folder target)) :
    disk.isFolderAt target = true ∧
      (target = location ∨ ∀ ancestor ∈ ancestors, ancestor.location ≠ target) := by
  cases look_eq_ok_iff.mp seen with
  | folder held => exact ⟨by rw [Disk.isFolderAt, held], .inl rfl⟩
  | linkToFolder held leads isFolder isFresh => exact ⟨isFolder, .inr isFresh⟩

end Looks

/-- The folders of a trail, told apart by the links on it: `starts` are the folders that links lead
to and the top one, `run` are those since the last of them. -/
structure Trail.Count (disk : Disk) (trail : List Ancestor) (location : Location)
    (starts run : List Location) : Prop where
  startsOnTrail : starts ⊆ trail.map Ancestor.location
  distinctStarts : starts.Nodup
  distinctRun : run.Nodup
  shorter : ∀ place ∈ run, place.length ≤ location.length
  folders : ∀ place, place ∈ trail.map Ancestor.location ∨ place ∈ run →
    place ∈ disk.folderLocations
  bounded : trail.length + (disk.folderCount + 1) ≤
    starts.length * (disk.folderCount + 1) + run.length

namespace Trail.Count

variable {above : List Ancestor} {location : Location} {starts run : List Location}

/-- There are no more folders on a run than there are places for them. -/
theorem length_run_le (count : Count disk above location starts run) :
    run.length ≤ disk.folderCount + 1 :=
  Disk.length_le_of_folders count.distinctRun fun place isOld => count.folders place (.inr isOld)

/-- A folder inside of the last one prolongs the run. -/
theorem inside (count : Count disk above location starts run) (names : Names) {name : String}
    (isHeld : location ++ [name] ∈ disk.folderLocations) :
    Count disk (⟨names, location ++ [name]⟩ :: above) (location ++ [name]) starts
      ((location ++ [name]) :: run) where
  startsOnTrail := List.subset_cons_of_subset _ count.startsOnTrail
  distinctStarts := count.distinctStarts
  distinctRun := by
    refine List.nodup_cons.mpr ⟨fun isOld => ?_, count.distinctRun⟩
    have tooShort := count.shorter _ isOld
    rw [List.length_append, List.length_singleton] at tooShort
    omega
  shorter := by
    rintro place (_ | ⟨_, isOld⟩)
    · exact le_rfl
    · have isShorter := count.shorter place isOld
      rw [List.length_append, List.length_singleton]
      omega
  folders := by
    rintro place ((_ | ⟨_, isOld⟩) | (_ | ⟨_, isOld⟩))
    · exact isHeld
    · exact count.folders place (.inl isOld)
    · exact isHeld
    · exact count.folders place (.inr isOld)
  bounded := by
    have bounded := count.bounded
    simp only [List.length_cons] at bounded ⊢
    omega

/-- A link starts a new run, and the last one had room for all folders. -/
theorem throughLink (count : Count disk above location starts run) (names : Names)
    {target : Location} (isHeld : target ∈ disk.folderLocations)
    (isFresh : ∀ ancestor ∈ above, ancestor.location ≠ target) :
    Count disk (⟨names, target⟩ :: above) target (target :: starts) [target] where
  startsOnTrail := List.cons_subset.mpr
    ⟨List.mem_cons_self, List.subset_cons_of_subset _ count.startsOnTrail⟩
  distinctStarts := by
    refine List.nodup_cons.mpr ⟨fun isOld => ?_, count.distinctStarts⟩
    obtain ⟨ancestor, isAncestor, rfl⟩ := List.mem_map.mp (count.startsOnTrail isOld)
    exact isFresh ancestor isAncestor rfl
  distinctRun := List.nodup_singleton target
  shorter := by simp
  folders := by
    rintro place ((_ | ⟨_, isOld⟩) | isNew)
    · exact isHeld
    · exact count.folders place (.inl isOld)
    · rw [List.mem_singleton.mp isNew]
      exact isHeld
  bounded := by
    have roomForRun := count.length_run_le
    have bounded := count.bounded
    simp only [List.length_cons, List.length_nil, Nat.succ_mul] at bounded ⊢
    omega

end Trail.Count

theorem Trail.exists_count (isFolder : disk.isFolderAt top = true) {names : Names}
    {location : Location} {above : List Ancestor}
    (trail : Trail disk rules root top (⟨names, location⟩ :: above)) :
    ∃ starts run, Count disk (⟨names, location⟩ :: above) location starts run := by
  generalize isTrail : (⟨names, location⟩ :: above : List Ancestor) = whole at trail
  induction trail generalizing names location above with
  | top =>
      cases isTrail
      refine ⟨[top], [top], ?_, by simp, by simp, by simp, ?_, ?_⟩
      · simp
      · have isHeld := Disk.mem_folderLocations isFolder
        simpa using isHeld
      · simp only [List.length_cons, List.length_nil]
        omega
  | @inner above _ outerLocation target name outer member seen entered inductionHypothesis =>
      cases isTrail
      obtain ⟨starts, run, count⟩ := inductionHypothesis rfl
      obtain ⟨isFolder, isPlain | isFresh⟩ := folder_of_look seen
      · subst isPlain
        exact ⟨_, _, count.inside _ (Disk.mem_folderLocations isFolder)⟩
      · exact ⟨_, _, count.throughLink _ (Disk.mem_folderLocations isFolder) isFresh⟩

/-- A trail is not longer than the depth that a visit allows for. -/
theorem Trail.length_le (isFolder : disk.isFolderAt top = true) {names : Names}
    {location : Location} {above : List Ancestor}
    (trail : Trail disk rules root top (⟨names, location⟩ :: above)) :
    above.length < depthBound disk := by
  obtain ⟨starts, run, count⟩ := trail.exists_count isFolder
  have fewStarts := Disk.length_le_of_folders count.distinctStarts fun place isStart =>
    count.folders place (.inl (count.startsOnTrail isStart))
  have shortRun := count.length_run_le
  have bounded : above.length + 1 ≤ (disk.folderCount + 1) * (disk.folderCount + 1) := by
    have scaled := Nat.mul_le_mul_right (disk.folderCount + 1) fewStarts
    have counted := count.bounded
    rw [List.length_cons] at counted
    omega
  calc above.length
    _ < (disk.folderCount + 1) * (disk.folderCount + 1) := bounded
    _ ≤ depthBound disk := Nat.mul_le_mul (by omega) (by omega)

/-- A folder is visited if all its entries can be looked at and the folders that are entered are
visited. -/
theorem exists_filesIn_succ_eq_ok_iff {fuel : Nat} {names : Names} {location : Location}
    {above : List Ancestor} :
    (∃ found, filesIn disk rules root (fuel + 1) above names location = .ok found) ↔
      ∀ name ∈ disk.namesIn location, ∃ sight,
        look disk root (⟨names, location⟩ :: above) (names ++ [name]) (location ++ [name]) =
          .ok sight ∧
        ∀ target, sight = .folder target → rules.enters root (names ++ [name]) = true →
          ∃ found, filesIn disk rules root fuel (⟨names, location⟩ :: above) (names ++ [name])
            target = .ok found := by
  have succeeds : (∃ found, filesIn disk rules root (fuel + 1) above names location = .ok found) ↔
      ∃ parts, (disk.namesIn location).mapM
        (filesAt disk rules root fuel (⟨names, location⟩ :: above) names location) = .ok parts := by
    rw [filesIn_succ]
    cases List.mapM (filesAt disk rules root fuel (⟨names, location⟩ :: above) names location)
      (disk.namesIn location) <;> simp [Except.map]
  rw [succeeds, FirstFailure.exists_mapM_eq_ok_iff]
  refine forall₂_congr fun name member => ?_
  rw [filesAt]
  cases look disk root (⟨names, location⟩ :: above) (names ++ [name]) (location ++ [name]) with
  | error fault => simp
  | ok sight =>
      cases sight with
      | file => simp
      | folder target =>
          simp only [Except.ok.injEq, Sight.folder.injEq, exists_eq_left', forall_eq']
          split_ifs with isEntered <;> simp [isEntered]

/-- In a visit that succeeds, the folders that a trail leads into are visited with fuel, and their
files are found. -/
theorem Trail.exists_filesIn_eq_ok (isFolder : disk.isFolderAt top = true) {all : List Names}
    (visited : filesIn disk rules root (depthBound disk) [] [] top = .ok all) {names : Names}
    {location : Location} {above : List Ancestor}
    (trail : Trail disk rules root top (⟨names, location⟩ :: above)) :
    ∃ fuel found, fuel + 1 = depthBound disk - above.length ∧
      filesIn disk rules root (fuel + 1) above names location = .ok found ∧ found ⊆ all := by
  generalize isTrail : (⟨names, location⟩ :: above : List Ancestor) = whole at trail
  induction trail generalizing names location above with
  | top =>
      cases isTrail
      have deepEnough := (Trail.top : Trail disk rules root top _).length_le isFolder
      obtain ⟨fuel, isSucc⟩ := Nat.exists_eq_add_of_lt deepEnough
      refine ⟨fuel, all, ?_, ?_, List.Subset.refl all⟩
      · simp only [List.length_nil] at isSucc ⊢
        omega
      · rw [← visited, isSucc, List.length_nil, Nat.zero_add]
  | @inner above names location target name outer member seen entered inductionHypothesis =>
      cases isTrail
      obtain ⟨fuel, found, isFuel, outerVisited, isFound⟩ := inductionHypothesis rfl
      have deepEnough := (outer.inner member seen entered).length_le isFolder
      obtain ⟨part, rfl, contributed⟩ := filesIn_succ_eq_ok_iff.mp outerVisited
      have partVisited := contributed name member
      rw [filesAt, seen] at partVisited
      simp only [entered, if_true] at partVisited
      rw [List.length_cons] at deepEnough
      obtain ⟨less, rfl⟩ : ∃ less, fuel = less + 1 := ⟨fuel - 1, by omega⟩
      refine ⟨less, part name, by rw [List.length_cons]; omega, partVisited, fun way isWay => ?_⟩
      exact isFound (List.mem_flatMap.mpr ⟨name, member, isWay⟩)

theorem exists_filesIn_eq_ok_of_look
    (looks : ∀ head above, Trail disk rules root top (head :: above) →
      ∀ name ∈ disk.namesIn head.location,
        ∃ sight, look disk root (head :: above) (head.names ++ [name]) (head.location ++ [name]) =
          .ok sight)
    (fuel : Nat) {names : Names} {location : Location} {above : List Ancestor}
    (trail : Trail disk rules root top (⟨names, location⟩ :: above)) :
    ∃ found, filesIn disk rules root fuel above names location = .ok found := by
  induction fuel generalizing names location above with
  | zero => exact ⟨[], by rw [filesIn]⟩
  | succ fuel inductionHypothesis =>
      refine exists_filesIn_succ_eq_ok_iff.mpr fun name member => ?_
      obtain ⟨sight, seen⟩ := looks _ _ trail name member
      refine ⟨sight, seen, fun target isFolder isEntered => ?_⟩
      rw [isFolder] at seen
      exact inductionHypothesis (trail.inner member seen isEntered)

/-- A visit succeeds if and only if it can look at all entries of the folders it is led into. -/
theorem exists_visit_eq_ok_iff (isFolder : disk.isFolderAt top = true) :
    (∃ found, filesIn disk rules root (depthBound disk) [] [] top = .ok found) ↔
      ∀ head above, Trail disk rules root top (head :: above) →
        ∀ name ∈ disk.namesIn head.location,
          ∃ sight, look disk root (head :: above) (head.names ++ [name]) (head.location ++ [name]) =
            .ok sight := by
  constructor
  · rintro ⟨all, visited⟩ head above trail name member
    obtain ⟨fuel, found, -, headVisited, -⟩ := trail.exists_filesIn_eq_ok isFolder visited
    obtain ⟨sight, seen, -⟩ := exists_filesIn_succ_eq_ok_iff.mp ⟨found, headVisited⟩ name member
    exact ⟨sight, seen⟩
  · intro looks
    exact exists_filesIn_eq_ok_of_look looks _ .top

end Trails

end FunctionAtlas.Discovery
