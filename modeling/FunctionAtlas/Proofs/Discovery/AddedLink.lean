import FunctionAtlas.Proofs.Discovery.Found
import FunctionAtlas.Run.Summarize

/-!
Contract: what one bad link does to a visit that succeeded without it.

All that could be looked at before looks the same with one link more, so every trail stays one. A
visit that comes past a link that leads nowhere, or back to a folder it is inside of, ends there,
and with it the whole summary. A link in a folder that is not visited changes nothing.

Owns: visits of a disk with one more link.
-/

namespace FunctionAtlas.Discovery

open FunctionAtlas.Run
open FunctionAtlas.Settings
open FunctionAtlas.Storage

/-- By these names a visit on this trail comes to a link that leads nowhere or back. -/
def LeadsAstray (disk : Disk) (root : String) (trail : List Ancestor) (names : Names) : Prop :=
  (∃ fault, disk.canonical (pathBelow root names) = .error fault) ∨
    ∃ ancestor ∈ trail, disk.canonical (pathBelow root names) = .ok ancestor.location

section AddedLink

variable {disk : Disk} {rules : Rules} {root : String} {top folder : Location} {name : String}
  {target : String} (vacant : disk.entryAt (folder ++ [name]) = none)

theorem Trail.isFolderAt (isFolder : disk.isFolderAt top = true) {trail : List Ancestor}
    (isTrail : Trail disk rules root top trail) :
    ∀ ancestor ∈ trail, disk.isFolderAt ancestor.location = true := by
  induction isTrail with
  | top => simpa using isFolder
  | inner outer member seen entered inductionHypothesis =>
      exact List.forall_mem_cons.mpr ⟨(folder_of_look seen).1, inductionHypothesis⟩

include vacant

/-- What could be looked at looks the same. -/
theorem look_withLink {ancestors : List Ancestor} {names : Names} {location : Location}
    {sight : Sight} (seen : look disk root ancestors names location = .ok sight) :
    look (disk.withLink (folder ++ [name]) target) root ancestors names location = .ok sight := by
  have isInner : folder ++ [name] ≠ [] := by simp
  rw [look_eq_ok_iff] at seen ⊢
  cases seen with
  | file held => exact .file (Disk.entryAt_withLink isInner vacant held)
  | folder held => exact .folder (Disk.entryAt_withLink isInner vacant held)
  | linkToFile held leads isFile =>
      refine .linkToFile (Disk.entryAt_withLink isInner vacant held)
        (Disk.canonical_withLink isInner vacant leads) ?_
      rw [Disk.isFolderAt_withLink isInner vacant, isFile]
  | linkToFolder held leads isFolder isFresh =>
      refine .linkToFolder (Disk.entryAt_withLink isInner vacant held)
        (Disk.canonical_withLink isInner vacant leads) ?_ isFresh
      rw [Disk.isFolderAt_withLink isInner vacant, isFolder]

theorem Trail.withLink {trail : List Ancestor} (isTrail : Trail disk rules root top trail) :
    Trail (disk.withLink (folder ++ [name]) target) rules root top trail := by
  induction isTrail with
  | top => exact .top
  | inner outer member seen entered inductionHypothesis =>
      refine inductionHypothesis.inner ?_ (look_withLink vacant seen) entered
      exact (Disk.mem_namesIn_withLink (by simp) vacant).mpr (.inl member)

/-- A look at a bad link fails. -/
theorem exists_look_eq_error (isFolder : disk.isFolderAt top = true) {trail : List Ancestor}
    (isTrail : Trail disk rules root top trail) {names : Names}
    (isBad : LeadsAstray (disk.withLink (folder ++ [name]) target) root trail names) :
    ∃ fault, look (disk.withLink (folder ++ [name]) target) root trail names (folder ++ [name]) =
      .error fault := by
  have isInner : folder ++ [name] ≠ [] := by simp
  unfold look
  rw [Disk.entryAt_withLink_self isInner]
  dsimp only
  rcases isBad with ⟨fault, leadsNowhere⟩ | ⟨ancestor, isAncestor, leadsBack⟩
  · rw [leadsNowhere]
    exact ⟨_, rfl⟩
  · rw [leadsBack]
    dsimp only
    rw [Disk.isFolderAt_withLink isInner vacant,
      if_pos (isTrail.isFolderAt isFolder ancestor isAncestor)]
    have isFound : (trail.find? fun other => other.location = ancestor.location).isSome := by
      rw [List.find?_isSome]
      exact ⟨ancestor, isAncestor, by simp⟩
    obtain ⟨first, isFirst⟩ := Option.isSome_iff_exists.mp isFound
    rw [isFirst]
    exact ⟨_, rfl⟩

/-- A visit that does not come to the folder of the link finds the same files. -/
theorem filesIn_withLink_of_not_trail
    (isApart : ∀ names above, ¬ Trail disk rules root top (⟨names, folder⟩ :: above))
    {fuel : Nat} {above : List Ancestor} {names : Names} {location : Location}
    {found : List Names} (trail : Trail disk rules root top (⟨names, location⟩ :: above))
    (visited : filesIn disk rules root fuel above names location = .ok found) :
    filesIn (disk.withLink (folder ++ [name]) target) rules root fuel above names location =
      .ok found := by
  induction fuel generalizing above names location found with
  | zero =>
      rw [filesIn] at visited ⊢
      exact visited
  | succ fuel inductionHypothesis =>
      obtain ⟨part, rfl, contributed⟩ := filesIn_succ_eq_ok_iff.mp visited
      have isElsewhere : location ≠ (folder ++ [name]).dropLast := by
        rw [List.dropLast_concat]
        rintro rfl
        exact isApart names above trail
      have sameNames : (disk.withLink (folder ++ [name]) target).namesIn location =
          disk.namesIn location :=
        Disk.namesIn_withLink_of_ne (by simp) vacant isElsewhere
      refine filesIn_succ_eq_ok_iff.mpr ⟨part, by rw [sameNames], fun entry member => ?_⟩
      rw [sameNames] at member
      obtain ⟨looked, isIf⟩ | ⟨inner, looked, entered, isInner⟩ | ⟨inner, looked, entered, isEmpty⟩
        := filesAt_cases (contributed entry member)
      · rw [filesAt, look_withLink vacant looked, isIf]
      · rw [filesAt, look_withLink vacant looked]
        dsimp only
        rw [if_pos entered]
        exact inductionHypothesis (trail.inner member looked entered) isInner
      · rw [filesAt, look_withLink vacant looked, isEmpty]
        simp [entered]

end AddedLink

/-- A summary of a folder whose files cannot be found is refused. -/
theorem run_eq_refused {disk : Disk} {isColoured : Bool} {request : SummarizeRequest}
    {format : Format} {loaded : Config} {location : Location} {fault : WalkFault}
    (isFormat : Format.ofName? request.format = some format)
    (isLoaded : loadSettings disk request.config = .ok loaded)
    (inOrder : (request.override loaded).fault? = none)
    (leads : disk.canonical request.path = .ok location)
    (isFolder : disk.isFolderAt location = true)
    (failed : filesUnder disk (request.override loaded) location.toText = .error fault) :
    request.run disk isColoured = refused disk (.discovery fault) := by
  have notResolved : resolveInputs disk (request.override loaded) request.path =
      .error (.discovery fault) := by
    rw [resolveInputs, leads]
    dsimp only
    rw [if_pos isFolder, failed]
  have noPlan : request.plan disk = .error (.discovery fault) := by
    simp only [SummarizeRequest.plan, isFormat, isLoaded, inOrder, notResolved, bind, Except.bind]
  rw [SummarizeRequest.run, noPlan]

/-- To a project that is visited without faults, one bad link is added in a folder that holds no
entry of its name. If the visit comes to that folder, it fails, whatever else there is to find, and
a summary of the project is refused. If not, the same files are found. -/
theorem bad_link_ends_visit_and_summary {disk : Disk} {config : Config}
    {exclusions : List (List Glob.Token)} {root : String} {top folder : Location}
    {name target : String} {paths : List String}
    (compiles : config.exclusions = .ok exclusions)
    (leads : disk.canonical root = .ok top) (isFolder : disk.isFolderAt top = true)
    (visited : filesUnder disk config root = .ok paths)
    (vacant : disk.entryAt (folder ++ [name]) = none) :
    (∀ names above, Trail disk ⟨config, exclusions⟩ root top (⟨names, folder⟩ :: above) →
      LeadsAstray (disk.withLink (folder ++ [name]) target) root (⟨names, folder⟩ :: above)
        (names ++ [name]) →
      ∃ fault, filesUnder (disk.withLink (folder ++ [name]) target) config root = .error fault ∧
        ∀ (isColoured : Bool) (request : SummarizeRequest) (format : Format) (loaded : Config)
          (location : Location), Format.ofName? request.format = some format →
          loadSettings (disk.withLink (folder ++ [name]) target) request.config = .ok loaded →
          request.override loaded = config → config.fault? = none →
          disk.canonical request.path = .ok location → disk.isFolderAt location = true →
          location.toText = root →
          request.run (disk.withLink (folder ++ [name]) target) isColoured =
            refused (disk.withLink (folder ++ [name]) target) (.discovery fault)) ∧
    ((∀ names above, ¬ Trail disk ⟨config, exclusions⟩ root top (⟨names, folder⟩ :: above)) →
      filesUnder (disk.withLink (folder ++ [name]) target) config root = .ok paths) := by
  have isInner : folder ++ [name] ≠ [] := by simp
  have leadsStill : (disk.withLink (folder ++ [name]) target).canonical root = .ok top :=
    Disk.canonical_withLink isInner vacant leads
  have isFolderStill : (disk.withLink (folder ++ [name]) target).isFolderAt top = true := by
    rw [Disk.isFolderAt_withLink isInner vacant, isFolder]
  constructor
  · intro names above trail isBad
    have fails : ∀ others,
        filesUnder (disk.withLink (folder ++ [name]) target) config root ≠ .ok others := by
      intro others succeeded
      obtain ⟨all, found, -⟩ :=
        (filesUnder_eq_ok_iff compiles leadsStill isFolderStill).mp succeeded
      have member : name ∈ (disk.withLink (folder ++ [name]) target).namesIn folder :=
        (Disk.mem_namesIn_withLink isInner vacant).mpr (.inr rfl)
      obtain ⟨sight, seen⟩ := (exists_visit_eq_ok_iff isFolderStill).mp ⟨all, found⟩ _ _
        (trail.withLink vacant) name member
      obtain ⟨fault, notSeen⟩ := exists_look_eq_error vacant isFolder trail isBad
      rw [notSeen] at seen
      cases seen
    cases failed : filesUnder (disk.withLink (folder ++ [name]) target) config root with
    | ok others => exact absurd failed (fails others)
    | error fault =>
        refine ⟨fault, rfl, ?_⟩
        rintro isColoured request format loaded location isFormat isLoaded rfl inOrder isPath
          isFolderPath rfl
        exact run_eq_refused isFormat isLoaded inOrder
          (Disk.canonical_withLink isInner vacant isPath)
          (by rw [Disk.isFolderAt_withLink isInner vacant, isFolderPath]) failed
  · intro isApart
    obtain ⟨all, found, rfl⟩ := (filesUnder_eq_ok_iff compiles leads isFolder).mp visited
    refine (filesUnder_eq_ok_iff compiles leadsStill isFolderStill).mpr ⟨all, ?_, rfl⟩
    have sameDepth : depthBound (disk.withLink (folder ++ [name]) target) = depthBound disk := by
      rw [depthBound, depthBound, Disk.folderCount_withLink isInner vacant]
    rw [sameDepth]
    exact filesIn_withLink_of_not_trail vacant isApart .top found

/-- A folder with one file. -/
def singleFile : Disk where
  entries := [(["p"], .folder), (["p", "a.py"], .file ByteArray.empty)]
  working := []

theorem canonical_danglingLink :
    (singleFile.withLink ["p", "b.py"] "gone").canonical "p/b.py" = .error .missing := by
  have started : Disk.startOf [] "p/b.py" = ([], ["p", "b.py"]) := by cbv
  have walked : (singleFile.withLink ["p", "b.py"] "gone").walk true Disk.linkLimit []
      ["p", "b.py"] = .ok (.vacant ["p", "gone"]) := by cbv
  have isWorking : (singleFile.withLink ["p", "b.py"] "gone").working = [] := rfl
  have isShort : "p/b.py".utf8ByteSize = 6 := rfl
  simp only [Disk.canonical, Disk.locate, Disk.resolve, isWorking, started, walked, isShort]
  simp [Disk.pathLimit]

theorem dangling_link_ends_visit_of_singleFile :
    filesUnder singleFile {} "p" = .ok ["p/a.py"] ∧
      ∃ fault, filesUnder (singleFile.withLink ["p", "b.py"] "gone") {} "p" = .error fault := by
  have visited : filesUnder singleFile {} "p" = .ok ["p/a.py"] := by cbv
  have leads : singleFile.canonical "p" = .ok ["p"] := by cbv
  have isPath : pathBelow "p" ([] ++ ["b.py"]) = "p/b.py" := by cbv
  obtain ⟨fails, -⟩ := @bad_link_ends_visit_and_summary singleFile {} [] "p" ["p"] ["p"] "b.py"
    "gone" _ rfl leads (by decide) visited (by decide)
  have isDangling := canonical_danglingLink
  rw [← isPath] at isDangling
  obtain ⟨fault, failed, -⟩ := fails [] [] .top (.inl ⟨_, isDangling⟩)
  exact ⟨visited, fault, failed⟩

end FunctionAtlas.Discovery
