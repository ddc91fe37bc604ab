import FunctionAtlas.Proofs.Storage.Folders
import FunctionAtlas.Run.Init

/-!
Contract: which files a new settings file takes the place of.

A path that leads somewhere is refused, and then nothing changes. But folders are made before the
file is written, and a path that led nowhere may lead to an old file once they are there: that file
is replaced. It takes a step upwards in the path, through a folder that had to be made, on disks on
which every entry stands in a folder.

Owns: the changes that the task of new settings makes.

Does not own: what the settings are.
-/

namespace FunctionAtlas.Run

open FunctionAtlas.Settings
open FunctionAtlas.Storage

/-! ## New settings -/

/-- The output of a request leads nowhere, but to this location once its folders are made. -/
structure LeadsLater (before : Disk) (request : InitRequest) (location : Location) : Prop where
  notThere : before.exists_ request.output = false
  allMade : (InitRequest.withFolders before request.output).fault? = none
  leads : (InitRequest.withFolders before request.output).disk.canonical request.output =
    .ok location

/-- What a new settings file changes. -/
structure InitFrame (before : Disk) (request : InitRequest) (effect : Effect) : Prop where
  keeps : before.Keeps effect.disk
  refused : before.exists_ request.output = true →
    effect.ending = .exit .error ∧ effect.disk = before
  kept : ∀ location content, before.entryAt location = some (.file content) →
    ¬ LeadsLater before request location → effect.disk.entryAt location = some (.file content)
  replaced : ∀ location content, before.entryAt location = some (.file content) →
    LeadsLater before request location →
      effect.disk.entryAt location = some (.file template.toUTF8)
  inwards : .up ∉ (Path.ofText request.output).components →
    ∀ location content, before.entryAt location = some (.file content) →
      ¬ LeadsLater before request location

theorem gains_withFolders (disk : Disk) (output : String) :
    ∃ paths, disk.GainsFolders paths (InitRequest.withFolders disk output).disk := by
  unfold InitRequest.withFolders
  split
  next => exact ⟨[], .refl disk []⟩
  next =>
    split_ifs
    · exact ⟨[], .refl disk []⟩
    · exact ⟨_, Disk.gainsFolders_makeFoldersAlong disk _⟩

/-- Without steps upwards, a path that led nowhere leads to something new. -/
theorem vacant_of_withFolders {disk : Disk} (grounded : disk.Grounded) {output : String}
    {location : Location} (notThere : disk.exists_ output = false)
    (inwards : .up ∉ (Path.ofText output).components)
    (allMade : (InitRequest.withFolders disk output).fault? = none)
    (isPlace : (InitRequest.withFolders disk output).disk.locateFile output = .ok location) :
    disk.entryAt location = none := by
  have inwardsPieces := Path.not_mem_pieces inwards
  unfold InitRequest.withFolders at allMade isPlace
  split at isPlace
  next => exact Disk.vacant_of_not_exists notThere isPlace
  next folder isParent =>
    rw [isParent] at allMade
    dsimp only at allMade
    split_ifs at allMade isPlace
    · exact Disk.vacant_of_not_exists notThere isPlace
    · have inwardsFolder : .up ∉ (Path.ofText folder.toText).components := by
        rw [((Path.proper_ofText output).parent isParent).components_toText]
        exact fun isThere => inwards ((Path.parent_components isParent).subset isThere)
      have gains := Disk.gainsFolders_makeFoldersAlong disk
        (Disk.pathsUpwards ((Path.ofText folder.toText).pieces.length + 2)
          (Path.ofText folder.toText))
      rcases Disk.leadsToNew_makeFoldersAlong grounded (Path.proper_ofText folder.toText)
        (Path.not_mem_pieces inwardsFolder) allMade with same | leads
      · unfold Disk.prepareFolders at isPlace
        dsimp only at isPlace
        rw [same] at isPlace
        exact Disk.vacant_of_not_exists notThere isPlace
      · have leadsFolder := leads.of_toText ((Path.proper_ofText output).parent isParent)
        exact leadsFolder.vacant_of_locateFile gains grounded inwardsPieces isParent isPlace

/-- What was there stays when folders are made. -/
theorem entryAt_withFolders {disk : Disk} {output : String} {location : Location} {entry : Entry}
    (held : disk.entryAt location = some entry) :
    (InitRequest.withFolders disk output).disk.entryAt location = some entry := by
  obtain ⟨paths, gains⟩ := gains_withFolders disk output
  rcases gains.gained location with same | ⟨vacant, -⟩
  · rw [same, held]
  · rw [vacant] at held
    cases held

theorem LeadsLater.locateFile {before : Disk} (grounded : before.Grounded) {request : InitRequest}
    {location : Location} {content : ByteArray}
    (held : before.entryAt location = some (.file content))
    (leadsLater : LeadsLater before request location) :
    (InitRequest.withFolders before request.output).disk.locateFile request.output =
      .ok location := by
  obtain ⟨paths, gains⟩ := gains_withFolders before request.output
  exact Disk.locateFile_of_canonical (gains.grounded grounded) leadsLater.leads
    (entryAt_withFolders held)

/-- Without steps upwards, no path leads to an old file once its folders are made, unless it led
there before. -/
theorem not_leadsLater {before : Disk} (grounded : before.Grounded) {request : InitRequest}
    (inwards : .up ∉ (Path.ofText request.output).components) {location : Location}
    {content : ByteArray} (held : before.entryAt location = some (.file content)) :
    ¬ LeadsLater before request location := by
  intro leadsLater
  have vacant := vacant_of_withFolders grounded leadsLater.notThere inwards leadsLater.allMade
    (leadsLater.locateFile grounded held)
  rw [vacant] at held
  cases held

/-- A request whose output leads nowhere makes folders, and at most puts the settings at the place
that the output has then. -/
theorem run_of_not_exists {before : Disk} {request : InitRequest}
    (notThere : before.exists_ request.output = false) :
    let made := InitRequest.withFolders before request.output
    ((request.run before).disk = made.disk ∧
      (made.fault? = none → ∃ fault, made.disk.locateFile request.output = .error fault)) ∨
    made.fault? = none ∧
      made.disk.writeText request.output template = .ok (request.run before).disk := by
  dsimp only
  unfold InitRequest.run
  rw [if_neg (by simp [notThere])]
  dsimp only
  cases allMade : (InitRequest.withFolders before request.output).fault? with
  | some fault => exact .inl ⟨rfl, by simp⟩
  | none =>
      dsimp only
      unfold Disk.writeText Disk.writeBytes
      cases (InitRequest.withFolders before request.output).disk.locateFile request.output with
      | error fault => exact .inl ⟨rfl, fun _ => ⟨fault, rfl⟩⟩
      | ok location => exact .inr ⟨rfl, rfl⟩

theorem initFrame_of_run {before : Disk} (grounded : before.Grounded) (request : InitRequest) :
    InitFrame before request (request.run before) ∧ (request.run before).disk.Grounded := by
  have inwards : .up ∉ (Path.ofText request.output).components →
      ∀ location content, before.entryAt location = some (.file content) →
        ¬ LeadsLater before request location :=
    fun isInwards _ _ held => not_leadsLater grounded isInwards held
  by_cases isThere : before.exists_ request.output = true
  · have isRefused : request.run before = refused before (.outputExists request.output) := by
      rw [InitRequest.run, if_pos isThere]
    rw [isRefused]
    refine ⟨⟨.refl before, fun _ => ⟨rfl, rfl⟩, fun _ _ held _ => held, ?_, inwards⟩, grounded⟩
    intro location content held leadsLater
    rw [leadsLater.notThere] at isThere
    cases isThere
  · have notThere : before.exists_ request.output = false := by simpa using isThere
    obtain ⟨paths, gains⟩ := gains_withFolders before request.output
    have madeGrounded := gains.grounded grounded
    rcases run_of_not_exists notThere with ⟨onlyFolders, noPlace⟩ | ⟨allMade, written⟩
    · rw [← onlyFolders] at gains madeGrounded
      refine ⟨⟨gains.keeps, fun exists_ => absurd exists_ isThere, ?_, ?_, inwards⟩, madeGrounded⟩
      · intro location content held _
        rw [onlyFolders]
        exact entryAt_withFolders held
      · intro location content held leadsLater
        obtain ⟨fault, noPlace⟩ := noPlace leadsLater.allMade
        rw [leadsLater.locateFile grounded held] at noPlace
        cases noPlace
    · obtain ⟨place, wrote⟩ := Disk.exists_wrote_of_writeBytes written
      refine ⟨⟨gains.keeps.trans wrote.keeps, fun exists_ => absurd exists_ isThere, ?_, ?_,
        inwards⟩, madeGrounded.of_writeBytes written⟩
      · intro location content held notLater
        rw [wrote.others, entryAt_withFolders held]
        rintro rfl
        exact notLater ⟨notThere, allMade,
          Disk.canonical_of_writeBytes written wrote.leads (entryAt_withFolders held)⟩
      · intro location content held leadsLater
        have leadsStill := wrote.keeps.canonical leadsLater.leads
        rw [wrote.leads] at leadsStill
        obtain rfl := Except.ok.inj leadsStill
        exact wrote.holds

end FunctionAtlas.Run
