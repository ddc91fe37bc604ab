import FunctionAtlas.Command.Program
import FunctionAtlas.Proofs.Run.SettingsFrame
import FunctionAtlas.Proofs.Run.SummaryFrame
import FunctionAtlas.Proofs.Search.FoundLines

/-!
Contract: what tasks may change of a disk, one after the other, and the exit codes they end with.

A summary changes files of views and makes folders for them, a search changes nothing, and new
settings take the place of an old file only in one case. Every task leaves each entry in a folder,
so this holds after any tasks.

Owns: the conditions for the exit codes of a search, and the frames of all tasks in a row.

Does not own: what is printed.
-/

namespace FunctionAtlas.Run

open FunctionAtlas.Command
open FunctionAtlas.Report
open FunctionAtlas.Search
open FunctionAtlas.Settings
open FunctionAtlas.Storage

/-! ## Searches -/

/-- Pattern, settings and path of a search are in order, and give this program and these files. -/
def Accepts (disk : Disk) (request : SearchRequest) (program : Regex.Program) (inputs : Inputs) :
    Prop :=
  compile request.pattern
      { ignoreCase := request.ignoreCase, fixedStrings := request.fixedStrings } = .ok program ∧
    ∃ settings, loadSettings disk request.config = .ok settings ∧
      resolveInputs disk settings request.path = .ok inputs

/-- The pattern is refused, or else the settings, or else the path with what is found below it. -/
def Rejects (disk : Disk) (request : SearchRequest) : Prop :=
  (∃ fault, compile request.pattern
      { ignoreCase := request.ignoreCase, fixedStrings := request.fixedStrings } = .error fault) ∨
    (∃ refusal, loadSettings disk request.config = .error refusal) ∨
    ∃ settings refusal, loadSettings disk request.config = .ok settings ∧
      resolveInputs disk settings request.path = .error refusal

/-- A search changes nothing, and this is how it ends. -/
structure SearchFrame (before : Disk) (request : SearchRequest) (effect : Effect) : Prop where
  unchanged : effect.disk = before
  success : effect.ending = .exit .success ↔ ∃ program inputs,
    Accepts before request program inputs ∧ ∃ file ∈ inputs.files, HasMatch before program file
  failed : effect.ending = .exit .failed ↔ ∃ program inputs,
    Accepts before request program inputs ∧ ∀ file ∈ inputs.files, ¬ HasMatch before program file
  error : effect.ending = .exit .error ↔ Rejects before request

/-- A search that is in order finds what is in its files. -/
theorem find_of_accepts {disk : Disk} {request : SearchRequest} {program : Regex.Program}
    {inputs : Inputs} (accepts : Accepts disk request program inputs) :
    request.find disk = .ok (searchFiles disk program inputs.base inputs.files) := by
  obtain ⟨compiled, settings, loaded, resolved⟩ := accepts
  simp [SearchRequest.find, compiled, loaded, resolved, bind, Except.bind]

theorem exists_find_of_rejects {disk : Disk} {request : SearchRequest}
    (rejects : Rejects disk request) : ∃ refusal, request.find disk = .error refusal := by
  unfold SearchRequest.find
  rcases rejects with ⟨fault, refused⟩ | ⟨refusal, refused⟩ | ⟨settings, refusal, loaded, refused⟩
  · exact ⟨_, by rw [refused]⟩
  · cases compile request.pattern _ <;> simp [refused, bind, Except.bind]
  · cases compile request.pattern _ <;> simp [loaded, refused, bind, Except.bind]

theorem accepts_or_rejects (disk : Disk) (request : SearchRequest) :
    (∃ program inputs, Accepts disk request program inputs) ∨ Rejects disk request := by
  unfold Accepts Rejects
  cases compile request.pattern
      { ignoreCase := request.ignoreCase, fixedStrings := request.fixedStrings } with
  | error fault => simp
  | ok program =>
      cases loadSettings disk request.config with
      | error refusal => simp
      | ok settings => cases resolved : resolveInputs disk settings request.path <;> simp [resolved]

/-- A search that is in order succeeds exactly if a file has a match. -/
theorem run_of_accepts {before : Disk} {request : SearchRequest} {program : Regex.Program}
    {inputs : Inputs} (isColoured : Bool) (accepts : Accepts before request program inputs) :
    (request.run before isColoured).disk = before ∧
      ((∃ file ∈ inputs.files, HasMatch before program file) ∧
          (request.run before isColoured).ending = .exit .success ∨
        (∀ file ∈ inputs.files, ¬ HasMatch before program file) ∧
          (request.run before isColoured).ending = .exit .failed) := by
  have found : searchFiles before program inputs.base inputs.files ≠ [] ↔ _ :=
    searchFiles_ne_nil_iff inputs.base inputs.files
  rw [SearchRequest.run, find_of_accepts accepts]
  refine ⟨rfl, ?_⟩
  dsimp only
  generalize searchFiles before program inputs.base inputs.files = hits at found ⊢
  cases hits with
  | nil => exact .inr ⟨by simpa using found, rfl⟩
  | cons hit hits => exact .inl ⟨found.mp (by simp), rfl⟩

theorem run_of_rejects {before : Disk} {request : SearchRequest} (isColoured : Bool)
    (rejects : Rejects before request) :
    (request.run before isColoured).disk = before ∧
      (request.run before isColoured).ending = .exit .error := by
  obtain ⟨refusal, refusedFind⟩ := exists_find_of_rejects rejects
  rw [SearchRequest.run, refusedFind]
  exact ⟨rfl, rfl⟩

theorem searchFrame_of_run (before : Disk) (isColoured : Bool) (request : SearchRequest) :
    SearchFrame before request (request.run before isColoured) := by
  have either := accepts_or_rejects before request
  constructor
  · rcases either with ⟨program, inputs, accepts⟩ | rejects
    · exact (run_of_accepts isColoured accepts).1
    · exact (run_of_rejects isColoured rejects).1
  · constructor
    · intro succeeds
      rcases either with ⟨program, inputs, accepts⟩ | rejects
      · obtain ⟨-, ⟨hasMatch, -⟩ | ⟨-, fails⟩⟩ := run_of_accepts isColoured accepts
        · exact ⟨program, inputs, accepts, hasMatch⟩
        · simp [fails] at succeeds
      · simp [(run_of_rejects isColoured rejects).2] at succeeds
    · rintro ⟨program, inputs, accepts, file, isFile, hasMatch⟩
      obtain ⟨-, ⟨-, succeeds⟩ | ⟨noMatch, -⟩⟩ := run_of_accepts isColoured accepts
      · exact succeeds
      · exact absurd hasMatch (noMatch file isFile)
  · constructor
    · intro fails
      rcases either with ⟨program, inputs, accepts⟩ | rejects
      · obtain ⟨-, ⟨-, succeeds⟩ | ⟨noMatch, -⟩⟩ := run_of_accepts isColoured accepts
        · simp [succeeds] at fails
        · exact ⟨program, inputs, accepts, noMatch⟩
      · simp [(run_of_rejects isColoured rejects).2] at fails
    · rintro ⟨program, inputs, accepts, noMatch⟩
      obtain ⟨-, ⟨⟨file, isFile, hasMatch⟩, -⟩ | ⟨-, fails⟩⟩ := run_of_accepts isColoured accepts
      · exact absurd hasMatch (noMatch file isFile)
      · exact fails
  · constructor
    · intro isError
      refine either.resolve_left ?_
      rintro ⟨program, inputs, accepts⟩
      obtain ⟨-, ⟨-, other⟩ | ⟨-, other⟩⟩ := run_of_accepts isColoured accepts <;>
        simp [other] at isError
    · exact fun rejects => (run_of_rejects isColoured rejects).2

/-! ## Tasks one after the other -/

/-- The disk after tasks were carried out one after the other, each with or without colours. -/
def afterTasks (start : Disk) (tasks : List (Bool × Task)) : Disk :=
  tasks.foldl (fun disk task => (perform disk task.1 task.2).disk) start

/-- What a task may change of a disk, and how it ends. -/
def Framed (before : Disk) (effect : Effect) : Task → Prop
  | .summarize request => SummarizeFrame before request effect
  | .search request => SearchFrame before request effect
  | .init request => InitFrame before request effect

/-- One task stays within its frame and leaves every entry in a folder. -/
theorem framed_perform {before : Disk} (grounded : before.Grounded) (isColoured : Bool)
    (task : Task) :
    Framed before (perform before isColoured task) task ∧
      (perform before isColoured task).disk.Grounded := by
  cases task with
  | summarize request =>
      obtain ⟨frame, staysGrounded⟩ := summarizeFrame_of_run before isColoured request
      exact ⟨frame, staysGrounded grounded⟩
  | search request =>
      have frame := searchFrame_of_run before isColoured request
      refine ⟨frame, ?_⟩
      rw [perform, frame.unchanged]
      exact grounded
  | init request => exact initFrame_of_run grounded request

theorem grounded_afterTasks {start : Disk} (grounded : start.Grounded)
    (tasks : List (Bool × Task)) : (afterTasks start tasks).Grounded := by
  induction tasks generalizing start with
  | nil => exact grounded
  | cons task rest inductionHypothesis =>
      exact inductionHypothesis (framed_perform grounded task.1 task.2).2

/-- On a disk on which every entry stands in a folder, after any tasks, the next task stays within
its frame. A summary that is refused, and one that is printed as a document, changes nothing; any
other changes files at the paths of views and makes the folder of the views and missing ones above
it, and it fails exactly if it is strict and a selected file is skipped. A search changes nothing;
it succeeds exactly if some selected file that can be read has a match, fails if none has, and is
refused exactly for its pattern, its settings or its path. A new settings file leaves all files as
they are, but for one that its path leads to only once folders are made for it, which takes a step
upwards. -/
theorem tasks_stay_framed
    (start : Disk)
    (grounded : start.Grounded)
    (earlier : List (Bool × Task))
    (isColoured : Bool)
    (task : Task) :
    Framed (afterTasks start earlier) (perform (afterTasks start earlier) isColoured task) task :=
  (framed_perform (grounded_afterTasks grounded earlier) isColoured task).1

/-- A disk with a file. -/
def oneFile (content : ByteArray) : Disk where
  entries := [(["f"], .file content)]
  working := []

/-- A disk with a file and a folder. -/
def fileAndFolder (content : ByteArray) : Disk where
  entries := [(["f"], .file content), (["d"], .folder)]
  working := []

theorem grounded_oneFile (content : ByteArray) : (oneFile content).Grounded := by
  intro folder name isSome
  obtain ⟨entry, held⟩ := Option.ne_none_iff_exists'.mp isSome
  have member := Disk.mem_entries_of_entryAt (by simp) held
  have isPlace : folder ++ [name] = ["f"] := (Prod.mk.inj (List.mem_singleton.mp member)).1
  obtain rfl : folder = [] := by simpa using congrArg List.dropLast isPlace
  rfl

/-- A path through a folder that is not there leads nowhere, and back once there is one. -/
theorem resolve_throughFolder (content : ByteArray) (follow : Bool) :
    (oneFile content).resolve follow "d/.." = .error .missing ∧
      (fileAndFolder content).resolve follow "d/.." = .ok (.found []) ∧
      (oneFile content).resolve follow "d/../f" = .error .missing ∧
      (fileAndFolder content).resolve true "d/../f" = .ok (.found ["f"]) := by
  have ofFolder : Disk.startOf [] "d/.." = ([], ["d", ".."]) := by cbv
  have ofFile : Disk.startOf [] "d/../f" = ([], ["d", "..", "f"]) := by cbv
  have resolves : ∀ {disk : Disk} {follow : Bool} {path : String} {pieces : List String},
      Disk.startOf disk.working path = ([], pieces) → path = "d/.." ∨ path = "d/../f" →
      disk.resolve follow path = disk.walk follow Disk.linkLimit [] pieces := by
    intro disk follow path pieces started isPath
    rcases isPath with rfl | rfl <;>
      rw [Disk.resolve, if_neg (by decide), if_neg (by decide), if_neg (by decide), started]
  refine ⟨?_, ?_, ?_, ?_⟩
  · rw [resolves ofFolder (.inl rfl)]
    cases follow <;> cbv
  · rw [resolves ofFolder (.inl rfl)]
    cases follow <;> cbv
  · rw [resolves ofFile (.inr rfl)]
    cases follow <;> cbv
  · rw [resolves ofFile (.inr rfl)]
    cbv

theorem withFolders_oneFile (content : ByteArray) :
    InitRequest.withFolders (oneFile content) "d/../f" = { disk := fileAndFolder content } := by
  have isParent : (Path.ofText "d/../f").parent = some ⟨.relative, ["d", ".."]⟩ := by cbv
  have isText : Path.toText ⟨.relative, ["d", ".."]⟩ = "d/.." := by cbv
  have notWorking : isWorkingFolder "d/.." = false := by cbv
  have isPath : Path.ofText "d/.." = ⟨.relative, ["d", ".."]⟩ := by cbv
  have above : Disk.pathsUpwards 4 ⟨.relative, ["d", ".."]⟩ = ["d/..", "d"] := by cbv
  have notTrimmed : "d/..".endsWith "/" = false := by cbv
  obtain ⟨before, after, -⟩ := resolve_throughFolder content false
  have leadsBack := (resolve_throughFolder content true).2.1
  have first : (oneFile content).makeFolder "d/.." = .error .missing := by
    rw [Disk.makeFolder, if_neg (by decide), notTrimmed]
    simp [before]
  have second : (oneFile content).makeFolder "d" = .ok (fileAndFolder content) := by cbv
  have third : (fileAndFolder content).makeFolder "d/.." = .error .alreadyThere := by
    rw [Disk.makeFolder, if_neg (by decide), notTrimmed]
    simp [after]
  have isFolder : (fileAndFolder content).isFolder "d/.." = true := by
    rw [Disk.isFolder, Disk.canonical, Disk.locate, leadsBack]
    rfl
  rw [InitRequest.withFolders, isParent]
  simp only [isText, notWorking, Disk.prepareFolders, isPath, List.length_cons, List.length_nil,
    above]
  simp [Disk.makeFoldersAlong, first, second, third, isFolder]

/-- A file that is there is not replaced under its own name, but it is on a way through a folder
that has to be made. -/
theorem settings_replace_oneFile :
    let start := oneFile "keep me".toUTF8
    let refused := (false, Task.init { output := "f" })
    let replacing := Task.init { output := "d/../f" }
    start.Grounded ∧ afterTasks start [refused] = start ∧
      Framed start (perform start false replacing) replacing ∧
      (perform start false replacing).disk.entryAt ["f"] = some (.file template.toUTF8) ∧
      "keep me" ≠ template := by
  have grounded := grounded_oneFile "keep me".toUTF8
  have isThere : (oneFile "keep me".toUTF8).exists_ "f" = true := by
    generalize "keep me".toUTF8 = content
    cbv
  have first : InitFrame _ _ _ :=
    tasks_stay_framed (oneFile "keep me".toUTF8) grounded [] false (.init { output := "f" })
  have unchanged : afterTasks (oneFile "keep me".toUTF8) [(false, .init { output := "f" })] =
      oneFile "keep me".toUTF8 := (first.refused isThere).2
  have framed : InitFrame _ _ _ :=
    tasks_stay_framed (oneFile "keep me".toUTF8) grounded [(false, .init { output := "f" })] false
      (.init { output := "d/../f" })
  rw [unchanged] at framed
  obtain ⟨-, -, before, -⟩ := resolve_throughFolder "keep me".toUTF8 true
  obtain ⟨-, -, -, after⟩ := resolve_throughFolder "keep me".toUTF8 true
  have leadsLater : LeadsLater (oneFile "keep me".toUTF8) { output := "d/../f" } ["f"] := by
    refine ⟨?_, ?_, ?_⟩
    · rw [Disk.exists_, Disk.canonical, Disk.locate, before]
    · rw [withFolders_oneFile]
    · rw [withFolders_oneFile, Disk.canonical, Disk.locate, after]
  exact ⟨grounded, unchanged, framed, framed.replaced ["f"] _ rfl leadsLater, by decide⟩

end FunctionAtlas.Run
