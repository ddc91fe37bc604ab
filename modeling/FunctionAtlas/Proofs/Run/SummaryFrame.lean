import FunctionAtlas.Proofs.Analysis.Abort
import FunctionAtlas.Proofs.Report.WrittenViews
import FunctionAtlas.Proofs.Storage.Folders
import FunctionAtlas.Run.Summarize

/-!
Contract: what a summary may change of a disk, and how it ends.

Views are written to the paths that the settings give them, after their folder and the missing ones
above it were made. Nothing else changes, also if not all views can be written. A summary that is
refused or printed as a document changes nothing.

Owns: the changes that a summary makes, and the conditions for its exit codes.

Does not own: what the views say.
-/

namespace FunctionAtlas.Run

open FunctionAtlas.Analysis
open FunctionAtlas.Report
open FunctionAtlas.Settings
open FunctionAtlas.Storage

/-! ## Views and their folders -/

/-- The paths that views are written to. -/
def viewPaths (output : OutputConfig) : List String :=
  match output.combinedFile with
  | some name => [joinPath output.directory name]
  | none =>
      [output.summaryFile, output.snippetsFile, output.treesFile].map (joinPath output.directory)

theorem map_fst_plannedViews (summary : Summary) (output : OutputConfig) :
    (plannedViews summary output).map Prod.fst = viewPaths output := by
  unfold plannedViews viewPaths
  cases output.combinedFile <;> rfl

/-- A folder that was made in a vacant place, for a folder or for one above it. -/
structure IsNewFolder (before after : Disk) (directory : String) (location : Location) : Prop where
  vacant : before.entryAt location = none
  holds : after.entryAt location = some .folder
  leads : ∃ path, (Path.ofText path).components <+: (Path.ofText directory).components ∧
    after.canonical path = .ok location

/-- Only files of views have changed, and only the folder of the views and those above it were made.
Folders and links are as they were, and no file is gone. -/
structure WritesViews (before : Disk) (output : OutputConfig) (after : Disk) : Prop where
  keeps : before.Keeps after
  changed : ∀ location, after.entryAt location = before.entryAt location ∨
    (∃ path ∈ viewPaths output, after.canonical path = .ok location ∧
      ∃ content, after.entryAt location = some (.file content)) ∨
    IsNewFolder before after output.directory location

theorem WritesViews.refl (disk : Disk) (output : OutputConfig) : WritesViews disk output disk :=
  ⟨.refl disk, fun _ => .inl rfl⟩

/-- Some of the first texts are written, all of them if there is no fault. -/
theorem exists_writes_of_writeAll (disk : Disk) (views : List (String × String)) :
    ∃ written, written <+: views ∧ Writes disk written (writeAll disk views).disk ∧
      (disk.Grounded → (writeAll disk views).disk.Grounded) := by
  induction views generalizing disk with
  | nil => exact ⟨[], List.nil_prefix, .nil, id⟩
  | cons view rest inductionHypothesis =>
      obtain ⟨path, text⟩ := view
      rw [writeAll]
      cases wrote : disk.writeText path text with
      | error fault => exact ⟨[], List.nil_prefix, .nil, id⟩
      | ok changed =>
          obtain ⟨location, wroteFile⟩ := Disk.exists_wrote_of_writeBytes wrote
          obtain ⟨written, isFirst, writes, grounded⟩ := inductionHypothesis changed
          exact ⟨(path, text) :: written, List.cons_prefix_cons.mpr ⟨rfl, isFirst⟩,
            .cons wroteFile writes, fun isGrounded => grounded (isGrounded.of_writeBytes wrote)⟩

theorem isNewFolder_of_prepareFolders {disk : Disk} {directory : String} {location : Location}
    (isNew : (disk.prepareFolders directory).disk.entryAt location ≠ disk.entryAt location) :
    IsNewFolder disk (disk.prepareFolders directory).disk directory location := by
  have gains := Disk.gainsFolders_makeFoldersAlong disk
    (Disk.pathsUpwards ((Path.ofText directory).pieces.length + 2) (Path.ofText directory))
  obtain ⟨vacant, holds, path, member, leads⟩ := (gains.gained location).resolve_left isNew
  exact ⟨vacant, holds, path,
    Path.components_of_mem_pathsUpwards (Path.proper_ofText directory) member, leads⟩

theorem grounded_of_prepareFolders {disk : Disk} (grounded : disk.Grounded) (directory : String) :
    (disk.prepareFolders directory).disk.Grounded :=
  (Disk.gainsFolders_makeFoldersAlong disk _).grounded grounded

theorem keeps_prepareFolders (disk : Disk) (directory : String) :
    disk.Keeps (disk.prepareFolders directory).disk :=
  (Disk.gainsFolders_makeFoldersAlong disk _).keeps

/-- Writing views after their folders were made changes their files only. -/
theorem writesViews_of_writeAll {disk start : Disk} (summary : Summary) (output : OutputConfig)
    (keeps : disk.Keeps start)
    (isNew : ∀ location, start.entryAt location ≠ disk.entryAt location →
      IsNewFolder disk start output.directory location) :
    WritesViews disk output (writeAll start (plannedViews summary output)).disk ∧
      (start.Grounded → (writeAll start (plannedViews summary output)).disk.Grounded) := by
  obtain ⟨written, isFirst, writes, grounded⟩ :=
    exists_writes_of_writeAll start (plannedViews summary output)
  generalize (writeAll start (plannedViews summary output)).disk = after at writes grounded ⊢
  refine ⟨⟨keeps.trans writes.keeps, fun location => ?_⟩, grounded⟩
  by_cases isView : ∃ view ∈ written, after.canonical view.1 = .ok location
  · obtain ⟨view, member, leads⟩ := isView
    obtain ⟨place, content, isPlace, held⟩ := writes.leads view member
    obtain rfl := Except.ok.inj (isPlace.symm.trans leads)
    refine .inr (.inl ⟨view.1, ?_, leads, content, held⟩)
    rw [← map_fst_plannedViews summary output]
    exact List.mem_map_of_mem (isFirst.subset member)
  · have untouched : after.entryAt location = start.entryAt location :=
      writes.entryAt_of_ne fun view member leads => isView ⟨view, member, leads⟩
    by_cases same : start.entryAt location = disk.entryAt location
    · exact .inl (untouched.trans same)
    · obtain ⟨vacant, holds, path, isAbove, leads⟩ := isNew location same
      exact .inr (.inr ⟨vacant, untouched.trans holds, path, isAbove,
        writes.keeps.canonical leads⟩)

/-- Writing views, also if not all can be written, changes their files and makes their folders. -/
theorem writesViews_of_writeViews (disk : Disk) (summary : Summary) (output : OutputConfig) :
    WritesViews disk output (writeViews disk summary output).disk ∧
      (disk.Grounded → (writeViews disk summary output).disk.Grounded) := by
  unfold writeViews
  dsimp only
  split_ifs
  · exact writesViews_of_writeAll summary output (.refl disk) fun _ differs => absurd rfl differs
  · have keeps := keeps_prepareFolders disk output.directory
    have grounded := fun isGrounded : disk.Grounded =>
      grounded_of_prepareFolders isGrounded output.directory
    split
    next =>
      refine ⟨⟨keeps, fun location => ?_⟩, grounded⟩
      by_cases same : (disk.prepareFolders output.directory).disk.entryAt location =
          disk.entryAt location
      · exact .inl same
      · exact .inr (.inr (isNewFolder_of_prepareFolders same))
    next =>
      obtain ⟨writes, staysGrounded⟩ :=
        writesViews_of_writeAll summary output keeps fun _ => isNewFolder_of_prepareFolders
      exact ⟨writes, staysGrounded ∘ grounded⟩

/-! ## Summaries -/

/-- A file is selected, and it is skipped since it cannot be read or is no valid module. -/
def SkipsFile (disk : Disk) (plan : SummarizeRequest.Plan) : Prop :=
  ∃ file ∈ plan.inputs.files, ∃ failure,
    outcomeOf disk plan.inputs.base file = .ok (.failed failure)

/-- What a summary changes, and how it ends. -/
structure SummarizeFrame (before : Disk) (request : SummarizeRequest) (effect : Effect) : Prop where
  refused : effect.ending = .exit .error ↔ ∃ refusal, request.plan before = .error refusal
  unchanged : effect.ending = .exit .error ∨ request.format = "json" → effect.disk = before
  written : ∀ plan, request.plan before = .ok plan →
    WritesViews before plan.config.output effect.disk
  failed : ∀ plan, request.plan before = .ok plan → ∀ code, effect.ending = .exit code →
    (code = .failed ↔ request.isStrict = true ∧ SkipsFile before plan)

theorem format_of_plan {disk : Disk} {request : SummarizeRequest} {plan : SummarizeRequest.Plan}
    (planned : request.plan disk = .ok plan) :
    Format.ofName? request.format = some plan.format := by
  unfold SummarizeRequest.plan at planned
  cases isFormat : Format.ofName? request.format with
  | none =>
      rw [isFormat] at planned
      cases planned
  | some format =>
      rw [isFormat] at planned
      dsimp only at planned
      cases loaded : loadSettings disk request.config with
      | error refusal =>
          rw [loaded] at planned
          cases planned
      | ok config =>
          simp only [loaded, bind, Except.bind] at planned
          split at planned
          next => cases planned
          next =>
            split at planned
            next => cases planned
            next =>
              cases planned
              rfl

/-- A summary has failures exactly if a file was skipped. -/
theorem failures_ne_nil_iff {disk : Disk} {plan : SummarizeRequest.Plan} {summary : Summary}
    (analyzed : analyze disk plan.inputs.base plan.inputs.files = .ok summary) :
    summary.failures ≠ [] ↔ SkipsFile disk plan := by
  obtain ⟨outcomes, each, rfl⟩ := (analyze_eq_ok_iff _ _ _ _).mp analyzed
  rw [Summary.ofOutcomes_eq, SkipsFile]
  dsimp only
  clear analyzed
  generalize plan.inputs.files = files at each ⊢
  induction each with
  | nil => simp
  | @cons file outcome files outcomes isOutcome _ inductionHypothesis =>
      rw [List.exists_mem_cons_iff, ← inductionHypothesis, isOutcome]
      cases outcome <;> simp [Outcome.failure?]

theorem exitCode_eq_failed_iff {disk : Disk} {request : SummarizeRequest}
    {plan : SummarizeRequest.Plan} {summary : Summary}
    (analyzed : analyze disk plan.inputs.base plan.inputs.files = .ok summary) :
    request.exitCode summary = .failed ↔ request.isStrict = true ∧ SkipsFile disk plan := by
  rw [← failures_ne_nil_iff analyzed, SummarizeRequest.exitCode]
  cases request.isStrict <;> cases summary.failures <;> simp

theorem exitCode_ne_error (request : SummarizeRequest) (summary : Summary) :
    request.exitCode summary ≠ .error := by
  unfold SummarizeRequest.exitCode
  split_ifs <;> simp

/-- All endings of a task with a plan are those of a task that is not refused. -/
theorem SummarizeFrame.of_plan {before : Disk} {request : SummarizeRequest}
    {plan : SummarizeRequest.Plan} {effect : Effect} (planned : request.plan before = .ok plan)
    (notRefused : effect.ending ≠ .exit .error)
    (unchanged : request.format = "json" → effect.disk = before)
    (written : WritesViews before plan.config.output effect.disk)
    (failed : ∀ code, effect.ending = .exit code →
      (code = .failed ↔ request.isStrict = true ∧ SkipsFile before plan)) :
    SummarizeFrame before request effect where
  refused := by simp [planned, notRefused]
  unchanged either := unchanged (either.resolve_left notRefused)
  written := by
    rw [planned]
    rintro _ ⟨⟩
    exact written
  failed := by
    rw [planned]
    rintro _ ⟨⟩
    exact failed

theorem summarizeFrame_of_run (before : Disk) (isColoured : Bool) (request : SummarizeRequest) :
    SummarizeFrame before request (request.run before isColoured) ∧
      (before.Grounded → (request.run before isColoured).disk.Grounded) := by
  unfold SummarizeRequest.run
  cases planned : request.plan before with
  | error refusal =>
      refine ⟨⟨?_, fun _ => rfl, ?_, ?_⟩, id⟩
      · simp [refused, planned]
      · simp [planned]
      · simp [planned]
  | ok plan =>
      have isFormat := format_of_plan planned
      dsimp only
      cases analyzed : analyze before plan.inputs.base plan.inputs.files with
      | error fault =>
          exact ⟨.of_plan planned (by simp) (fun _ => rfl) (.refl _ _) (by simp), id⟩
      | ok summary =>
          have code : request.exitCode summary = .failed ↔ _ := exitCode_eq_failed_iff analyzed
          have notError := exitCode_ne_error request summary
          have ofCode : ∀ code, Ending.exit (request.exitCode summary) = .exit code →
              (code = .failed ↔ request.isStrict = true ∧ SkipsFile before plan) := by
            rintro _ ⟨⟩
            exact code
          dsimp only
          unfold SummarizeRequest.report
          cases isText : plan.format with
          | json =>
              exact ⟨.of_plan planned (by simpa using notError) (fun _ => rfl) (.refl _ _) ofCode,
                id⟩
          | text =>
              have notJson : request.format ≠ "json" := by
                intro isJson
                rw [isJson, isText] at isFormat
                cases isFormat
              obtain ⟨writes, grounded⟩ :=
                writesViews_of_writeViews before summary plan.config.output
              dsimp only
              cases (writeViews before summary plan.config.output).outcome with
              | error fault =>
                  exact ⟨.of_plan planned (by simp) (fun isJson => absurd isJson notJson) writes
                    (by simp), grounded⟩
              | ok paths =>
                  exact ⟨.of_plan planned (by simpa using notError)
                    (fun isJson => absurd isJson notJson) writes ofCode, grounded⟩

end FunctionAtlas.Run
