import FunctionAtlas.Proofs.Storage.Writing
import FunctionAtlas.Report.Files
import Mathlib

/-!
Contract: what can be read once the views are written.

Views are written one after the other, and a write to a file that an earlier view was written to
replaces that view. So each path gives the last text that was written to the file it leads to. A
path of its own file gives its own view, and the one path of a combined view always does. Settings
are refused where two views have one name, but names that differ may lead to one file: through
pieces that say nothing, or through links. Plain names that are no links lead to files of their own.

Owns: texts written in a row, and what the views on a disk are afterwards.

Does not own: what the views say.
-/

namespace FunctionAtlas.Report

open FunctionAtlas.Analysis
open FunctionAtlas.Settings
open FunctionAtlas.Storage

/-! ## Texts written in a row -/

/-- The disk after texts were written to paths, each to a file. -/
inductive Writes : Disk → List (String × String) → Disk → Prop where
  | nil {disk : Disk} : Writes disk [] disk
  | cons {before middle after : Disk} {path text : String} {location : Location}
      {views : List (String × String)}
      (wrote : Disk.Wrote before path text.toUTF8 middle location)
      (rest : Writes middle views after) : Writes before ((path, text) :: views) after

/-- If all texts are written, all paths are given. -/
theorem writes_of_writeAll {disk : Disk} {views : List (String × String)} {paths : List String}
    (written : (writeAll disk views).outcome = .ok paths) :
    Writes disk views (writeAll disk views).disk ∧ paths = views.map Prod.fst := by
  induction views generalizing disk paths with
  | nil =>
      cases written
      exact ⟨.nil, rfl⟩
  | cons view rest inductionHypothesis =>
      obtain ⟨path, text⟩ := view
      rw [writeAll] at written ⊢
      cases wrote : disk.writeText path text with
      | error fault =>
          rw [wrote] at written
          cases written
      | ok changed =>
          rw [wrote] at written
          dsimp only at written ⊢
          obtain ⟨location, wroteFile⟩ := Disk.exists_wrote_of_writeBytes wrote
          cases others : (writeAll changed rest).outcome with
          | error fault =>
              rw [others] at written
              cases written
          | ok otherPaths =>
              rw [others] at written
              cases written
              obtain ⟨writes, rfl⟩ := inductionHypothesis others
              exact ⟨.cons wroteFile writes, rfl⟩

section Writes

variable {before after : Disk} {views : List (String × String)}

theorem Writes.keeps (writes : Writes before views after) : before.Keeps after := by
  induction writes with
  | nil => exact .refl _
  | cons wrote rest inductionHypothesis => exact wrote.keeps.trans inductionHypothesis

/-- Every path leads to a file. -/
theorem Writes.leads (writes : Writes before views after) :
    ∀ view ∈ views, ∃ location content, after.canonical view.1 = .ok location ∧
      after.entryAt location = some (.file content) := by
  induction writes with
  | nil => simp
  | cons wrote rest inductionHypothesis =>
      refine List.forall_mem_cons.mpr ⟨?_, inductionHypothesis⟩
      obtain ⟨content, held⟩ := rest.keeps.files wrote.holds
      exact ⟨_, content, rest.keeps.canonical wrote.leads, held⟩

/-- A place that no path leads to is not changed. -/
theorem Writes.entryAt_of_ne (writes : Writes before views after) {location : Location}
    (isApart : ∀ view ∈ views, after.canonical view.1 ≠ .ok location) :
    after.entryAt location = before.entryAt location := by
  induction writes with
  | nil => rfl
  | cons wrote rest inductionHypothesis =>
      obtain ⟨notHere, notLater⟩ := List.forall_mem_cons.mp isApart
      rw [inductionHypothesis notLater, wrote.others]
      rintro rfl
      exact notHere (rest.keeps.canonical wrote.leads)

/-- A path gives its own text if no later one leads to the same file. -/
theorem Writes.readText_of_last (writes : Writes before views after)
    {earlier later : List (String × String)} {path text : String}
    (split : views = earlier ++ (path, text) :: later)
    (isLast : ∀ view ∈ later, after.canonical view.1 ≠ after.canonical path) :
    after.readText path = .ok text := by
  induction writes generalizing earlier with
  | nil => simp at split
  | cons wrote rest inductionHypothesis =>
      cases earlier with
      | cons first others =>
          obtain ⟨-, splitRest⟩ := List.cons.inj split
          exact inductionHypothesis splitRest isLast
      | nil =>
          cases split
          have leads := rest.keeps.canonical wrote.leads
          refine Disk.readText_of_canonical leads ?_
          rw [rest.entryAt_of_ne, wrote.holds]
          intro view member
          rw [← leads]
          exact isLast view member

theorem readText_congr {disk : Disk} {path other : String}
    (oneFile : disk.canonical path = disk.canonical other) :
    disk.readText path = disk.readText other := by
  rw [Disk.readText, Disk.readText, Disk.readBytes, Disk.readBytes, oneFile]

/-- Every path gives the text of a path to the same file. -/
theorem Writes.exists_readText (writes : Writes before views after) :
    ∀ view ∈ views, ∃ other ∈ views, after.canonical view.1 = after.canonical other.1 ∧
      after.readText view.1 = .ok other.2 := by
  induction writes with
  | nil => simp
  | @cons before middle after path text location views wrote rest inductionHypothesis =>
      refine List.forall_mem_cons.mpr ⟨?_, fun view member => ?_⟩
      · by_cases isLast : ∀ view ∈ views, after.canonical view.1 ≠ after.canonical path
        · exact ⟨_, List.mem_cons_self, rfl,
            (Writes.cons wrote rest).readText_of_last (List.nil_append _).symm isLast⟩
        · -- A later path to the same file has its answer by induction, and this one has the same.
          push Not at isLast
          obtain ⟨view, member, oneFile⟩ := isLast
          obtain ⟨other, isOther, sameFile, isRead⟩ := inductionHypothesis view member
          refine ⟨other, List.mem_cons_of_mem _ isOther, oneFile.symm.trans sameFile, ?_⟩
          rw [readText_congr oneFile.symm, isRead]
      · obtain ⟨other, isOther, found⟩ := inductionHypothesis view member
        exact ⟨other, List.mem_cons_of_mem _ isOther, found⟩

/-- All paths give their own texts exactly if paths to one file have one text. -/
theorem Writes.readText_iff (writes : Writes before views after) :
    (∀ view ∈ views, after.readText view.1 = .ok view.2) ↔
      ∀ view ∈ views, ∀ other ∈ views, after.canonical view.1 = after.canonical other.1 →
        view.2 = other.2 := by
  constructor
  · intro ownTexts view member other isOther oneFile
    have sameText := readText_congr oneFile
    rw [ownTexts view member, ownTexts other isOther] at sameText
    exact Except.ok.inj sameText
  · intro oneText view member
    obtain ⟨other, isOther, oneFile, isRead⟩ := writes.exists_readText view member
    rw [isRead, oneText view member other isOther oneFile]

/-- Paths to files of their own give their own texts. -/
theorem Writes.readText_of_nodup (writes : Writes before views after)
    (distinct : (views.map fun view => after.canonical view.1).Nodup) :
    ∀ view ∈ views, after.readText view.1 = .ok view.2 := by
  refine writes.readText_iff.mpr fun view member other isOther oneFile => ?_
  rw [List.inj_on_of_nodup_map distinct member isOther oneFile]

end Writes

/-! ## The views of a summary -/

theorem exists_writes_of_writeViews {disk after : Disk} {summary : Summary}
    {output : OutputConfig} {paths : List String}
    (written : writeViews disk summary output = ⟨after, .ok paths⟩) :
    ∃ start, Writes start (plannedViews summary output) after ∧
      paths = (plannedViews summary output).map Prod.fst := by
  have ofAll : ∀ {start : Disk}, writeAll start (plannedViews summary output) = ⟨after, .ok paths⟩ →
      Writes start (plannedViews summary output) after ∧
        paths = (plannedViews summary output).map Prod.fst := by
    intro start isWritten
    have writes := @writes_of_writeAll start (plannedViews summary output) paths
      (by rw [isWritten])
    rwa [isWritten] at writes
  unfold writeViews at written
  dsimp only at written
  split_ifs at written with isWorking
  · exact ⟨disk, ofAll written⟩
  · split at written
    next => cases written
    next => exact ⟨_, ofAll written⟩

/-- Settings in which two views have one name are refused. -/
theorem nodup_viewFiles {config : Config} (accepted : config.fault? = none) :
    config.viewFiles.Nodup := by
  by_contra isShared
  have isRefused : (!decide config.viewFiles.Nodup) = true := by simpa using isShared
  simp only [Config.fault?, isRefused, if_true] at accepted
  repeat' split at accepted
  all_goals cases accepted

/-- Plain names that are no links lead to files of their own. -/
theorem nodup_canonical_of_isName {disk : Disk} {folder : String} {names : List String}
    (distinct : names.Nodup) (plain : ∀ name ∈ names, IsName name)
    (leads : ∀ name ∈ names, ∃ location, disk.canonical (joinPath folder name) = .ok location)
    (noLinks : ∀ name ∈ names,
      disk.locate false (joinPath folder name) = disk.canonical (joinPath folder name)) :
    (names.map fun name => disk.canonical (joinPath folder name)).Nodup := by
  refine distinct.map_on fun name isName other isOther oneFile => ?_
  obtain ⟨location, isPlace⟩ := leads name isName
  have atName := Disk.getLast?_of_locate (plain name isName) ((noLinks name isName).trans isPlace)
  have atOther := Disk.getLast?_of_locate (plain other isOther)
    ((noLinks other isOther).trans (oneFile.symm.trans isPlace))
  rw [atName] at atOther
  exact Option.some.inj atOther

theorem plannedViews_of_split {summary : Summary} {output : OutputConfig}
    (isSplit : output.combinedFile = none) :
    plannedViews summary output =
      [(joinPath output.directory output.summaryFile, summaryView summary),
        (joinPath output.directory output.snippetsFile, snippetsView summary),
        (joinPath output.directory output.treesFile, treesView summary)] := by
  rw [plannedViews, isSplit]

theorem Writes.nodup_canonical_of_plain {start after : Disk} {summary : Summary} {config : Config}
    (writes : Writes start (plannedViews summary config.output) after)
    (accepted : config.fault? = none) (isSplit : config.output.combinedFile = none)
    (plain : ∀ name ∈ config.viewFiles, IsName name)
    (noLinks : ∀ view ∈ plannedViews summary config.output,
      after.locate false view.1 = after.canonical view.1) :
    ((plannedViews summary config.output).map fun view => after.canonical view.1).Nodup := by
  have leads : ∀ view ∈ plannedViews summary config.output,
      ∃ location, after.canonical view.1 = .ok location := by
    intro view member
    obtain ⟨location, -, isPlace, -⟩ := writes.leads view member
    exact ⟨location, isPlace⟩
  rw [plannedViews_of_split isSplit] at noLinks leads ⊢
  refine nodup_canonical_of_isName (nodup_viewFiles accepted) plain ?_ ?_
  · simpa [Config.viewFiles] using leads
  · simpa [Config.viewFiles] using noLinks

/-- With accepted settings, writing the views without a fault gives the paths of all of them, and
each leads to a file. A path gives its view if no view is written to the same file after it, so all
paths give their own views exactly if views that share a file are the same. A combined view shares
its file with none. Views under plain names do not either, unless a path is a link. -/
theorem written_views_read_back {disk after : Disk} {summary : Summary} {config : Config}
    {paths : List String} (accepted : config.fault? = none)
    (written : writeViews disk summary config.output = ⟨after, .ok paths⟩) :
    paths = (plannedViews summary config.output).map Prod.fst ∧
    (∀ path ∈ paths, ∃ location content, after.canonical path = .ok location ∧
      after.entryAt location = some (.file content)) ∧
    (∀ earlier path text later,
      plannedViews summary config.output = earlier ++ (path, text) :: later →
      (∀ view ∈ later, after.canonical view.1 ≠ after.canonical path) →
        after.readText path = .ok text) ∧
    ((∀ view ∈ plannedViews summary config.output, after.readText view.1 = .ok view.2) ↔
      ∀ view ∈ plannedViews summary config.output,
        ∀ other ∈ plannedViews summary config.output,
          after.canonical view.1 = after.canonical other.1 → view.2 = other.2) ∧
    (∀ name, config.output.combinedFile = some name →
      paths = [joinPath config.output.directory name] ∧
        after.readText (joinPath config.output.directory name) = .ok (combinedView summary)) ∧
    (config.output.combinedFile = none →
      (∀ name ∈ [config.output.summaryFile, config.output.snippetsFile, config.output.treesFile],
        IsName name) →
      (∀ path ∈ paths, after.locate false path = after.canonical path) →
        (paths.map after.canonical).Nodup ∧
        after.readText (joinPath config.output.directory config.output.summaryFile) =
          .ok (summaryView summary) ∧
        after.readText (joinPath config.output.directory config.output.snippetsFile) =
          .ok (snippetsView summary) ∧
        after.readText (joinPath config.output.directory config.output.treesFile) =
          .ok (treesView summary)) := by
  obtain ⟨start, writes, rfl⟩ := exists_writes_of_writeViews written
  refine ⟨rfl, ?_, fun _ _ _ _ => writes.readText_of_last, writes.readText_iff, ?_, ?_⟩
  · intro path isPath
    obtain ⟨view, member, rfl⟩ := List.mem_map.mp isPath
    exact writes.leads view member
  · intro name isCombined
    have isPlanned : plannedViews summary config.output =
        [(joinPath config.output.directory name, combinedView summary)] := by
      rw [plannedViews, isCombined]
    refine ⟨by rw [isPlanned]; rfl, ?_⟩
    exact writes.readText_of_last (isPlanned.trans (List.nil_append _).symm) (by simp)
  · intro isSplit plain noLinks
    have distinct := writes.nodup_canonical_of_plain accepted isSplit plain
      fun view member => noLinks _ (List.mem_map_of_mem member)
    have ownTexts := writes.readText_of_nodup distinct
    rw [plannedViews_of_split isSplit] at ownTexts
    simp only [List.forall_mem_cons] at ownTexts
    refine ⟨?_, ownTexts.1, ownTexts.2.1, ownTexts.2.2.1⟩
    rw [List.map_map]
    exact distinct

/-- A summary of one file that was skipped. -/
def oneSkipped : Summary := ⟨[], [⟨"a.py", .parsing, "a.py:1:1: syntax error"⟩], 1⟩

/-- Settings with short names in the working folder. -/
def shortNames (snippetsFile : String) : Config where
  output := { directory := "", summaryFile := "s", snippetsFile, treesFile := "t" }

theorem plannedViews_shortNames (summary : Summary) {name : String}
    (notTop : name.startsWith "/" = false) :
    plannedViews summary (shortNames name).output =
      [("s", summaryView summary)] ++
        (name, snippetsView summary) :: [("t", treesView summary)] := by
  have notTops : "s".startsWith "/" = false ∧ "t".startsWith "/" = false :=
    ⟨IsName.startsWith_slash (by decide), IsName.startsWith_slash (by decide)⟩
  rw [plannedViews_of_split rfl]
  simp only [shortNames, joinPath_empty notTop, joinPath_empty notTops.1, joinPath_empty notTops.2,
    List.singleton_append]

/-- A disk with two files. -/
def twoFiles (first second : ByteArray) : Disk where
  entries := [(["s"], .file first), (["t"], .file second)]
  working := []

/-- A disk with three files. -/
def threeFiles (first second third : ByteArray) : Disk where
  entries := [(["s"], .file first), (["n"], .file second), (["t"], .file third)]
  working := []

theorem canonical_twoFiles (first second : ByteArray) :
    (twoFiles first second).canonical "s" = .ok ["s"] ∧
      (twoFiles first second).canonical "./s" = .ok ["s"] ∧
      (twoFiles first second).canonical "t" = .ok ["t"] := by
  refine ⟨?_, ?_, ?_⟩ <;> cbv

theorem locate_threeFiles (follow : Bool) (first second third : ByteArray) :
    (threeFiles first second third).locate follow "s" = .ok ["s"] ∧
      (threeFiles first second third).locate follow "n" = .ok ["n"] ∧
      (threeFiles first second third).locate follow "t" = .ok ["t"] := by
  refine ⟨?_, ?_, ?_⟩ <;> cbv

/-- The names of the snippets decide whether the second text replaces the first. -/
theorem writeAll_shortNames (first second third : String) :
    writeAll ⟨[], []⟩ ([("s", first)] ++ ("./s", second) :: [("t", third)]) =
        ⟨twoFiles second.toUTF8 third.toUTF8, .ok ["s", "./s", "t"]⟩ ∧
      writeAll ⟨[], []⟩ ([("s", first)] ++ ("n", second) :: [("t", third)]) =
        ⟨threeFiles first.toUTF8 second.toUTF8 third.toUTF8, .ok ["s", "n", "t"]⟩ := by
  constructor <;> cbv

theorem written_views_of_shortNames :
    ((shortNames "./s").fault? = none ∧
      ∃ after, writeViews ⟨[], []⟩ oneSkipped (shortNames "./s").output =
          ⟨after, .ok ["s", "./s", "t"]⟩ ∧
        after.readText "s" = .ok (snippetsView oneSkipped) ∧
        snippetsView oneSkipped ≠ summaryView oneSkipped) ∧
    (shortNames "n").fault? = none ∧
      ∃ after, writeViews ⟨[], []⟩ oneSkipped (shortNames "n").output =
          ⟨after, .ok ["s", "n", "t"]⟩ ∧
        after.readText "s" = .ok (summaryView oneSkipped) := by
  have isAll : ∀ name, writeViews ⟨[], []⟩ oneSkipped (shortNames name).output =
      writeAll ⟨[], []⟩ (plannedViews oneSkipped (shortNames name).output) := fun _ => rfl
  have atFiles := writeAll_shortNames (summaryView oneSkipped) (snippetsView oneSkipped)
    (treesView oneSkipped)
  constructor
  · have accepted : (shortNames "./s").fault? = none := by decide
    have planned := plannedViews_shortNames oneSkipped (show "./s".startsWith "/" = false by cbv)
    have written := isAll "./s"
    rw [planned, atFiles.1] at written
    obtain ⟨-, -, lastText, -⟩ := written_views_read_back accepted written
    obtain ⟨ofName, ofDotted, ofTrees⟩ := canonical_twoFiles (snippetsView oneSkipped).toUTF8
      (treesView oneSkipped).toUTF8
    refine ⟨accepted, _, written, ?_, by decide⟩
    rw [readText_congr (ofName.trans ofDotted.symm)]
    refine lastText _ _ _ _ planned fun view member => ?_
    rw [List.mem_singleton.mp member, ofTrees, ofDotted]
    decide
  · have accepted : (shortNames "n").fault? = none := by decide
    have planned := plannedViews_shortNames oneSkipped
      (IsName.startsWith_slash (show IsName "n" by decide))
    have written := isAll "n"
    rw [planned, atFiles.2] at written
    obtain ⟨-, -, -, -, -, plain⟩ := written_views_read_back accepted written
    have noLinks : ∀ path ∈ ["s", "n", "t"],
        (threeFiles (summaryView oneSkipped).toUTF8 (snippetsView oneSkipped).toUTF8
          (treesView oneSkipped).toUTF8).locate false path =
        (threeFiles (summaryView oneSkipped).toUTF8 (snippetsView oneSkipped).toUTF8
          (treesView oneSkipped).toUTF8).canonical path := by
      simp only [List.forall_mem_cons, Disk.canonical, locate_threeFiles]
      simp
    obtain ⟨-, isRead, -⟩ := plain rfl (by decide) noLinks
    have joined : joinPath "" "s" = "s" := joinPath_empty (IsName.startsWith_slash (by decide))
    refine ⟨accepted, _, written, ?_⟩
    rwa [shortNames, joined] at isRead

end FunctionAtlas.Report
