import FunctionAtlas.Proofs.Analysis.Abort
import FunctionAtlas.Proofs.Discovery.Found
import FunctionAtlas.Proofs.Discovery.PathsBelow

/-!
Contract: what the identifiers of files identify.

A report carries the identifier of its file, and a report is looked up as the first one with an
identifier. Two files of a project have the same identifier exactly if their paths below the root
differ in nothing but backslashes for slashes. A file that shares its identifier with no other is
looked up by it: its own report is found, or none if it has none.

Owns: the reports of a run by path, and lookup by identifier.

Does not own: names that are no text.
-/

namespace FunctionAtlas.Analysis

open FunctionAtlas.Discovery
open FunctionAtlas.Settings
open FunctionAtlas.Storage

/-! ## Lookup -/

section Lookup

variable {disk : Disk} {base : String}

/-- The report of the file at a path, if there is one. -/
def reportAt (disk : Disk) (base path : String) : Option FileReport :=
  (outcomeOf disk base path).toOption.bind Outcome.report?

theorem reportAt_of_outcomeOf {path : String} {outcome : Outcome}
    (isOutcome : outcomeOf disk base path = .ok outcome) :
    reportAt disk base path = outcome.report? := by
  rw [reportAt, isOutcome]
  rfl

/-- A report carries the identifier of its file. -/
theorem file_of_reportAt {path : String} {report : FileReport}
    (reported : reportAt disk base path = some report) : report.file = fileId base path := by
  unfold reportAt outcomeOf at reported
  cases isRead : disk.readText path with
  | error fault => simp [isRead, Except.toOption, Outcome.report?] at reported
  | ok text =>
      cases extracted : extract (fileId base path) text with
      | ok functions =>
          simp only [isRead, extracted, Except.toOption, Option.bind_some, Outcome.report?,
            Option.some.injEq] at reported
          rw [← reported]
      | error failure =>
          cases failure <;>
            simp [isRead, extracted, Except.toOption, Outcome.report?] at reported

variable {paths : List String} {summary : Summary}
  (analyzed : analyze disk base paths = .ok summary)

include analyzed

theorem files_of_analyze : summary.files = paths.filterMap (reportAt disk base) := by
  obtain ⟨outcomes, each, rfl⟩ := (analyze_eq_ok_iff disk base paths summary).mp analyzed
  rw [Summary.ofOutcomes_eq]
  dsimp only
  clear analyzed
  induction each with
  | nil => rfl
  | @cons path outcome paths outcomes isOutcome _ inductionHypothesis =>
      rw [List.filterMap_cons, List.filterMap_cons, inductionHypothesis,
        reportAt_of_outcomeOf isOutcome]

/-- By an identifier the first report of the files that have it is found. -/
theorem reportOf?_eq_findSome? (file : String) :
    summary.reportOf? file =
      (paths.filter fun path => fileId base path = file).findSome? (reportAt disk base) := by
  rw [Summary.reportOf?, files_of_analyze analyzed]
  clear analyzed
  induction paths with
  | nil => rfl
  | cons path rest inductionHypothesis =>
      rw [List.filterMap_cons, List.filter_cons]
      cases reported : reportAt disk base path with
      | none =>
          dsimp only
          rw [inductionHypothesis]
          split_ifs
          · rw [List.findSome?_cons, reported]
          · rfl
      | some report =>
          dsimp only
          rw [List.find?_cons, file_of_reportAt reported]
          by_cases isFile : fileId base path = file
          · simp [isFile, reported]
          · simp [isFile, inductionHypothesis]

/-- A file that shares its identifier with no other is looked up by it. -/
theorem reportOf?_fileId {path : String} (member : path ∈ paths)
    (isAlone : ∀ other ∈ paths, fileId base other = fileId base path → other = path)
    {outcome : Outcome} (isOutcome : outcomeOf disk base path = .ok outcome) :
    summary.reportOf? (fileId base path) = outcome.report? := by
  have sameReport : ∀ other ∈ paths.filter fun other => fileId base other = fileId base path,
      reportAt disk base other = outcome.report? := by
    intro other isOther
    obtain ⟨isPath, sameId⟩ := List.mem_filter.mp isOther
    rw [isAlone other isPath (by simpa using sameId), reportAt_of_outcomeOf isOutcome]
  have isThere : path ∈ paths.filter fun other => fileId base other = fileId base path :=
    List.mem_filter.mpr ⟨member, by simp⟩
  rw [reportOf?_eq_findSome? analyzed]
  obtain ⟨first, rest, filtered⟩ := List.exists_cons_of_ne_nil (List.ne_nil_of_mem isThere)
  cases isReport : outcome.report? with
  | none =>
      refine List.findSome?_eq_none_iff.mpr fun other isOther => ?_
      rw [sameReport other isOther, isReport]
  | some report =>
      have isFirst := sameReport first (by rw [filtered]; exact List.mem_cons_self)
      rw [filtered, List.findSome?_cons, isFirst, isReport]

end Lookup

/-! ## Identifiers of a project -/

theorem ne_nil_of_reaches_file {disk : Disk} {root : String} {top : Location} {names : Names}
    (reached : Reaches disk root top names .file) : names ≠ [] := by
  cases reached with
  | inner outer seen => simp

section Project

variable {disk : Disk} {rules : Rules} {root : String} {found : List Names}

/-- A visit finds the root itself, or files by names below it, each once. -/
theorem areNames_of_namesUnder (wellFormed : disk.WellFormed)
    (visited : namesUnder disk rules root = .ok found) :
    root ≠ "" ∧ found.Nodup ∧ (found ⊆ [[]] ∨ ∀ names ∈ found, AreNames names) := by
  unfold namesUnder at visited
  cases leads : disk.canonical root with
  | error fault =>
      rw [leads] at visited
      cases visited
  | ok top =>
      rw [leads] at visited
      dsimp only at visited
      have nonempty := ne_empty_of_canonical leads
      split_ifs at visited with isFolder isSelected
      · refine ⟨nonempty, nodup_filesIn wellFormed visited, .inr fun names isFound => ?_⟩
        obtain ⟨reached, -, -⟩ := (mem_visit_iff isFolder visited).mp isFound
        exact ⟨ne_nil_of_reaches_file reached, reached.isName wellFormed⟩
      · cases visited
        exact ⟨nonempty, by simp, .inl (by simp)⟩
      · cases visited
        exact ⟨nonempty, by simp, .inl (by simp)⟩

variable {config : Config} {exclusions : List (List Glob.Token)} {base : String}

/-- Files whose names have no backslash have identifiers of their own. -/
theorem nodup_fileIds (wellFormed : disk.WellFormed)
    (visited : namesUnder disk rules root = .ok found)
    (isBase : (Path.ofText base).components <+: (Path.ofText root).components)
    (noBackslash : ∀ names ∈ found, ∀ name ∈ names, '\\' ∉ name.toList) :
    ((found.map (pathBelow root)).map (fileId base)).Nodup := by
  obtain ⟨nonempty, isNodup, isRoot | areNames⟩ := areNames_of_namesUnder wellFormed visited
  · have atMostOne : found.length ≤ 1 := isNodup.length_le_of_subset isRoot
    match found with
    | [] => simp
    | [names] => simp
  · rw [List.map_map]
    refine isNodup.map_on fun first isFirst second isSecond sameId => ?_
    rw [Function.comp_apply, Function.comp_apply, fileId_pathBelow_eq_iff nonempty isBase
      (areNames first isFirst) (areNames second isSecond)] at sameId
    have unchanged : ∀ names ∈ found, forwardSlashes (String.intercalate "/" names) =
        String.intercalate "/" names := fun names isFound =>
      forwardSlashes_of_not_mem (not_mem_namesText (by decide) (noBackslash names isFound))
    rw [unchanged first isFirst, unchanged second isSecond] at sameId
    exact namesText_inj (areNames first isFirst) (areNames second isSecond)
      (congrArg String.toList sameId)

end Project

/-- The files of a project are looked up by their identifiers. Two files below the root have the
same one exactly if their names are the same up to backslashes for slashes, so files without
backslashes in their names are told apart. By an identifier, the first report of the files that
have it is found; if no two files share one, this is the report of the file itself, and none for a
file without a report. -/
theorem fileIds_identify {disk : Disk} {config : Config} {exclusions : List (List Glob.Token)}
    {base root : String} {found : List Names} (wellFormed : disk.WellFormed)
    (compiles : config.exclusions = .ok exclusions)
    (visited : namesUnder disk ⟨config, exclusions⟩ root = .ok found)
    (isBase : (Path.ofText base).components <+: (Path.ofText root).components) :
    filesUnder disk config root = .ok (found.map (pathBelow root)) ∧
    (∀ first ∈ found, ∀ second ∈ found,
      fileId base (pathBelow root first) = fileId base (pathBelow root second) ↔
        forwardSlashes (String.intercalate "/" first) =
          forwardSlashes (String.intercalate "/" second)) ∧
    ((∀ names ∈ found, ∀ name ∈ names, '\\' ∉ name.toList) →
      ((found.map (pathBelow root)).map (fileId base)).Nodup) ∧
    ∀ summary, analyze disk base (found.map (pathBelow root)) = .ok summary →
      ∀ path ∈ found.map (pathBelow root),
        summary.reportOf? (fileId base path) =
          ((found.map (pathBelow root)).filter fun other =>
            fileId base other = fileId base path).findSome? (reportAt disk base) ∧
        (((found.map (pathBelow root)).map (fileId base)).Nodup →
          ∀ outcome, outcomeOf disk base path = .ok outcome →
            summary.reportOf? (fileId base path) = outcome.report?) := by
  obtain ⟨nonempty, isNodup, isKind⟩ := areNames_of_namesUnder wellFormed visited
  refine ⟨?_, ?_, nodup_fileIds wellFormed visited isBase, ?_⟩
  · rw [filesUnder, compiles]
    dsimp only
    rw [visited]
    rfl
  · intro first isFirst second isSecond
    rcases isKind with isRoot | areNames
    · rw [List.mem_singleton.mp (isRoot isFirst), List.mem_singleton.mp (isRoot isSecond)]
      exact ⟨fun _ => rfl, fun _ => rfl⟩
    · exact fileId_pathBelow_eq_iff nonempty isBase (areNames first isFirst)
        (areNames second isSecond)
  · intro summary analyzed path member
    refine ⟨reportOf?_eq_findSome? analyzed (fileId base path), ?_⟩
    intro distinct outcome isOutcome
    refine reportOf?_fileId analyzed member (fun other isOther sameId => ?_) isOutcome
    exact List.inj_on_of_nodup_map distinct isOther member sameId

/-- A file in a folder, and beside the folder a file with a backslash in its name. -/
def slashedProject : Disk where
  entries :=
    [(["p"], .folder), (["p", "a"], .folder), (["p", "a", "b.py"], .file ByteArray.empty),
      (["p", "a\\b.py"], .file ByteArray.empty)]
  working := []

theorem fileIds_of_slashedProject :
    filesUnder slashedProject {} "p" = .ok ["p/a/b.py", "p/a\\b.py"] ∧
      fileId "p" "p/a/b.py" = fileId "p" "p/a\\b.py" := by
  have wellFormed : slashedProject.WellFormed := ⟨by decide, by decide⟩
  have visited : namesUnder slashedProject ⟨{}, []⟩ "p" = .ok [["a", "b.py"], ["a\\b.py"]] := by
    cbv
  have isBase : (Path.ofText "p").components <+: (Path.ofText "p").components :=
    List.prefix_refl _
  obtain ⟨found, sameId, -, -⟩ := fileIds_identify wellFormed rfl visited isBase
  have isFirst : pathBelow "p" ["a", "b.py"] = "p/a/b.py" := by cbv
  have isSecond : pathBelow "p" ["a\\b.py"] = "p/a\\b.py" := by cbv
  rw [List.map_cons, List.map_singleton, isFirst, isSecond] at found
  refine ⟨found, ?_⟩
  rw [← isFirst, ← isSecond]
  exact (sameId _ (by simp) _ (by simp)).mpr (by decide)

end FunctionAtlas.Analysis
