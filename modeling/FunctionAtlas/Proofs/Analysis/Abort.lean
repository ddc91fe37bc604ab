import FunctionAtlas.Proofs.Analysis.ArrivalOrder
import FunctionAtlas.Proofs.Analysis.Extraction
import FunctionAtlas.Proofs.Docstring.Reading

/-!
Contract: which files abort a run.

A file that cannot be read, is no valid module or holds a definition without a record has a
failure for its outcome. The only way to have no outcome is a docstring with a literal that would
be cut inside a character, in the first definition without a record. One such file leaves the run
without a summary; otherwise every file has exactly one outcome in it.

Owns: the failure of definitions, files and runs by a literal.

Does not own: which literals the parser lets through.
-/

namespace FunctionAtlas.Analysis

open FunctionAtlas.Docstring
open FunctionAtlas.FirstFailure
open FunctionAtlas.Storage
open FunctionAtlas.Syntax
open FunctionAtlas.Syntax.Node

/-! ## Definitions -/

/-- A definition with a name and parameters whose docstring cannot be read. -/
structure CutsDocstring (file : String) (source : Array Char) (node : Node) : Prop where
  signed : ∃ signature, signatureOf file source node = .ok signature
  cut : ∃ body, node.childByField "body" = some body ∧ CutsOne source (docstringLiterals body)

theorem exists_docstringOf_eq_error_iff (source : Array Char) (node : Node) :
    (∃ fault, docstringOf source node = .error fault) ↔
      ∃ body, node.childByField "body" = some body ∧
        CutsOne source (docstringLiterals body) := by
  unfold docstringOf
  cases node.childByField "body" with
  | none => simp
  | some body => simpa using exists_ofBody_eq_error_iff source body

/-- A record fails by a literal only after its name and its parameters are found. -/
theorem exists_recordOf_eq_literal_iff (file : String) (source : Array Char)
    (scopes : List String) (parent : Option Node) (node : Node) :
    (∃ fault, recordOf file source scopes parent node = .error (.literal fault)) ↔
      CutsDocstring file source node := by
  have docstrings := exists_docstringOf_eq_error_iff source node
  have bothParts : CutsDocstring file source node ↔
      (∃ signature, signatureOf file source node = .ok signature) ∧
        ∃ fault, docstringOf source node = .error fault :=
    ⟨fun cuts => ⟨cuts.signed, docstrings.mpr cuts.cut⟩,
      fun ⟨signed, failed⟩ => ⟨signed, docstrings.mp failed⟩⟩
  rw [bothParts]
  unfold recordOf
  cases signatureOf file source node with
  | error problem => simp
  | ok signature => cases docstringOf source node <;> simp

/-- The functions of a module fail by a literal at the first definition without a record. -/
theorem exists_functions_eq_literal_iff (parsed : ParsedModule) :
    (∃ fault, parsed.functions = .error (.literal fault)) ↔
      ∃ before site after, reachedSites parsed.root = before ++ site :: after ∧
        (∀ earlier ∈ before, ∃ made, siteRecord parsed.file parsed.source earlier = .ok made) ∧
        CutsDocstring parsed.file parsed.source site.node := by
  rw [functions_eq_mapM_reached]
  simp only [mapM_eq_error_iff]
  constructor
  · rintro ⟨fault, before, site, after, split, earlier, fails⟩
    exact ⟨before, site, after, split, earlier,
      (exists_recordOf_eq_literal_iff _ _ _ _ _).mp ⟨fault, fails⟩⟩
  · rintro ⟨before, site, after, split, earlier, cuts⟩
    obtain ⟨fault, fails⟩ := (exists_recordOf_eq_literal_iff parsed.file parsed.source
      (enclosingNames parsed.source site) site.parent site.node).mpr cuts
    exact ⟨fault, before, site, after, split, earlier, fails⟩

/-! ## Files -/

/-- The file at a path is a valid module, and the first of its definitions without a record has a
docstring that cannot be read. -/
def Aborts (disk : Disk) (base path : String) : Prop :=
  ∃ text parsed, disk.readText path = .ok text ∧
    parseModule (fileId base path) text = .ok parsed ∧
    ∃ before site after, reachedSites parsed.root = before ++ site :: after ∧
      (∀ earlier ∈ before, ∃ made, siteRecord parsed.file parsed.source earlier = .ok made) ∧
      CutsDocstring parsed.file parsed.source site.node

/-- Every other file is reported or has a failure. -/
theorem exists_outcomeOf_eq_error_iff (disk : Disk) (base path : String) :
    (∃ fault, outcomeOf disk base path = .error fault) ↔ Aborts disk base path := by
  simp only [Aborts, ← exists_functions_eq_literal_iff]
  unfold outcomeOf extract
  cases disk.readText path with
  | error fault => simp
  | ok text =>
      cases checked : parseModule (fileId base path) text with
      | error problem => simp [checked]
      | ok parsed =>
          cases extracted : parsed.functions with
          | ok functions => simp [checked, extracted]
          | error failure => cases failure <;> simp [checked, extracted]

/-! ## Runs -/

theorem outcomesOf_eq_mapM (disk : Disk) (base : String) (paths : List String) :
    outcomesOf disk base paths = paths.mapM (outcomeOf disk base) := by
  induction paths with
  | nil => rfl
  | cons path rest inductionHypothesis =>
      rw [outcomesOf, mapM_cons_eq_match, inductionHypothesis]
      cases outcomeOf disk base path <;> rfl

/-- The outcomes of a run arrive in order. -/
theorem analyze_eq_map_ofOutcomes (disk : Disk) (base : String) (paths : List String) :
    analyze disk base paths = (paths.mapM (outcomeOf disk base)).map Summary.ofOutcomes := by
  unfold analyze
  rw [outcomesOf_eq_mapM]
  congr 1
  funext outcomes
  exact Collector.summary_acceptAll (List.Perm.refl _)

/-- A run has no summary exactly if one of its files aborts it. -/
theorem exists_analyze_eq_error_iff (disk : Disk) (base : String) (paths : List String) :
    (∃ fault, analyze disk base paths = .error fault) ↔
      ∃ path ∈ paths, Aborts disk base path := by
  simp only [analyze_eq_map_ofOutcomes, map_eq_error_iff, exists_mapM_eq_error_iff,
    exists_outcomeOf_eq_error_iff]

/-- A summary holds one outcome of each file, in order. -/
theorem analyze_eq_ok_iff (disk : Disk) (base : String) (paths : List String)
    (summary : Summary) :
    analyze disk base paths = .ok summary ↔
      ∃ outcomes,
        List.Forall₂ (fun path outcome => outcomeOf disk base path = .ok outcome)
          paths outcomes ∧
        summary = .ofOutcomes outcomes := by
  rw [analyze_eq_map_ofOutcomes]
  simp only [← mapM_eq_ok_iff]
  cases paths.mapM (outcomeOf disk base) with
  | error fault => simp [Except.map]
  | ok outcomes => simp [Except.map, eq_comm]

/-- A run is aborted exactly if one of its files is a valid module in which the docstring of the
first definition without a record has a literal that would be cut inside a character. Of the
literals that can be written, this happens to those in back quotes only, namely if there is no
letter of a format, bytes or template string before the first quote in the body, this quote stands
there three times, and the place two bytes before the closing back quote is inside a character.
Every other run has a summary, with exactly one outcome for each file. -/
theorem analyze_aborts_iff
    (disk : Disk)
    (base : String)
    (paths : List String) :
    ((∃ fault, analyze disk base paths = .error fault) ↔
      ∃ path ∈ paths, Aborts disk base path) ∧
    (∀ spelling : Spelling,
      (∃ fault, decode (String.ofList spelling.text) = .error fault) ↔
        spelling.quote = '`' ∧
        (∀ letter ∈ spelling.letters, isSpecialLetter letter = false) ∧
        ∃ before mark rest, spelling.body = before ++ mark :: mark :: mark :: rest ∧
          (∀ character ∈ before,
            isQuote character = false ∧ isSpecialLetter character = false) ∧
          isQuote mark = true ∧ BeginsInside 2 rest) ∧
    (∀ summary, analyze disk base paths = .ok summary ↔
      ∃ outcomes,
        List.Forall₂ (fun path outcome => outcomeOf disk base path = .ok outcome)
          paths outcomes ∧
        summary = .ofOutcomes outcomes ∧
        summary.scanned = paths.length ∧
        summary.files.length + summary.failures.length = paths.length) := by
  refine ⟨exists_analyze_eq_error_iff disk base paths, ?_, ?_⟩
  · intro spelling
    rw [exists_decode_eq_error_iff, String.toList_ofList]
    rcases spelling.quote_allowed with quotes | backquoted
    · simp [spelling.not_cutsCharacter_of_isQuote quotes, ne_backquote_of_isQuote quotes]
    · rw [spelling.cutsCharacter_iff_of_backquoted backquoted]
      simp [backquoted]
  · intro summary
    rw [analyze_eq_ok_iff]
    constructor
    · rintro ⟨outcomes, each, rfl⟩
      refine ⟨outcomes, each, rfl, ?_, ?_⟩
      · rw [Summary.ofOutcomes_eq, each.length_eq]
      · rw [Summary.ofOutcomes_eq, each.length_eq]
        exact Summary.length_reports_add_length_failures outcomes
    · rintro ⟨outcomes, each, summed, -⟩
      exact ⟨outcomes, each, summed⟩

end FunctionAtlas.Analysis
