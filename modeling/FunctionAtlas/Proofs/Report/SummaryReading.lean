import FunctionAtlas.Proofs.Text.Delimited
import FunctionAtlas.Report.Views
import FunctionAtlas.Text.Identifier
import Mathlib

/-!
Contract: the summary view can be read back.

The view is a list of lines. How a line begins tells what it is: a line that goes on with a
docstring, the header of a file, the entry of a function, or the line above the skipped files. A
docstring has its own line feeds, but none of its lines can begin like one of the others. So a
reader that goes through the lines from the last to the first finds every file with its functions,
and every skipped file.

Owns: the lines of the summary view, what it shows, and the reader.

Does not own: the other views, which are not read back.
-/

namespace FunctionAtlas.Report

open FunctionAtlas.Analysis
open FunctionAtlas.Text

/-- The characters of a line, without the line feed at its end. -/
abbrev Line := List Char

/-! ## What is shown -/

/-- What the summary shows of a function. -/
structure ShownFunction where
  name : String
  parameters : List String
  /-- The docstring, or the words that stand for one. -/
  docstring : String
deriving DecidableEq, Repr

structure ShownFile where
  file : String
  functions : List ShownFunction
deriving DecidableEq, Repr

/-- What the summary shows: the files, and the lines of those that were skipped. -/
structure ShownSummary where
  files : List ShownFile
  skipped : List Line
deriving DecidableEq, Repr

def shownDocstring (record : FunctionRecord) : String := record.docstringText.getD noDocstring

def shownFunction (record : FunctionRecord) : ShownFunction :=
  { name := record.name, parameters := record.parameters, docstring := shownDocstring record }

def shownFile (report : FileReport) : ShownFile :=
  { file := report.file, functions := report.functions.map shownFunction }

/-- The line of a skipped file. -/
def skippedEntry (failure : FileFailure) : Line :=
  (" - " ++ failure.file ++ ": " ++ failure.kind.title ++ ": " ++ failure.message).toList

def shownSummary (summary : Summary) : ShownSummary :=
  { files := summary.files.map shownFile, skipped := summary.failures.map skippedEntry }

/-! ## Reading -/

/-- The lines of a text in which every line is ended by a line feed. -/
def linesOf (text : String) : List Line := (text.toList.splitOn '\n').dropLast

/-- The line above the skipped files. -/
def skippedMark : Line := "Skipped files:".toList

/-- The lines before the skipped files. -/
def linesBeforeSkipped (text : String) : List Line :=
  (linesOf text).takeWhile (· ≠ skippedMark)

/-- The lines before the skipped files that begin like the entry of a function. -/
def functionLines (text : String) : List Line :=
  (linesBeforeSkipped text).filter fun line => " - Function ".toList.isPrefixOf line

/-- The parameters of a list with commas and blanks between them. -/
def readParameters (listed : Line) : List String :=
  if listed = [] then [] else ((listed.filter (· ≠ ' ')).splitOn ',').map String.ofList

/-- A function, given its entry from the name on and the lines that go on with its docstring. -/
def readFunction (entry : Line) (continued : List Line) : ShownFunction :=
  let afterName := entry.dropWhile (· ≠ '\'')
  let afterColon := (afterName.dropWhile (· ≠ ':')).drop 2
  let firstLine := (afterColon.dropWhile (· ≠ '.')).drop 2
  { name := String.ofList (entry.takeWhile (· ≠ '\''))
    parameters := readParameters (afterColon.takeWhile (· ≠ '.'))
    docstring := String.ofList (['\n'].intercalate (firstLine :: continued)) }

/-- What has been read below a line: the lines that go on with a docstring, the functions without a
file, and the files. -/
structure LinesRead where
  continued : List Line
  functions : List ShownFunction
  files : List ShownFile

/-- Reads a line above those that have been read. -/
def readLine (line : Line) (below : LinesRead) : LinesRead :=
  match line.dropPrefix? "   ".toList with
  | some text => { below with continued := text :: below.continued }
  | none =>
      match line.dropPrefix? " - Function '".toList with
      | some entry =>
          { below with
            continued := []
            functions := readFunction entry below.continued :: below.functions }
      | none =>
          match line.dropPrefix? "File: ".toList with
          | some file =>
              { continued := []
                functions := []
                files := ⟨String.ofList file, below.functions⟩ :: below.files }
          | none => below

def readLines (lines : List Line) : LinesRead := lines.foldr readLine ⟨[], [], []⟩

/-- Reads what a summary view shows. -/
def readSummary (text : String) : ShownSummary :=
  { files := (readLines (linesBeforeSkipped text)).files
    skipped := ((linesOf text).dropWhile (· ≠ skippedMark)).drop 1 }

/-! ## Identifiers -/

/-- A name begins with a letter or an underscore, and letters, digits and underscores follow. -/
def isIdentifier (text : String) : Bool :=
  match text.toList with
  | [] => false
  | first :: rest =>
      (first = '_' || Identifier.isStart first) && rest.all Identifier.isContinue

abbrev IsIdentifier (text : String) : Prop := isIdentifier text = true

/-- A summary of named functions, with file names and messages of one line each. -/
structure IsPlain (summary : Summary) : Prop where
  name : ∀ report ∈ summary.files, ∀ record ∈ report.functions, IsIdentifier record.name
  parameter : ∀ report ∈ summary.files, ∀ record ∈ report.functions,
    ∀ parameter ∈ record.parameters, IsIdentifier parameter
  file : ∀ report ∈ summary.files, '\n' ∉ report.file.toList
  failure : ∀ failure ∈ summary.failures,
    '\n' ∉ failure.file.toList ∧ '\n' ∉ failure.message.toList

theorem isContinue_of_isStart {character : Char} (begins : Identifier.isStart character = true) :
    Identifier.isContinue character = true := by
  unfold Identifier.isStart at begins
  unfold Identifier.isContinue
  split_ifs at begins ⊢
  · simp [Char.isAlphanum, begins]
  · simp [begins]

theorem IsIdentifier.isContinue {text : String} (named : IsIdentifier text) {character : Char}
    (member : character ∈ text.toList) : Identifier.isContinue character = true := by
  unfold IsIdentifier isIdentifier at named
  cases characters : text.toList with
  | nil =>
      rw [characters] at member
      cases member
  | cons first rest =>
      rw [characters] at named member
      simp only [Bool.and_eq_true, Bool.or_eq_true, decide_eq_true_eq, List.all_eq_true] at named
      rcases List.mem_cons.mp member with rfl | isLater
      · rcases named.1 with rfl | isStart
        · decide
        · exact isContinue_of_isStart isStart
      · exact named.2 character isLater

/-- Marks that stand between the parts of an entry do not occur in identifiers. -/
theorem IsIdentifier.ne_mark {text : String} (named : IsIdentifier text) (mark : Char)
    (isMark : Identifier.isContinue mark = false) :
    ∀ character ∈ text.toList, character ≠ mark := by
  rintro character member rfl
  rw [named.isContinue member] at isMark
  cases isMark

theorem IsIdentifier.toList_ne_nil {text : String} (named : IsIdentifier text) :
    text.toList ≠ [] := by
  intro isEmpty
  rw [IsIdentifier, isIdentifier, isEmpty] at named
  cases named

/-! ## Lines of the view -/

/-- The text of lines, each ended by a line feed. -/
def unlines (lines : List Line) : List Char := lines.flatMap (· ++ ['\n'])

theorem unlines_append (first second : List Line) :
    unlines (first ++ second) = unlines first ++ unlines second :=
  List.flatMap_append

theorem splitOn_unlines {lines : List Line} (undivided : ∀ line ∈ lines, '\n' ∉ line) :
    (unlines lines).splitOn '\n' = lines ++ [[]] := by
  induction lines with
  | nil => simp [unlines]
  | cons line rest inductionHypothesis =>
      obtain ⟨isLine, areLines⟩ := List.forall_mem_cons.mp undivided
      have ended : unlines (line :: rest) = line ++ '\n' :: unlines rest := by simp [unlines]
      rw [ended, List.splitOn_append_cons_self_of_not_mem isLine, inductionHypothesis areLines]
      rfl

/-- An entry up to the docstring. -/
def entryHead (record : FunctionRecord) : String :=
  " - Function '" ++ record.name ++ "' takes " ++ toString record.arity ++ " arguments: " ++
    String.intercalate ", " record.parameters ++ ". "

def docstringLines (record : FunctionRecord) : List Line :=
  (shownDocstring record).toList.splitOn '\n'

/-- The first line of an entry. -/
def entryLine (record : FunctionRecord) : Line :=
  (entryHead record).toList ++ (docstringLines record).headD []

/-- The lines of an entry that follow the first one. -/
def continuationLines (record : FunctionRecord) : List Line :=
  (docstringLines record).tail.map ("   ".toList ++ ·)

def fileLine (report : FileReport) : Line := ("File: " ++ report.file).toList

theorem fileLine_eq (report : FileReport) :
    fileLine report = "File: ".toList ++ report.file.toList :=
  String.toList_append

/-- The lines of the files of a summary. -/
def fileLines (files : List FileReport) : List Line :=
  files.flatMap fun report =>
    [] :: fileLine report :: report.functions.flatMap fun record =>
      entryLine record :: continuationLines record

/-- The lines of the skipped files of a summary. -/
def skippedLines (failures : List FileFailure) : List Line :=
  if failures.isEmpty then [] else [] :: skippedMark :: failures.map skippedEntry

theorem docstringLines_eq_cons (record : FunctionRecord) :
    docstringLines record =
      (docstringLines record).headD [] :: (docstringLines record).tail := by
  have isSome := List.splitOn_ne_nil '\n' (shownDocstring record).toList
  rw [docstringLines]
  generalize (shownDocstring record).toList.splitOn '\n' = lines at isSome
  cases lines with
  | nil => exact absurd rfl isSome
  | cons first rest => rfl

theorem intercalate_docstringLines (record : FunctionRecord) :
    ['\n'].intercalate (docstringLines record) = (shownDocstring record).toList :=
  List.intercalate_splitOn '\n'

theorem lineFeed_not_mem_docstringLines (record : FunctionRecord) :
    ∀ line ∈ docstringLines record, '\n' ∉ line := by
  unfold docstringLines
  induction (shownDocstring record).toList with
  | nil => simp
  | cons character rest inductionHypothesis =>
      rw [List.splitOn_cons_eq_if_modifyHead]
      split_ifs with isFeed
      · intro line member
        rcases List.mem_cons.mp member with rfl | isLater
        · exact List.not_mem_nil
        · exact inductionHypothesis line isLater
      · cases lines : rest.splitOn '\n' with
        | nil => exact absurd lines (List.splitOn_ne_nil _ _)
        | cons first others =>
            rw [lines] at inductionHypothesis
            obtain ⟨isFirst, areOthers⟩ := List.forall_mem_cons.mp inductionHypothesis
            rw [List.modifyHead_cons, List.forall_mem_cons]
            refine ⟨?_, areOthers⟩
            have isOther : character ≠ '\n' := by simpa using isFeed
            simp [isOther.symm, isFirst]

/-- Lines joined by line feeds are indented line by line. -/
theorem indented_intercalate {first : Line} {others : List Line}
    (undivided : ∀ line ∈ first :: others, '\n' ∉ line) :
    (['\n'].intercalate (first :: others)).flatMap
        (fun character => if character = '\n' then "\n   ".toList else [character]) ++ ['\n'] =
      unlines (first :: others.map ("   ".toList ++ ·)) := by
  have unchanged : ∀ line : Line, '\n' ∉ line →
      line.flatMap (fun character => if character = '\n' then "\n   ".toList else [character]) =
        line := by
    intro line isLine
    induction line with
    | nil => rfl
    | cons character rest inductionHypothesis =>
        obtain ⟨isOther, isRest⟩ := not_or.mp (List.mem_cons.not.mp isLine)
        rw [List.flatMap_cons, if_neg (Ne.symm isOther), inductionHypothesis isRest]
        rfl
  induction others generalizing first with
  | nil =>
      rw [List.intercalate_singleton, unchanged first (undivided first List.mem_cons_self)]
      simp [unlines]
  | cons second others inductionHypothesis =>
      obtain ⟨isFirst, areOthers⟩ := List.forall_mem_cons.mp undivided
      rw [List.intercalate_cons_cons, List.flatMap_append, List.flatMap_append,
        unchanged first isFirst, List.append_assoc, inductionHypothesis areOthers]
      simp [unlines]

theorem toList_summaryEntry (record : FunctionRecord) :
    (summaryEntry record).toList = unlines (entryLine record :: continuationLines record) := by
  have indented : (indentContinuation (shownDocstring record)).toList ++ ['\n'] =
      unlines ((docstringLines record).headD [] :: continuationLines record) := by
    have undivided := lineFeed_not_mem_docstringLines record
    rw [docstringLines_eq_cons record] at undivided
    rw [continuationLines, ← indented_intercalate undivided, ← docstringLines_eq_cons,
      intercalate_docstringLines, indentContinuation, String.toList_join, List.flatMap_map]
    congr 2
    funext character
    split_ifs <;> simp
  have parts : summaryEntry record =
      entryHead record ++ indentContinuation (shownDocstring record) ++ "\n" := rfl
  have lineFeed : "\n".toList = ['\n'] := rfl
  rw [parts, String.toList_append, String.toList_append, List.append_assoc, lineFeed, indented,
    unlines, List.flatMap_cons, ← List.append_assoc, ← List.append_assoc]
  rfl

/-- The view is made of the lines of its files and of the skipped files. -/
theorem toList_summaryView (summary : Summary) :
    (summaryView summary).toList =
      unlines (fileLines summary.files ++ skippedLines summary.failures) := by
  have reports : (reportsText summaryEntry summary.files).toList =
      unlines (fileLines summary.files) := by
    rw [reportsText, String.toList_join, List.flatMap_map, unlines, fileLines, List.flatMap_assoc]
    refine List.flatMap_congr fun report _ => ?_
    have entries : (report.functions.map summaryEntry).flatMap String.toList =
        (report.functions.flatMap fun record =>
          entryLine record :: continuationLines record).flatMap (· ++ ['\n']) := by
      rw [List.flatMap_map, List.flatMap_assoc]
      exact List.flatMap_congr fun record _ => toList_summaryEntry record
    rw [reportText, fileHeader, List.flatMap_cons, List.flatMap_cons, fileLine_eq]
    simp only [String.toList_append, String.toList_join, entries, List.append_assoc]
    rfl
  have skipped :
      (if summary.hasFailures then "\n" ++ failuresView summary.failures else "").toList =
        unlines (skippedLines summary.failures) := by
    cases isFailures : summary.failures with
    | nil => simp [Summary.hasFailures, isFailures, skippedLines, unlines]
    | cons failure others =>
        have eachLine : (failure :: others).flatMap (fun failure => (failureLine failure).toList) =
            unlines ((failure :: others).map skippedEntry) := by
          rw [unlines, List.flatMap_map]
          refine List.flatMap_congr fun failure _ => ?_
          simp only [failureLine, skippedEntry, String.toList_append]
          rfl
        rw [Summary.hasFailures, isFailures, List.isEmpty_cons, if_pos (by rfl), skippedLines,
          List.isEmpty_cons, if_neg (by decide), failuresView]
        simp only [String.toList_append, String.toList_join, List.flatMap_map, eachLine]
        rfl
  rw [summaryView, String.toList_append, reports, skipped, unlines_append]

/-! ## One entry -/

theorem takeWhile_run {isOfSort : Char → Bool} {run : Line} {stop : Char} (rest : Line)
    (isRun : ∀ character ∈ run, isOfSort character = true) (stops : isOfSort stop = false) :
    (run ++ stop :: rest).takeWhile isOfSort = run := by
  rw [List.takeWhile_append_of_pos isRun, List.takeWhile_cons_of_neg (by simp [stops]),
    List.append_nil]

theorem dropWhile_run {isOfSort : Char → Bool} {run : Line} {stop : Char} (rest : Line)
    (isRun : ∀ character ∈ run, isOfSort character = true) (stops : isOfSort stop = false) :
    (run ++ stop :: rest).dropWhile isOfSort = stop :: rest := by
  rw [List.dropWhile_append_of_pos isRun, List.dropWhile_cons_of_neg (by simp [stops])]

/-- The words between the name of a function and its parameters. -/
def arityText (record : FunctionRecord) : String :=
  " takes " ++ toString record.arity ++ " arguments"

def parametersText (record : FunctionRecord) : String :=
  String.intercalate ", " record.parameters

theorem toList_entryHead (record : FunctionRecord) :
    (entryHead record).toList = " - Function '".toList ++ (record.name.toList ++ '\'' ::
      ((arityText record).toList ++ ':' :: ' ' :: ((parametersText record).toList ++ ['.', ' ']))) := by
  unfold entryHead arityText parametersText
  generalize toString record.arity = number
  generalize String.intercalate ", " record.parameters = listed
  simp only [String.toList_append, List.append_assoc]
  rfl

/-- The first line of an entry: the name ends at a quote, the words about the arity at a colon, and
the parameters at a full stop. -/
theorem entryLine_eq (record : FunctionRecord) :
    entryLine record = " - Function '".toList ++ (record.name.toList ++ '\'' ::
      ((arityText record).toList ++ ':' :: ' ' :: ((parametersText record).toList ++
        '.' :: ' ' :: (docstringLines record).headD []))) := by
  rw [entryLine, toList_entryHead]
  simp only [List.append_assoc, List.cons_append, List.nil_append]

theorem ne_of_mem_arityText (record : FunctionRecord) (mark : Char)
    (notBefore : mark ∉ " takes ".toList) (notDigit : mark.isDigit = false)
    (notAfter : mark ∉ " arguments".toList) :
    ∀ character ∈ (arityText record).toList, character ≠ mark := by
  rintro character member rfl
  simp only [arityText, String.toList_append, List.mem_append] at member
  rcases member with (isBefore | isNumber) | isAfter
  · exact notBefore isBefore
  · rw [isDigit_of_mem_toString isNumber] at notDigit
    cases notDigit
  · exact notAfter isAfter

section Parameters

variable {parameters : List String} (identifiers : ∀ parameter ∈ parameters, IsIdentifier parameter)

include identifiers

/-- The list of parameters has commas and blanks besides the parameters. -/
theorem mem_parameters {character : Char}
    (member : character ∈ (String.intercalate ", " parameters).toList) :
    character ∈ ", ".toList ∨ Identifier.isContinue character = true := by
  induction parameters with
  | nil => cases member
  | cons parameter rest inductionHypothesis =>
      obtain ⟨isIdentifier, areIdentifiers⟩ := List.forall_mem_cons.mp identifiers
      rw [String.toList_intercalate, List.map_cons] at member
      cases rest with
      | nil =>
          rw [List.map_nil, List.intercalate_singleton] at member
          exact .inr (isIdentifier.isContinue member)
      | cons next others =>
          rw [List.map_cons, List.intercalate_cons_cons, List.mem_append, List.mem_append] at member
          rcases member with (isFirst | isMark) | isLater
          · exact .inr (isIdentifier.isContinue isFirst)
          · exact .inl isMark
          · apply inductionHypothesis areIdentifiers
            rw [String.toList_intercalate]
            exact isLater

theorem ne_of_mem_parameters (mark : Char) (notBetween : mark ∉ ", ".toList)
    (isMark : Identifier.isContinue mark = false) :
    ∀ character ∈ (String.intercalate ", " parameters).toList, character ≠ mark := by
  rintro character member rfl
  rcases mem_parameters identifiers member with isBetween | isContinue
  · exact notBetween isBetween
  · rw [isContinue] at isMark
    cases isMark

theorem filter_intercalate_parameters :
    (String.intercalate ", " parameters).toList.filter (· ≠ ' ') =
      [','].intercalate (parameters.map String.toList) := by
  rw [String.toList_intercalate]
  have unchanged : ∀ parameter ∈ parameters,
      parameter.toList.filter (· ≠ ' ') = parameter.toList := by
    intro parameter member
    refine List.filter_eq_self.mpr fun character isCharacter => ?_
    simpa using (identifiers parameter member).ne_mark ' ' (by decide) character isCharacter
  induction parameters with
  | nil => rfl
  | cons parameter rest inductionHypothesis =>
      obtain ⟨isIdentifier, areIdentifiers⟩ := List.forall_mem_cons.mp identifiers
      obtain ⟨isUnchanged, areUnchanged⟩ := List.forall_mem_cons.mp unchanged
      cases rest with
      | nil => simpa using isUnchanged
      | cons next others =>
          have marks : ", ".toList.filter (· ≠ ' ') = [','] := by decide
          simp only [List.map_cons, List.intercalate_cons_cons, List.filter_append, marks,
            isUnchanged] at inductionHypothesis ⊢
          rw [inductionHypothesis areIdentifiers areUnchanged]

theorem readParameters_intercalate :
    readParameters (String.intercalate ", " parameters).toList = parameters := by
  cases parameters with
  | nil => rfl
  | cons parameter rest =>
      have isSome : (String.intercalate ", " (parameter :: rest)).toList ≠ [] := by
        have nonempty := (identifiers parameter List.mem_cons_self).toList_ne_nil
        rw [String.toList_intercalate, List.map_cons]
        cases rest <;> simp [nonempty]
      have undivided : ∀ written ∈ (parameter :: rest).map String.toList, ',' ∉ written := by
        intro written member isComma
        obtain ⟨name, isName, rfl⟩ := List.mem_map.mp member
        exact (identifiers name isName).ne_mark ',' (by decide) ',' isComma rfl
      rw [readParameters, if_neg isSome, filter_intercalate_parameters identifiers,
        List.splitOn_intercalate ',' undivided (by simp), List.map_map]
      simp [Function.comp_def]

end Parameters

section Entry

variable {record : FunctionRecord} (named : IsIdentifier record.name)
  (identifiers : ∀ parameter ∈ record.parameters, IsIdentifier parameter)

include named identifiers

/-- From the entry and the lines of the docstring that follow it, the function is read. -/
theorem readFunction_entry :
    readFunction (record.name.toList ++ '\'' :: ((arityText record).toList ++ ':' :: ' ' ::
        ((parametersText record).toList ++ '.' :: ' ' :: (docstringLines record).headD [])))
      (docstringLines record).tail = shownFunction record := by
  have isName : ∀ character ∈ record.name.toList, decide (character ≠ '\'') = true := by
    simpa using named.ne_mark '\'' (by decide)
  have isArity : ∀ character ∈ '\'' :: (arityText record).toList,
      decide (character ≠ ':') = true := by
    simpa using ne_of_mem_arityText record ':' (by decide) (by decide) (by decide)
  have isListed : ∀ character ∈ (parametersText record).toList,
      decide (character ≠ '.') = true := by
    simpa [parametersText] using ne_of_mem_parameters identifiers '.' (by decide) (by decide)
  simp only [readFunction]
  rw [takeWhile_run _ isName (by decide), dropWhile_run _ isName (by decide), ← List.cons_append,
    dropWhile_run _ isArity (by decide)]
  simp only [List.drop_succ_cons, List.drop_zero]
  rw [takeWhile_run _ isListed (by decide), dropWhile_run _ isListed (by decide)]
  simp only [List.drop_succ_cons, List.drop_zero]
  rw [parametersText, readParameters_intercalate identifiers, ← docstringLines_eq_cons,
    intercalate_docstringLines, String.ofList_toList, String.ofList_toList, shownFunction]

theorem lineFeed_not_mem_entryLine : '\n' ∉ entryLine record := by
  have notInName := named.ne_mark '\n' (by decide)
  have notInArity := ne_of_mem_arityText record '\n' (by decide) (by decide) (by decide)
  have notInParameters := ne_of_mem_parameters identifiers '\n' (by decide) (by decide)
  have notInDocstring := lineFeed_not_mem_docstringLines record
  rw [docstringLines_eq_cons record] at notInDocstring
  rw [entryLine_eq]
  simp only [List.mem_append, List.mem_cons, not_or]
  exact ⟨by decide, fun isIn => notInName _ isIn rfl, by decide,
    fun isIn => notInArity _ isIn rfl, by decide, by decide,
    fun isIn => notInParameters _ isIn rfl, by decide, by decide,
    notInDocstring _ List.mem_cons_self⟩

/-- The lines of an entry are read as the function above those that follow. -/
theorem readEntry {below : LinesRead} (complete : below.continued = []) :
    (entryLine record :: continuationLines record).foldr readLine below =
      { below with functions := shownFunction record :: below.functions } := by
  have goesOn : ∀ lines : List Line, (lines.map ("   ".toList ++ ·)).foldr readLine below =
      { below with continued := lines } := by
    intro lines
    induction lines with
    | nil => rw [List.map_nil, List.foldr_nil, ← complete]
    | cons line rest inductionHypothesis =>
        rw [List.map_cons, List.foldr_cons, inductionHypothesis, readLine,
          List.dropPrefix?_append_of_beq _ (beq_self_eq_true _)]
  have goesNotOn : ∀ entry : Line,
      (" - Function '".toList ++ entry).dropPrefix? "   ".toList = none := fun _ => rfl
  have isEntry : ∀ entry : Line,
      (" - Function '".toList ++ entry).dropPrefix? " - Function '".toList = some entry :=
    fun _ => List.dropPrefix?_append_of_beq _ (beq_self_eq_true _)
  rw [List.foldr_cons, continuationLines, goesOn, entryLine_eq]
  simp only [readLine, goesNotOn, isEntry]
  rw [readFunction_entry named identifiers, complete]

end Entry

/-! ## The whole view -/

section Files

variable {files : List FileReport}

/-- What the lines of files can be. -/
theorem mem_fileLines {line : Line} (member : line ∈ fileLines files) :
    line = [] ∨ (∃ report ∈ files, line = fileLine report) ∨
      ∃ report ∈ files, ∃ record ∈ report.functions,
        line = entryLine record ∨ line ∈ continuationLines record := by
  obtain ⟨report, isReport, isLine⟩ := List.mem_flatMap.mp member
  rcases List.mem_cons.mp isLine with isBlank | isLine
  · exact .inl isBlank
  · rcases List.mem_cons.mp isLine with isHeader | isLine
    · exact .inr (.inl ⟨report, isReport, isHeader⟩)
    · obtain ⟨record, isRecord, isLine⟩ := List.mem_flatMap.mp isLine
      exact .inr (.inr ⟨report, isReport, record, isRecord, List.mem_cons.mp isLine⟩)

/-- The line above the skipped files is none of the lines of files. -/
theorem ne_skippedMark_of_mem_fileLines : ∀ line ∈ fileLines files, line ≠ skippedMark := by
  intro line member isMark
  have starts : line.head? = none ∨ line.head? = some 'F' ∨ line.head? = some ' ' := by
    rcases mem_fileLines member with rfl | ⟨report, -, rfl⟩ | ⟨-, -, record, -, rfl | isLater⟩
    · exact .inl rfl
    · rw [fileLine_eq]
      exact .inr (.inl rfl)
    · rw [entryLine_eq]
      exact .inr (.inr rfl)
    · obtain ⟨text, -, rfl⟩ := List.mem_map.mp isLater
      exact .inr (.inr rfl)
  rw [isMark] at starts
  revert starts
  decide

/-- Of the lines of files, the first lines of the entries begin like an entry. -/
theorem filter_fileLines :
    (fileLines files).filter (fun line => " - Function ".toList.isPrefixOf line) =
      (files.flatMap (·.functions)).map entryLine := by
  have notContinued : ∀ record : FunctionRecord, (continuationLines record).filter
      (fun line => " - Function ".toList.isPrefixOf line) = [] := by
    intro record
    refine List.filter_eq_nil_iff.mpr fun line member => ?_
    obtain ⟨text, -, rfl⟩ := List.mem_map.mp member
    simp
  have isEntry : ∀ record : FunctionRecord,
      " - Function ".toList.isPrefixOf (entryLine record) = true := by
    intro record
    rw [entryLine_eq]
    rfl
  have notHeader : ∀ report : FileReport,
      " - Function ".toList.isPrefixOf (fileLine report) = false := by
    intro report
    rw [fileLine_eq]
    rfl
  rw [fileLines, List.filter_flatMap, List.map_flatMap]
  refine List.flatMap_congr fun report _ => ?_
  rw [List.filter_cons_of_neg (by simp), List.filter_cons_of_neg (by rw [notHeader]; decide),
    List.filter_flatMap]
  simp only [List.filter_cons_of_pos (isEntry _), notContinued]
  exact List.flatMap_pure_eq_map entryLine report.functions

/-- The lines of several entries are read as the functions above those that follow. -/
theorem readEntries {records : List FunctionRecord} {below : LinesRead}
    (complete : below.continued = []) (named : ∀ record ∈ records, IsIdentifier record.name)
    (identifiers : ∀ record ∈ records, ∀ parameter ∈ record.parameters, IsIdentifier parameter) :
    (records.flatMap fun record => entryLine record :: continuationLines record).foldr
        readLine below =
      { below with functions := records.map shownFunction ++ below.functions } := by
  induction records with
  | nil => rfl
  | cons record rest inductionHypothesis =>
      obtain ⟨isNamed, areNamed⟩ := List.forall_mem_cons.mp named
      obtain ⟨isListed, areListed⟩ := List.forall_mem_cons.mp identifiers
      rw [List.flatMap_cons, List.foldr_append, inductionHypothesis areNamed areListed,
        readEntry isNamed isListed]
      · rfl
      · exact complete

/-- From the lines of files the files are read. -/
theorem readFiles {below : LinesRead} (complete : below.continued = [] ∧ below.functions = [])
    (named : ∀ report ∈ files, ∀ record ∈ report.functions, IsIdentifier record.name)
    (identifiers : ∀ report ∈ files, ∀ record ∈ report.functions,
      ∀ parameter ∈ record.parameters, IsIdentifier parameter) :
    (fileLines files).foldr readLine below =
      { below with files := files.map shownFile ++ below.files } := by
  induction files with
  | nil => rfl
  | cons report rest inductionHypothesis =>
      obtain ⟨isNamed, areNamed⟩ := List.forall_mem_cons.mp named
      obtain ⟨isListed, areListed⟩ := List.forall_mem_cons.mp identifiers
      have readHeader : ∀ below : LinesRead, readLine (fileLine report) below =
          { continued := []
            functions := []
            files := ⟨report.file, below.functions⟩ :: below.files } := by
        intro below
        have goesNotOn : ("File: ".toList ++ report.file.toList).dropPrefix? "   ".toList = none :=
          rfl
        have isNoEntry : ("File: ".toList ++ report.file.toList).dropPrefix?
            " - Function '".toList = none := rfl
        have isHeader : ("File: ".toList ++ report.file.toList).dropPrefix? "File: ".toList =
            some report.file.toList := List.dropPrefix?_append_of_beq _ (beq_self_eq_true _)
        simp only [readLine, fileLine_eq, goesNotOn, isNoEntry, isHeader, String.ofList_toList]
      have divided : fileLines (report :: rest) = [] :: fileLine report ::
          ((report.functions.flatMap fun record => entryLine record :: continuationLines record) ++
            fileLines rest) := by
        simp [fileLines]
      rw [divided, List.foldr_cons, List.foldr_cons, List.foldr_append,
        inductionHypothesis areNamed areListed, readEntries _ isNamed isListed, readHeader]
      · dsimp only
        rw [complete.1, complete.2, List.append_nil]
        rfl
      · exact complete.1

end Files

section View

variable {summary : Summary} (plain : IsPlain summary)

include plain

/-- No line of the view is cut by a line feed. -/
theorem linesOf_summaryView :
    linesOf (summaryView summary) =
      fileLines summary.files ++ skippedLines summary.failures := by
  have undivided : ∀ line ∈ fileLines summary.files ++ skippedLines summary.failures,
      '\n' ∉ line := by
    intro line member
    rcases List.mem_append.mp member with isFileLine | isSkipped
    · rcases mem_fileLines isFileLine with
        rfl | ⟨report, isReport, rfl⟩ | ⟨report, isReport, record, isRecord, rfl | isLater⟩
      · exact List.not_mem_nil
      · rw [fileLine_eq, List.mem_append, not_or]
        exact ⟨by decide, plain.file report isReport⟩
      · exact lineFeed_not_mem_entryLine (plain.name report isReport record isRecord)
          (plain.parameter report isReport record isRecord)
      · obtain ⟨text, isText, rfl⟩ := List.mem_map.mp isLater
        simpa using lineFeed_not_mem_docstringLines record text (List.mem_of_mem_tail isText)
    · unfold skippedLines at isSkipped
      split_ifs at isSkipped
      · cases isSkipped
      · rcases List.mem_cons.mp isSkipped with rfl | isSkipped
        · exact List.not_mem_nil
        · rcases List.mem_cons.mp isSkipped with rfl | isSkipped
          · decide
          · obtain ⟨failure, isFailure, rfl⟩ := List.mem_map.mp isSkipped
            obtain ⟨inFile, inMessage⟩ := plain.failure failure isFailure
            have inTitle : '\n' ∉ failure.kind.title.toList := by
              cases failure.kind <;> decide
            simp only [skippedEntry, String.toList_append, List.mem_append, not_or]
            exact ⟨⟨⟨⟨⟨by decide, inFile⟩, by decide⟩, inTitle⟩, by decide⟩, inMessage⟩
  rw [linesOf, toList_summaryView, splitOn_unlines undivided, List.dropLast_concat]

/-- Before the skipped files stand the lines of the files, and a blank line if one is skipped. -/
theorem linesBeforeSkipped_summaryView :
    linesBeforeSkipped (summaryView summary) =
      fileLines summary.files ++ if summary.failures.isEmpty then [] else [[]] := by
  have notMark : ∀ line ∈ fileLines summary.files, decide (line ≠ skippedMark) = true := by
    simpa using ne_skippedMark_of_mem_fileLines
  rw [linesBeforeSkipped, linesOf_summaryView plain, List.takeWhile_append_of_pos notMark,
    skippedLines]
  split_ifs
  · rfl
  · rw [List.takeWhile_cons_of_pos (by decide), List.takeWhile_cons_of_neg (by simp)]

theorem readSummary_summaryView : readSummary (summaryView summary) = shownSummary summary := by
  have notMark : ∀ line ∈ fileLines summary.files, decide (line ≠ skippedMark) = true := by
    simpa using ne_skippedMark_of_mem_fileLines
  have blankBelow : (if summary.failures.isEmpty then [] else [[]] : List Line).foldr readLine
      ⟨[], [], []⟩ = ⟨[], [], []⟩ := by
    split_ifs <;> rfl
  have files : (readLines (linesBeforeSkipped (summaryView summary))).files =
      summary.files.map shownFile := by
    rw [readLines, linesBeforeSkipped_summaryView plain, List.foldr_append, blankBelow,
      readFiles ⟨rfl, rfl⟩ plain.name plain.parameter, List.append_nil]
  have skipped : ((linesOf (summaryView summary)).dropWhile (· ≠ skippedMark)).drop 1 =
      summary.failures.map skippedEntry := by
    rw [linesOf_summaryView plain, List.dropWhile_append_of_pos notMark, skippedLines]
    cases summary.failures with
    | nil => rfl
    | cons failure others =>
        rw [List.isEmpty_cons, if_neg (by decide), List.dropWhile_cons_of_pos (by decide),
          List.dropWhile_cons_of_neg (by simp)]
        rfl
  rw [readSummary, files, skipped, shownSummary]

theorem functionLines_summaryView :
    functionLines (summaryView summary) =
      (summary.files.flatMap (·.functions)).map entryLine := by
  have noneBelow : (if summary.failures.isEmpty then [] else [[]] : List Line).filter
      (fun line => " - Function ".toList.isPrefixOf line) = [] := by
    split_ifs <;> rfl
  rw [functionLines, linesBeforeSkipped_summaryView plain, List.filter_append, noneBelow,
    filter_fileLines, List.append_nil]

end View

/-- A summary view can be read back, whatever text its docstrings hold: it gives the files with the
names, the parameters and the shown docstrings of their functions, and the lines of the skipped
files. So no two summaries that show something different have the same view. Before the skipped
files, the lines that begin like an entry are the first lines of the entries, one for each
record. -/
theorem summaryView_reads_back (summary : Summary) (plain : IsPlain summary) :
    readSummary (summaryView summary) = shownSummary summary ∧
    (∀ other : Summary, IsPlain other → summaryView other = summaryView summary →
      shownSummary other = shownSummary summary) ∧
    functionLines (summaryView summary) =
      (summary.files.flatMap (·.functions)).map entryLine := by
  have isRead := readSummary_summaryView plain
  refine ⟨isRead, ?_, functionLines_summaryView plain⟩
  intro other otherPlain sameView
  rw [← readSummary_summaryView otherPlain, sameView, isRead]

/-- A function whose docstring looks like the end of its file, another file and a skipped one. -/
def forgedRecord : FunctionRecord where
  name := "f"
  qualifiedName := "f"
  parameters := ["a", "b_1"]
  docstring := some "x\n\nFile: c.py\n - Function 'g' takes 0 arguments: . y\n\nSkipped files:\n - d"
  sourceText := none
  treeDump := ""
  isAsync := false
  decorators := []
  span := ⟨0, 0, 1, 1, 1, 1⟩

theorem forgedSummary_reads_back :
    readSummary (summaryView ⟨[⟨"a.py", [forgedRecord, forgedRecord]⟩],
        [⟨"b.py", .parsing, "b.py:1:1: syntax error"⟩], 2⟩) =
      { files := [⟨"a.py", [shownFunction forgedRecord, shownFunction forgedRecord]⟩]
        skipped := [" - b.py: parse error: b.py:1:1: syntax error".toList] } := by
  have plain : IsPlain ⟨[⟨"a.py", [forgedRecord, forgedRecord]⟩],
      [⟨"b.py", .parsing, "b.py:1:1: syntax error"⟩], 2⟩ :=
    ⟨by decide, by decide, by decide, by decide⟩
  obtain ⟨isRead, -, -⟩ := summaryView_reads_back _ plain
  rw [isRead]
  rfl

end FunctionAtlas.Report
