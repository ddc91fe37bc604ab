import FunctionAtlas.Search.Lines
import Mathlib.Data.List.Basic
import Mathlib.Tactic.SplitIfs

/-!
Contract: when a search finds something.

Matches are looked for from left to right, and one that is found takes its characters away from
those after it. That cannot hide all of them: a text has a match that is not empty exactly if one
begins at some position of it. So a search of files finds something exactly if a line of some file
that can be read has such a position.

Owns: texts and files with a match.

Does not own: what matches at a position.
-/

namespace FunctionAtlas.Regex.Program

variable (program : Program)

/-- At some position of a text the preferred match is not empty. -/
def Matches (text : List Char) : Prop :=
  ∃ before rest length, text = before ++ rest ∧
    program.matchLength? before.getLast? rest = some (length + 1)

/-- There is nothing to match at the end of a text. -/
theorem matchLength?_nil (before : Option Char) (length : Nat) :
    program.matchLength? before [] ≠ some (length + 1) := by
  rw [matchLength?, run]
  split_ifs <;> simp

/-- After a character, with no match before it, a match is found exactly if one begins somewhere. -/
theorem matchesFrom_ne_nil_iff (before : Option Char) (offset : Nat) (text : List Char) :
    program.matchesFrom before offset 0 text ≠ [] ↔
      ∃ front rest length, text = front ++ rest ∧
        program.matchLength? (front.getLast?.or before) rest = some (length + 1) := by
  induction text generalizing before offset with
  | nil =>
      rw [matchesFrom]
      refine ⟨fun isSome => absurd rfl isSome, ?_⟩
      rintro ⟨front, rest, length, split, found⟩
      obtain ⟨rfl, rfl⟩ := List.append_eq_nil_iff.mp split.symm
      exact absurd found (program.matchLength?_nil _ _)
  | cons character others inductionHypothesis =>
      have ofLater : ∀ front : List Char,
          (character :: front).getLast?.or before = front.getLast?.or (some character) := by
        intro front
        cases front <;> simp [List.getLast?_cons]
      rw [matchesFrom]
      split
      next length here =>
        exact ⟨fun _ => ⟨[], character :: others, length, rfl, by simpa using here⟩, by simp⟩
      next notHere =>
        rw [inductionHypothesis]
        constructor
        · rintro ⟨front, rest, length, rfl, found⟩
          exact ⟨character :: front, rest, length, rfl, by rw [ofLater]; exact found⟩
        · rintro ⟨front, rest, length, split, found⟩
          cases front with
          | nil =>
              rw [List.nil_append] at split
              subst split
              exact absurd (by simpa using found) (notHere length)
          | cons first front =>
              obtain ⟨rfl, splitRest⟩ := List.cons.inj split
              rw [ofLater] at found
              exact ⟨front, rest, length, splitRest, found⟩

theorem matches_ne_nil_iff (text : List Char) :
    program.matches_ text ≠ [] ↔ program.Matches text := by
  rw [matches_, matchesFrom_ne_nil_iff, Matches]
  simp only [Option.or_none]

end FunctionAtlas.Regex.Program

namespace FunctionAtlas.Search

open FunctionAtlas.Regex
open FunctionAtlas.Storage
open FunctionAtlas.Text

/-- The file at a path can be read, and has a line with a match that is not empty. White space at
the ends of lines does not count. -/
def HasMatch (disk : Disk) (program : Program) (path : String) : Prop :=
  ∃ text, disk.readText path = .ok text ∧
    ∃ line ∈ linesOf text.toList, program.Matches (trimRight (trimLeft line))

variable {disk : Disk} {program : Program}

theorem searchLines_ne_nil_iff (number : Nat) (lines : List (List Char)) :
    searchLines program number lines ≠ [] ↔
      ∃ line ∈ lines, program.Matches (trimRight (trimLeft line)) := by
  induction lines generalizing number with
  | nil => simp [searchLines]
  | cons line rest inductionHypothesis =>
      rw [List.exists_mem_cons_iff, ← inductionHypothesis (number + 1),
        ← Program.matches_ne_nil_iff, searchLines, searchLine]
      cases program.matches_ (trimRight (trimLeft line)) <;> simp

/-- Something is found in files exactly if one of them has a match. -/
theorem searchFiles_ne_nil_iff (base : String) (paths : List String) :
    searchFiles disk program base paths ≠ [] ↔ ∃ path ∈ paths, HasMatch disk program path := by
  have isFound : ∀ path, HasMatch disk program path ↔
      ∃ lines, searchFile disk program path = .ok lines ∧ lines ≠ [] := by
    intro path
    unfold HasMatch searchFile
    cases disk.readText path with
    | error fault => simp [Except.map]
    | ok text => simp [Except.map, searchText, searchLines_ne_nil_iff]
  simp only [isFound]
  rw [searchFiles, ne_eq, List.filterMap_eq_nil_iff]
  push Not
  refine exists_congr fun path => and_congr_right fun _ => ?_
  cases searchFile disk program path with
  | error fault => simp
  | ok lines => cases lines <;> simp

end FunctionAtlas.Search
