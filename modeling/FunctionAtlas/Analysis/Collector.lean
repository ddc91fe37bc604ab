import FunctionAtlas.Analysis.Summary

/-!
Contract: outcomes that arrive in any order end up in the order of their files.

Outcomes carry the number of their file. One that arrives early waits until all before it have
arrived.

Owns: the waiting outcomes and their release.
-/

namespace FunctionAtlas.Analysis

/-- A summary of the first outcomes, the number of the outcome it waits for, and those that came
early. -/
structure Collector where
  summary : Summary
  next : Nat
  pending : List (Nat × Outcome)
deriving DecidableEq, Repr

namespace Collector

def empty : Collector := { summary := .empty, next := 0, pending := [] }

/-- The waiting outcomes of other files than the given one. -/
def without (index : Nat) (pending : List (Nat × Outcome)) : List (Nat × Outcome) :=
  pending.filter fun waiting => waiting.1 ≠ index

theorem length_without_lt
    {index : Nat}
    {pending : List (Nat × Outcome)}
    {waiting : Nat × Outcome}
    (found : (pending.find? fun candidate => candidate.1 = index) = some waiting) :
    (without index pending).length < pending.length := by
  have named := List.find?_some found
  apply List.length_filter_lt_length_iff_exists.mpr
  exact ⟨waiting, List.mem_of_find?_eq_some found, by simpa using named⟩

/-- Moves the outcomes whose turn it is into the summary; each move shortens the list of the
waiting. -/
def release (summary : Summary) (next : Nat) (pending : List (Nat × Outcome)) : Collector :=
  match found : pending.find? fun waiting => waiting.1 = next with
  | none => { summary, next, pending }
  | some waiting => release (summary.add waiting.2) (next + 1) (without next pending)
termination_by pending.length
decreasing_by exact length_without_lt found

/-- Takes in the outcome of the file with the given number. -/
def accept (collector : Collector) (index : Nat) (outcome : Outcome) : Collector :=
  release collector.summary collector.next
    (without index collector.pending ++ [(index, outcome)])

/-- Takes in outcomes in the order of their arrival. -/
def acceptAll (collector : Collector) (arrivals : List (Nat × Outcome)) : Collector :=
  arrivals.foldl (fun state arrival => state.accept arrival.1 arrival.2) collector

end Collector

end FunctionAtlas.Analysis
