import FunctionAtlas.Analysis.Project
import Mathlib.Data.List.Induction
import Mathlib.Tactic.ByContra

/-!
Contract: the summary of a run does not depend on the order in which the outcomes arrive.

A collector that has taken in some of the numbered outcomes of a run holds, in its summary, the
outcomes with the numbers below `next`, in order, and keeps all others waiting. `Reflects` says
so. One release, one arrival and a whole run keep it; when everything has arrived, nothing can be
waiting.

Owns: the invariant of the collector and the sequential meaning of a summary.

Does not own: how outcomes come about.
-/

namespace FunctionAtlas.Analysis

/-! ## Summaries of outcomes taken one after the other -/

def Outcome.report? : Outcome → Option FileReport
  | .reported report => some report
  | .failed _ => none

def Outcome.failure? : Outcome → Option FileFailure
  | .reported _ => none
  | .failed failure => some failure

namespace Summary

/-- The summary of outcomes that are added in order. -/
def ofOutcomes (outcomes : List Outcome) : Summary := outcomes.foldl add empty

theorem ofOutcomes_concat (outcomes : List Outcome) (outcome : Outcome) :
    ofOutcomes (outcomes ++ [outcome]) = (ofOutcomes outcomes).add outcome := by
  simp [ofOutcomes]

private theorem foldl_add_eq (outcomes : List Outcome) (summary : Summary) :
    outcomes.foldl add summary =
      { files := summary.files ++ outcomes.filterMap Outcome.report?
        failures := summary.failures ++ outcomes.filterMap Outcome.failure?
        scanned := summary.scanned + outcomes.length } := by
  induction outcomes generalizing summary with
  | nil => simp
  | cons outcome rest inductionHypothesis =>
      rw [List.foldl_cons, inductionHypothesis]
      cases outcome with
      | reported report =>
          simp [add, addReport, List.filterMap_cons, Outcome.report?, Outcome.failure?]
          omega
      | failed failure =>
          simp [add, addFailure, List.filterMap_cons, Outcome.report?, Outcome.failure?]
          omega

/-- The reports are the reported outcomes and the failures the failed ones, each in order. -/
theorem ofOutcomes_eq (outcomes : List Outcome) :
    ofOutcomes outcomes =
      { files := outcomes.filterMap Outcome.report?
        failures := outcomes.filterMap Outcome.failure?
        scanned := outcomes.length } := by
  simp [ofOutcomes, foldl_add_eq, empty]

/-- Every outcome is either a report or a failure. -/
theorem length_reports_add_length_failures (outcomes : List Outcome) :
    (outcomes.filterMap Outcome.report?).length +
      (outcomes.filterMap Outcome.failure?).length = outcomes.length := by
  induction outcomes with
  | nil => rfl
  | cons outcome rest inductionHypothesis =>
      cases outcome <;>
        simp [List.filterMap_cons, Outcome.report?, Outcome.failure?] <;> omega

/-- The function count is the number of records in all reports. -/
theorem functionCount_eq_length (summary : Summary) :
    summary.functionCount = (summary.files.flatMap FileReport.functions).length := by
  unfold functionCount
  induction summary.files with
  | nil => rfl
  | cons report rest inductionHypothesis =>
      simp only [List.map_cons, List.foldr_cons, List.flatMap_cons, List.length_append]
      rw [inductionHypothesis]

end Summary

/-! ## Numbered outcomes -/

theorem mem_numbered_iff (outcomes : List Outcome) (arrival : Nat × Outcome) :
    arrival ∈ numbered outcomes ↔ outcomes[arrival.1]? = some arrival.2 := by
  obtain ⟨index, outcome⟩ := arrival
  simp only [numbered, List.mem_map, List.mem_zipIdx_iff_getElem?]
  constructor
  · rintro ⟨⟨found, place⟩, placed, equal⟩
    cases equal
    exact placed
  · intro placed
    exact ⟨(outcome, index), placed, rfl⟩

theorem numbers_numbered (outcomes : List Outcome) :
    (numbered outcomes).map Prod.fst = List.range outcomes.length := by
  simp [numbered, List.range_eq_range', Function.comp_def, List.zipIdx_map_snd]

namespace Collector

theorem mem_without_iff {index : Nat} {pending : List (Nat × Outcome)}
    {waiting : Nat × Outcome} :
    waiting ∈ without index pending ↔ waiting ∈ pending ∧ waiting.1 ≠ index := by
  simp [without]

/-! ## The invariant -/

/-- What holds of a collector that has taken in the given arrivals of a run: its summary is that
of the outcomes below `next`, and what has arrived from `next` on is waiting. -/
structure Reflects (outcomes : List Outcome) (arrived : List (Nat × Outcome))
    (collector : Collector) : Prop where
  within : collector.next ≤ outcomes.length
  released : collector.summary = .ofOutcomes (outcomes.take collector.next)
  complete : ∀ index < collector.next, index ∈ arrived.map Prod.fst
  waiting : ∀ arrival, arrival ∈ collector.pending ↔
    arrival ∈ arrived ∧ collector.next ≤ arrival.1

/-- No outcome is waiting whose turn it is. -/
def Settled (collector : Collector) : Prop :=
  ∀ waiting ∈ collector.pending, waiting.1 ≠ collector.next

section Run

variable {outcomes : List Outcome} {arrived : List (Nat × Outcome)}

theorem reflects_empty : Reflects outcomes [] empty where
  within := Nat.zero_le _
  released := rfl
  complete := by simp [empty]
  waiting := by simp [empty]

/-- Moving the outcome whose turn it is into the summary keeps the invariant. -/
theorem Reflects.step {summary : Summary} {next : Nat} {pending : List (Nat × Outcome)}
    {arrival : Nat × Outcome}
    (numberedArrivals : ∀ arrival ∈ arrived, arrival ∈ numbered outcomes)
    (reflects : Reflects outcomes arrived ⟨summary, next, pending⟩)
    (member : arrival ∈ pending) (turn : arrival.1 = next) :
    Reflects outcomes arrived ⟨summary.add arrival.2, next + 1, without next pending⟩ := by
  have isArrived : arrival ∈ arrived := ((reflects.waiting arrival).mp member).1
  have placed : outcomes[next]? = some arrival.2 := by
    rw [← turn]
    exact (mem_numbered_iff outcomes arrival).mp (numberedArrivals arrival isArrived)
  obtain ⟨below, found⟩ := List.getElem?_eq_some_iff.mp placed
  refine ⟨below, ?_, ?_, ?_⟩
  · have summed : summary = .ofOutcomes (outcomes.take next) := reflects.released
    rw [summed, ← Summary.ofOutcomes_concat, ← found, List.take_append_getElem]
  · intro index indexLt
    by_cases isNext : index = next
    · rw [isNext, ← turn]
      exact List.mem_map_of_mem isArrived
    · exact reflects.complete index (by simp only at indexLt ⊢; omega)
  · intro other
    have before := reflects.waiting other
    simp only at before ⊢
    rw [mem_without_iff, before, and_assoc]
    refine and_congr_right fun _ => ?_
    omega

/-- Releasing keeps the invariant and leaves nothing whose turn it is. -/
theorem release_reflects (summary : Summary) (next : Nat) (pending : List (Nat × Outcome))
    (numberedArrivals : ∀ arrival ∈ arrived, arrival ∈ numbered outcomes)
    (reflects : Reflects outcomes arrived ⟨summary, next, pending⟩) :
    Reflects outcomes arrived (release summary next pending) ∧
      Settled (release summary next pending) := by
  fun_induction release summary next pending with
  | case1 summary next pending absent =>
      refine ⟨reflects, ?_⟩
      intro waiting member
      simpa using List.find?_eq_none.mp absent waiting member
  | case2 summary next pending waiting found inductionHypothesis =>
      have turn : waiting.1 = next := by simpa using List.find?_some found
      exact inductionHypothesis
        (reflects.step numberedArrivals (List.mem_of_find?_eq_some found) turn)

/-- One arrival of a number that has not arrived before keeps the invariant. -/
theorem accept_reflects {collector : Collector} {arrival : Nat × Outcome}
    (numberedArrivals : ∀ other ∈ arrived ++ [arrival], other ∈ numbered outcomes)
    (fresh : arrival.1 ∉ arrived.map Prod.fst)
    (reflects : Reflects outcomes arrived collector) :
    Reflects outcomes (arrived ++ [arrival]) (collector.accept arrival.1 arrival.2) ∧
      Settled (collector.accept arrival.1 arrival.2) := by
  apply release_reflects _ _ _ numberedArrivals
  have notBefore : collector.next ≤ arrival.1 := by
    by_contra before
    exact fresh (reflects.complete arrival.1 (by omega))
  refine ⟨reflects.within, reflects.released, ?_, ?_⟩
  · intro index indexLt
    rw [List.map_append]
    exact List.mem_append_left _ (reflects.complete index indexLt)
  · intro other
    simp only [List.mem_append, List.mem_singleton, mem_without_iff, reflects.waiting other]
    constructor
    · rintro (⟨⟨isArrived, late⟩, _⟩ | rfl)
      · exact ⟨.inl isArrived, late⟩
      · exact ⟨.inr rfl, notBefore⟩
    · rintro ⟨isArrived | rfl, late⟩
      · refine .inl ⟨⟨isArrived, late⟩, fun equal => fresh ?_⟩
        rw [← equal]
        exact List.mem_map_of_mem isArrived
      · exact .inr rfl

/-- Any number of arrivals keeps the invariant, as long as no number arrives twice. -/
theorem acceptAll_reflects (arrivals : List (Nat × Outcome))
    (numberedArrivals : ∀ arrival ∈ arrivals, arrival ∈ numbered outcomes)
    (distinct : (arrivals.map Prod.fst).Nodup) :
    Reflects outcomes arrivals (empty.acceptAll arrivals) ∧
      Settled (empty.acceptAll arrivals) := by
  -- The invariant speaks of what has arrived, so the induction adds arrivals at the end.
  induction arrivals using List.reverseRecOn with
  | nil => exact ⟨reflects_empty, by simp [Settled, acceptAll, empty]⟩
  | append_singleton arrived arrival inductionHypothesis =>
      have parts := List.nodup_append.mp (List.map_append ▸ distinct)
      have earlier := inductionHypothesis
        (fun other member => numberedArrivals other (List.mem_append_left _ member)) parts.1
      have fresh : arrival.1 ∉ arrived.map Prod.fst := by
        intro member
        exact parts.2.2 _ member _ (by simp) rfl
      have last : empty.acceptAll (arrived ++ [arrival]) =
          (empty.acceptAll arrived).accept arrival.1 arrival.2 := by
        simp [acceptAll]
      rw [last]
      exact accept_reflects numberedArrivals fresh earlier.1

/-- What is waiting comes strictly after the outcome that is waited for. -/
theorem Reflects.mem_pending_iff {collector : Collector}
    (reflects : Reflects outcomes arrived collector) (settled : Settled collector)
    (arrival : Nat × Outcome) :
    arrival ∈ collector.pending ↔ arrival ∈ arrived ∧ collector.next < arrival.1 := by
  rw [reflects.waiting arrival]
  refine and_congr_right fun isArrived => ⟨fun late => ?_, Nat.le_of_lt⟩
  have notNext := settled arrival ((reflects.waiting arrival).mpr ⟨isArrived, late⟩)
  omega

/-- Once every outcome has arrived, none is waited for. -/
theorem Reflects.next_eq_length {collector : Collector}
    (reflects : Reflects outcomes arrived collector) (settled : Settled collector)
    (everything : ∀ arrival ∈ numbered outcomes, arrival ∈ arrived) :
    collector.next = outcomes.length := by
  by_contra different
  have below : collector.next < outcomes.length := by
    have within := reflects.within
    omega
  have isArrived : (collector.next, outcomes[collector.next]) ∈ arrived :=
    everything _ ((mem_numbered_iff outcomes _).mpr (List.getElem?_eq_getElem below))
  exact settled _ ((reflects.waiting _).mpr ⟨isArrived, Nat.le_refl _⟩) rfl

end Run

section Order

variable {outcomes : List Outcome} {arrivals : List (Nat × Outcome)}

/-- The invariant holds at any time of a run in which every outcome arrives once. -/
theorem acceptAll_reflects_of_prefix (order : arrivals.Perm (numbered outcomes))
    {arrived : List (Nat × Outcome)} (isPrefix : arrived <+: arrivals) :
    Reflects outcomes arrived (empty.acceptAll arrived) ∧
      Settled (empty.acceptAll arrived) := by
  have distinct : (arrivals.map Prod.fst).Nodup := by
    rw [(order.map Prod.fst).nodup_iff, numbers_numbered]
    exact List.nodup_range
  apply acceptAll_reflects
  · intro arrival member
    exact order.mem_iff.mp (isPrefix.subset member)
  · exact distinct.sublist (isPrefix.sublist.map Prod.fst)

theorem next_acceptAll (order : arrivals.Perm (numbered outcomes)) :
    (empty.acceptAll arrivals).next = outcomes.length := by
  obtain ⟨reflects, settled⟩ := acceptAll_reflects_of_prefix order (List.prefix_refl arrivals)
  exact reflects.next_eq_length settled fun arrival member => order.mem_iff.mpr member

theorem pending_acceptAll (order : arrivals.Perm (numbered outcomes)) :
    (empty.acceptAll arrivals).pending = [] := by
  obtain ⟨reflects, settled⟩ := acceptAll_reflects_of_prefix order (List.prefix_refl arrivals)
  apply List.eq_nil_iff_forall_not_mem.mpr
  intro arrival member
  obtain ⟨isArrived, late⟩ := (reflects.mem_pending_iff settled arrival).mp member
  have placed := (mem_numbered_iff outcomes arrival).mp (order.mem_iff.mp isArrived)
  have below := (List.getElem?_eq_some_iff.mp placed).1
  rw [next_acceptAll order] at late
  omega

/-- Whatever the order of arrival, the summary is that of the outcomes in their own order. -/
theorem summary_acceptAll (order : arrivals.Perm (numbered outcomes)) :
    (empty.acceptAll arrivals).summary = .ofOutcomes outcomes := by
  obtain ⟨reflects, _⟩ := acceptAll_reflects_of_prefix order (List.prefix_refl arrivals)
  rw [reflects.released, next_acceptAll order, List.take_length]

end Order

/-- The outcomes of a run may arrive in any order, each once. At any time the summary is that of
the outcomes before `next`, and exactly the arrivals with a greater number are waiting. At the end
nothing is waiting and the summary is that of all outcomes in the order of their numbers. -/
theorem acceptAll_in_any_order
    (outcomes : List Outcome)
    (arrivals : List (Nat × Outcome))
    (order : arrivals.Perm (numbered outcomes)) :
    (∀ arrived, arrived <+: arrivals →
      let collector := empty.acceptAll arrived
      collector.next ≤ outcomes.length ∧
      collector.summary = .ofOutcomes (outcomes.take collector.next) ∧
      ∀ arrival, arrival ∈ collector.pending ↔
        arrival ∈ arrived ∧ collector.next < arrival.1) ∧
    let collector := empty.acceptAll arrivals
    let summary := collector.summary
    collector.pending = [] ∧
    collector.next = outcomes.length ∧
    summary = .ofOutcomes outcomes ∧
    summary.files = outcomes.filterMap Outcome.report? ∧
    summary.failures = outcomes.filterMap Outcome.failure? ∧
    summary.scanned = outcomes.length ∧
    summary.scanned = summary.files.length + summary.failures.length ∧
    summary.functionCount =
      ((outcomes.filterMap Outcome.report?).flatMap FileReport.functions).length := by
  constructor
  · intro arrived isPrefix
    obtain ⟨reflects, settled⟩ := acceptAll_reflects_of_prefix order isPrefix
    exact ⟨reflects.within, reflects.released, reflects.mem_pending_iff settled⟩
  · intro collector summary
    have summed : summary = .ofOutcomes outcomes := summary_acceptAll order
    refine ⟨pending_acceptAll order, next_acceptAll order, summed, ?_, ?_, ?_, ?_, ?_⟩
    · rw [summed, Summary.ofOutcomes_eq]
    · rw [summed, Summary.ofOutcomes_eq]
    · rw [summed, Summary.ofOutcomes_eq]
    · rw [summed, Summary.ofOutcomes_eq]
      exact (Summary.length_reports_add_length_failures outcomes).symm
    · rw [Summary.functionCount_eq_length, summed, Summary.ofOutcomes_eq]

/-- Three outcomes of which the last arrives first. -/
theorem acceptAll_last_first :
    let outcomes : List Outcome :=
      [.reported ⟨"a.py", []⟩, .failed ⟨"b.py", .parsing, "b.py:1:1: syntax error"⟩,
        .reported ⟨"c.py", []⟩]
    let arrivals : List (Nat × Outcome) :=
      [(2, .reported ⟨"c.py", []⟩), (0, .reported ⟨"a.py", []⟩),
        (1, .failed ⟨"b.py", .parsing, "b.py:1:1: syntax error"⟩)]
    arrivals.Perm (numbered outcomes) ∧
      (empty.acceptAll arrivals).pending = [] ∧
      (empty.acceptAll arrivals).summary = .ofOutcomes outcomes := by
  intro outcomes arrivals
  have order : arrivals.Perm (numbered outcomes) := by decide
  obtain ⟨-, pending, -, summary, -⟩ := acceptAll_in_any_order outcomes arrivals order
  exact ⟨order, pending, summary⟩

end Collector

end FunctionAtlas.Analysis
