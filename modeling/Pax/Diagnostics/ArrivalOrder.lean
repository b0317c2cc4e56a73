import Pax.Diagnostics.Analyze

/-!
# Analysis and arrival order

Concurrent producers deliver events out of order. What does the analysis depend on?

* The totals and breakdowns of two streams that are permutations of each other are equal, since a
  summary of events does not depend on their order (`Metrics.fromEvents_perm`) and a bucket is such
  a summary.
* The anomaly list does depend on it, but only through the order of the sorted events. When the
  sequence numbers are distinct, sorting leaves no choice, and the whole report is the same
  (`new_eq_of_nodup`).
* When numbers repeat the sort keeps arrival order among equals, and the anomalies are still the
  same up to order (`anomalies_perm`).

`analysis_perm` puts these together. The recorders of `Pax.Diagnostics.Recorder` are an application:
two of them may hold the same events in different orders.
-/

namespace Pax
namespace Analyzer

/-- The sorted streams of two permuted streams are permutations of each other. -/
theorem perm_new_new {v₁ v₂ : EventVec} (h : v₁.1.Perm v₂.1) :
    (new v₁).events.Perm (new v₂).events :=
  (perm_new v₁).trans (h.trans (perm_new v₂).symm)

theorem total_perm {v₁ v₂ : EventVec} (h : v₁.1.Perm v₂.1) :
    (new v₁).total = (new v₂).total :=
  Metrics.fromEvents_perm (perm_new_new h)

/-- Permuted streams have the same buckets along every dimension, with the same summaries in
them. -/
theorem breakdown_perm {v₁ v₂ : EventVec} (h : v₁.1.Perm v₂.1) (d : SplitBy) :
    (new v₁).breakdown d = (new v₂).breakdown d := by
  have hlookup : ∀ label, ((new v₁).breakdown d).buckets.lookup label
      = ((new v₂).breakdown d).buckets.lookup label := by
    intro label
    have hbucket : (inBucket d label (new v₁).events).Perm (inBucket d label (new v₂).events) :=
      (perm_new_new h).filter _
    -- both buckets are empty or neither is, and their summaries agree
    have hnil : inBucket d label (new v₁).events = [] ↔ inBucket d label (new v₂).events = [] :=
      ⟨fun h₁ => (h₁ ▸ hbucket).symm.eq_nil, fun h₂ => (h₂ ▸ hbucket).eq_nil⟩
    rw [lookup_breakdown, lookup_breakdown, Metrics.fromEvents_perm hbucket]
    simp only [hnil]
  exact congrArg (Breakdown.mk d) (SortedMap.ext_lookup hlookup)

/-- Under distinct sequence numbers sorting leaves no choice: two sorted permutations of a list
without equal numbers are the same list. -/
theorem new_eq_of_nodup {v₁ v₂ : EventVec} (h : v₁.1.Perm v₂.1)
    (hnodup : (v₁.1.map TransitEvent.seq).Nodup) : new v₁ = new v₂ := by
  have hevents : (new v₁).events = (new v₂).events := by
    refine List.Perm.eq_of_pairwise ?_ (new v₁).sorted (new v₂).sorted (perm_new_new h)
    intro e₁ e₂ he₁ he₂ hle hge
    -- two events of one stream with the same number are the same event
    have hmem₁ : e₁ ∈ v₁.1 := (perm_new v₁).mem_iff.mp he₁
    have hmem₂ : e₂ ∈ v₁.1 := h.mem_iff.mpr ((perm_new v₂).mem_iff.mp he₂)
    exact List.inj_on_of_nodup_map hnodup hmem₁ hmem₂ (UInt64.le_antisymm hle hge)
  cases hv₁ : new v₁
  cases hv₂ : new v₂
  rw [hv₁, hv₂] at hevents
  cases hevents
  rfl

/-- Permuted streams have the same anomalies up to order, even if sequence numbers repeat. -/
theorem anomalies_perm {v₁ v₂ : EventVec} (h : v₁.1.Perm v₂.1) :
    (new v₁).anomalies.Perm (new v₂).anomalies :=
  (perm_new_new h).filterMap anomaly

/-- **Analysis does not depend on arrival order.** Two streams that are permutations of each other
have the same total and the same breakdown along every dimension, and the same anomalies up to
order. If the sequence numbers are distinct, the analyzers hold the same list of events and their
reports are the same, including the order of the anomalies. -/
theorem analysis_perm (v₁ v₂ : EventVec) (h : v₁.1.Perm v₂.1) :
    (new v₁).total = (new v₂).total ∧
      (∀ d, (new v₁).breakdown d = (new v₂).breakdown d) ∧
      ((v₁.1.map TransitEvent.seq).Nodup →
        (new v₁).events = (new v₂).events ∧ (new v₁).report = (new v₂).report) ∧
      (new v₁).anomalies.Perm (new v₂).anomalies := by
  refine ⟨total_perm h, breakdown_perm h, ?_, anomalies_perm h⟩
  intro hnodup
  have heq := new_eq_of_nodup h hnodup
  exact ⟨congrArg Analyzer.events heq, congrArg report heq⟩

/-- A warning with a given number. -/
def sampleWarning (seq : UInt64) (code : String) : TransitEvent :=
  { hugeChunk seq .le with kind := .warning code "weak signal" }

/-- Two warnings, delivered out of order: the reports are the same, with the anomalies in the
order of the numbers. -/
theorem analysis_perm_swapped :
    let v₁ : EventVec := ⟨[sampleWarning 0 "rssi", sampleWarning 1 "retry"], by decide⟩
    let v₂ : EventVec := ⟨[sampleWarning 1 "retry", sampleWarning 0 "rssi"], by decide⟩
    (new v₁).total = (new v₂).total ∧
      (∀ d, (new v₁).breakdown d = (new v₂).breakdown d) ∧
      ((v₁.1.map TransitEvent.seq).Nodup →
        (new v₁).events = (new v₂).events ∧ (new v₁).report = (new v₂).report) ∧
      (new v₁).anomalies.Perm (new v₂).anomalies :=
  analysis_perm _ _ (List.Perm.swap _ _ _)

end Analyzer
end Pax
