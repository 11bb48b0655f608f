import JsonRpc.Session.Metrics
import Mathlib

/-!
# What metrics add up to

A reading goes to the series it belongs to, wherever that stands and whether or
not it is there already.  So the order of the series does not matter: for every
instrument but the state, what the series of a service have in sum grows by what
is recorded.  The state is a gauge, and shows what was recorded last.
-/

namespace JsonRpc.Session

/-- The reading is one of this service, with this instrument and such attributes. -/
def Point.counts (service : String) (i : Instrument) (A : List (String × String) → Bool)
    (p : Point) : Bool :=
  p.service == service && p.instrument == i && A p.attributes

def Point.gauge (service : String) : Point := ⟨service, .state, [], 0⟩

namespace Metrics

/-- What the readings of a service have in sum, with this instrument and such attributes. -/
def total (m : Metrics) (service : String) (i : Instrument)
    (A : List (String × String) → Bool) : Nat :=
  ((m.filter (Point.counts service i A)).map Point.value).sum

def gauge? (m : Metrics) (service : String) : Option Nat :=
  (m.find? fun p => p.sameSeries (.gauge service)).map Point.value

end Metrics

section

variable {p q : Point}

theorem Point.sameSeries_iff :
    p.sameSeries q = true ↔
      p.service = q.service ∧ p.instrument = q.instrument ∧ p.attributes = q.attributes := by
  simp only [sameSeries, Bool.and_eq_true, beq_iff_eq, and_assoc]

theorem Point.sameSeries_congr {r : Point} (h : p.sameSeries q = true) :
    p.sameSeries r = q.sameSeries r := by
  obtain ⟨hservice, hinstrument, hattributes⟩ := sameSeries_iff.mp h
  simp only [sameSeries, hservice, hinstrument, hattributes]

theorem Point.sameSeries_comm (p q : Point) : p.sameSeries q = q.sameSeries p := by
  rw [Bool.eq_iff_iff, sameSeries_iff, sameSeries_iff]
  simp only [eq_comm]

theorem Point.sameSeries_add (h : p.sameSeries q = true) : (p.add q).sameSeries q = true := by
  rw [add]
  split
  · exact sameSeries_iff.mpr ⟨rfl, rfl, rfl⟩
  · exact h

end

theorem Measurement.instrument_ne_state {service : String} {measurement : Measurement}
    (h : ∀ state, measurement ≠ .state state) {reading : Point}
    (hreading : reading ∈ measurement.readings service) : reading.instrument ≠ .state := by
  cases measurement with
  | state state => exact absurd rfl (h state)
  | call method succeeded =>
      simp only [readings, List.mem_cons, List.not_mem_nil, or_false] at hreading
      rcases hreading with rfl | rfl
      · exact Instrument.noConfusion
      · exact Instrument.noConfusion
  | notification | error | handshake =>
      cases List.mem_singleton.mp hreading
      exact Instrument.noConfusion

section

variable {service : String} {i : Instrument} {A : List (String × String) → Bool}

theorem Point.counts_congr {p q : Point} (h : p.sameSeries q = true) :
    p.counts service i A = q.counts service i A := by
  obtain ⟨hservice, hinstrument, hattributes⟩ := sameSeries_iff.mp h
  simp only [counts, hservice, hinstrument, hattributes]

theorem Point.instrument_of_counts {p : Point} (h : p.counts service i A = true) :
    p.instrument = i := by
  simp only [counts, Bool.and_eq_true, beq_iff_eq] at h
  exact h.1.2

namespace Metrics

@[simp] theorem total_nil : total [] service i A = 0 := rfl

theorem total_cons (p : Point) (m : Metrics) :
    total (p :: m) service i A =
      (if p.counts service i A then p.value else 0) + m.total service i A := by
  unfold total
  rw [List.filter_cons]
  split <;> simp

theorem total_append (m m' : Metrics) :
    total (m ++ m') service i A = m.total service i A + m'.total service i A := by
  unfold total
  rw [List.filter_append, List.map_append, List.sum_append]

theorem total_record (hi : i ≠ .state) (m : Metrics) (reading : Point) :
    (m.record reading).total service i A =
      m.total service i A + if reading.counts service i A then reading.value else 0 := by
  induction m with
  | nil => simp only [record, total_cons, total_nil, Nat.add_zero, Nat.zero_add]
  | cons p m ih =>
      by_cases hsame : p.sameSeries reading
      · have hcounts : p.counts service i A = reading.counts service i A :=
          Point.counts_congr hsame
        have hadd : (p.add reading).counts service i A = reading.counts service i A :=
          Point.counts_congr (Point.sameSeries_add hsame)
        simp only [record, hsame, if_true, total_cons, hcounts, hadd]
        by_cases hreading : reading.counts service i A
        · have hinstrument : p.instrument ≠ .state := by
            rw [Point.instrument_of_counts (hcounts.trans hreading)]
            exact hi
          simp only [hreading, if_true, Point.add, if_neg hinstrument]
          omega
        · simp only [hreading, if_false, Nat.add_zero, Bool.false_eq_true]
      · simp only [record, hsame, Bool.false_eq_true, if_false, total_cons, ih]
        omega

/-- Readings add what they have in sum themselves. -/
theorem total_foldl_record (hi : i ≠ .state) (m : Metrics) (readings : List Point) :
    (readings.foldl record m).total service i A =
      m.total service i A + total readings service i A := by
  induction readings generalizing m with
  | nil => rfl
  | cons reading readings ih =>
      rw [List.foldl_cons, ih, total_record hi, total_cons]
      omega

theorem total_recordAll (hi : i ≠ .state) (m : Metrics) (measurements : List Measurement) :
    (m.recordAll service measurements).total service i A =
      m.total service i A +
        total (measurements.flatMap (Measurement.readings service)) service i A :=
  total_foldl_record hi m _

theorem recordAll_append (m : Metrics) (service : String) (first second : List Measurement) :
    m.recordAll service (first ++ second) =
      (m.recordAll service first).recordAll service second := by
  unfold recordAll
  rw [List.flatMap_append, List.foldl_append]

def Distinct (m : Metrics) : Prop := m.Pairwise fun p q => p.sameSeries q = false

theorem sameSeries_record {m : Metrics} {p reading : Point}
    (hm : ∀ q ∈ m, p.sameSeries q = false) (hreading : p.sameSeries reading = false) :
    ∀ q ∈ m.record reading, p.sameSeries q = false := by
  induction m with
  | nil => exact List.forall_mem_singleton.mpr hreading
  | cons first m ih =>
      obtain ⟨hfirst, hrest⟩ := List.forall_mem_cons.mp hm
      rw [record]
      split
      · next hsame =>
          refine List.forall_mem_cons.mpr ⟨?_, hrest⟩
          rw [Point.sameSeries_comm, Point.sameSeries_congr (Point.sameSeries_add hsame),
            Point.sameSeries_comm]
          exact hreading
      · exact List.forall_mem_cons.mpr ⟨hfirst, ih hrest⟩

theorem Distinct.record {m : Metrics} (h : m.Distinct) (reading : Point) :
    (m.record reading).Distinct := by
  induction m with
  | nil => exact List.pairwise_singleton _ _
  | cons p m ih =>
      obtain ⟨hp, hm⟩ := List.pairwise_cons.mp h
      rw [Metrics.record]
      split
      · next hsame =>
          -- The series keeps its place, and stays what it was for all others.
          refine List.pairwise_cons.mpr ⟨?_, hm⟩
          intro q hq
          rw [Point.sameSeries_congr (Point.sameSeries_add hsame), ← Point.sameSeries_congr hsame]
          exact hp q hq
      · next hother =>
          have hreading : p.sameSeries reading = false := Bool.eq_false_iff.mpr hother
          exact List.pairwise_cons.mpr ⟨sameSeries_record hp hreading, ih hm⟩

theorem Distinct.recordAll {m : Metrics} (h : m.Distinct) (service : String)
    (measurements : List Measurement) : (m.recordAll service measurements).Distinct := by
  rw [Metrics.recordAll]
  generalize measurements.flatMap (Measurement.readings service) = readings
  induction readings generalizing m with
  | nil => exact h
  | cons reading readings ih => exact ih (h.record reading)

theorem gauge?_record (m : Metrics) (reading : Point) :
    (m.record reading).gauge? service =
      if reading.sameSeries (.gauge service) then some reading.value else m.gauge? service := by
  unfold gauge?
  induction m with
  | nil =>
      rw [record, List.find?_cons]
      cases reading.sameSeries (.gauge service) <;> rfl
  | cons p m ih =>
      by_cases hsame : p.sameSeries reading
      · have hp := Point.sameSeries_congr (r := .gauge service) hsame
        have hadd := Point.sameSeries_congr (r := .gauge service) (Point.sameSeries_add hsame)
        rw [record, if_pos hsame, List.find?_cons, List.find?_cons, hadd, hp]
        cases hgauge : reading.sameSeries (.gauge service) with
        | false => rfl
        | true =>
            have hinstrument : p.instrument = .state :=
              (Point.sameSeries_iff.mp (hp.trans hgauge)).2.1
            simp only [Point.add, hinstrument, if_true, Option.map_some]
      · rw [record, if_neg hsame, List.find?_cons, List.find?_cons]
        cases hp : p.sameSeries (.gauge service) with
        | false => exact ih
        | true =>
            -- The gauge is found before the reading, so the reading is none of the state.
            have hreading : ¬reading.sameSeries (.gauge service) = true := by
              intro hreading
              obtain ⟨hs, hi, ha⟩ := Point.sameSeries_iff.mp hp
              obtain ⟨hs', hi', ha'⟩ := Point.sameSeries_iff.mp hreading
              exact hsame (Point.sameSeries_iff.mpr
                ⟨hs.trans hs'.symm, hi.trans hi'.symm, ha.trans ha'.symm⟩)
            rw [if_neg hreading]

theorem gauge?_recordAll_state (m : Metrics) (measurements : List Measurement) (state : State) :
    (m.recordAll service (measurements ++ [.state state])).gauge? service =
      some state.metric := by
  have hsame : Point.sameSeries ⟨service, .state, [], state.metric⟩ (.gauge service) = true :=
    Point.sameSeries_iff.mpr ⟨rfl, rfl, rfl⟩
  rw [recordAll_append]
  change ((m.recordAll service measurements).record
    ⟨service, .state, [], state.metric⟩).gauge? service = _
  rw [gauge?_record, if_pos hsame]

theorem gauge?_recordAll_of_forall {measurements : List Measurement}
    (h : ∀ measurement ∈ measurements, ∀ state, measurement ≠ .state state) (m : Metrics) :
    (m.recordAll service measurements).gauge? service = m.gauge? service := by
  have hreadings : ∀ reading ∈ measurements.flatMap (Measurement.readings service),
      reading.instrument ≠ .state := by
    intro reading hreading
    obtain ⟨measurement, hmem, hreading⟩ := List.mem_flatMap.mp hreading
    exact Measurement.instrument_ne_state (h measurement hmem) hreading
  unfold recordAll
  generalize measurements.flatMap (Measurement.readings service) = readings at hreadings
  induction readings generalizing m with
  | nil => rfl
  | cons reading readings ih =>
      obtain ⟨hreading, hrest⟩ := List.forall_mem_cons.mp hreadings
      have hother : ¬reading.sameSeries (.gauge service) = true := by
        intro hsame
        exact hreading (Point.sameSeries_iff.mp hsame).2.1
      rw [List.foldl_cons, ih _ hrest, gauge?_record, if_neg hother]

end Metrics

end

end JsonRpc.Session
