import JsonRpc.Session.Builder
import JsonRpc.Proofs.Session.Course

/-!
# The life of a session

A session remembers how far it has come and what its service said of itself.
Both are written by `describe` only, at its start and at its end, and an
operation may fail or be given up at any point in between.  What they are after
any sequence of operations depends on nothing but the latest `describe`: on
whether there was one, whether it came to its end, and what it gave back.

`Settled` says which state and which description belong to the course of the
latest `describe`.  It holds when a session is opened, one operation preserves
it, and so it holds after every run.
-/

namespace JsonRpc.Session

/-- The operations of a run, each with its course. -/
abbrev Log := List (Operation × Course)

/-- A step of a run: an operation, and what the transport makes of its message. -/
structure Step where
  operation : Operation
  carry : Carrier

def courses (s : Session) : List Step → Log
  | [] => []
  | step :: steps =>
    let course := s.perform step.carry step.operation
    (step.operation, course) :: courses course.session steps

def after (s : Session) : List Step → Session
  | [] => s
  | step :: steps => (s.perform step.carry step.operation).session.after steps

/-- The course of a `describe`; other operations do not count. -/
def describeCourse? : Operation × Course → Option Course
  | (.describe, course) => some course
  | _ => none

def latestDescribe (log : Log) : Option Course := log.reverse.findSome? describeCourse?

/-- The ways in which a session is opened in a program that starts its reports like this, each with
the log of its opening.  Where connecting a session asks for a description that does not come, no
session is opened. -/
inductive Opened (start : Starter) : Session → Log → Prop where
  | new (destination : String) (config : Config) (meter : Option String) :
      Opened start (.new destination config meter) []
  | built (b : Builder) : Opened start b.build []
  | connected {b : Builder} {s : Session} {events : List Event}
      (hprepare : b.prepareBy start = .ok (s, events))
      (hquiet : s.config.describeOnConnect = false) :
      Opened start s []
  | described {b : Builder} {s : Session} {events : List Event} {carry : Carrier}
      {d : Description} (hprepare : b.prepareBy start = .ok (s, events))
      (hasks : s.config.describeOnConnect = true)
      (hresult : (s.perform carry .describe).result = some (.ok (.described d))) :
      Opened start (s.perform carry .describe).session [(.describe, s.perform carry .describe)]

/-- The state and the description that belong to the latest `describe`. -/
inductive Settled : Option Course → State → Option Description → Prop where
  | untouched : Settled none .unconnected none
  | waiting {c : Course} (hending : c.ending = none) (hresult : c.result = none) :
      Settled (some c) .describing none
  | failed {c : Course} {ending : Ending} {e : RpcError} (hending : c.ending = some ending)
      (hhandshake : handshake ending = .error e) (hresult : c.result = some (.error e)) :
      Settled (some c) .failed none
  | ready {c : Course} {ending : Ending} {d : Description} (hending : c.ending = some ending)
      (hhandshake : handshake ending = .ok d)
      (hresult : c.result = some (.ok (.described d))) :
      Settled (some c) .ready (some d)

def SettledBy (s : Session) (log : Log) : Prop :=
  Settled (latestDescribe log) s.state s.description

theorem handshake_eq_ok_iff {ending : Ending} {d : Description} :
    handshake ending = .ok d ↔ ∃ reply v, ending = .delivered reply ∧
      Reply.resultOfOctets reply = .ok v ∧ Description.ofJson v = .ok d := by
  constructor
  · intro h
    cases ending with
    | delivered reply =>
        rw [handshake, callResult] at h
        cases hreply : Reply.resultOfOctets reply with
        | ok v =>
            rw [hreply] at h
            exact ⟨reply, v, rfl, hreply, h⟩
        | error e =>
            rw [hreply] at h
            cases h
    | failed fault => cases h
    | expired => cases h
  · rintro ⟨reply, v, rfl, hreply, hv⟩
    rw [handshake, callResult, hreply]
    exact hv

theorem handshake_eq_error_iff {ending : Ending} {e : RpcError} :
    handshake ending = .error e ↔ callResult ending = .error e ∨
      ∃ v, callResult ending = .ok v ∧ Description.ofJson v = .error e := by
  rw [handshake]
  cases callResult ending with
  | ok v => simp [Except.bind]
  | error fault => simp [Except.bind]

/-! ## Logs -/

theorem describeCourse?_of_ne {op : Operation} (h : op ≠ .describe) (course : Course) :
    describeCourse? (op, course) = none := by
  cases op with
  | describe => exact absurd rfl h
  | _ => rfl

theorem latestDescribe_append_describe (log : Log) (course : Course) :
    latestDescribe (log ++ [(.describe, course)]) = some course := by
  rw [latestDescribe, List.reverse_concat, List.findSome?_cons]
  rfl

theorem latestDescribe_append_of_ne {op : Operation} (h : op ≠ .describe) (log : Log)
    (course : Course) :
    latestDescribe (log ++ [(op, course)]) = latestDescribe log := by
  rw [latestDescribe, List.reverse_concat, List.findSome?_cons, describeCourse?_of_ne h]
  rfl

theorem describeCourse?_eq_none_iff {entry : Operation × Course} :
    describeCourse? entry = none ↔ entry.1 ≠ .describe := by
  constructor
  · rintro h hop
    obtain ⟨op, course⟩ := entry
    cases hop
    cases h
  · intro hop
    exact describeCourse?_of_ne hop entry.2

theorem latestDescribe_eq_none_iff {log : Log} :
    latestDescribe log = none ↔ ∀ entry ∈ log, entry.1 ≠ .describe := by
  rw [latestDescribe, List.findSome?_eq_none_iff]
  simp only [List.mem_reverse, describeCourse?_eq_none_iff]

/-! ## The invariant -/

theorem settledBy_new (destination : String) (config : Config) (meter : Option String) :
    (new destination config meter).SettledBy [] :=
  .untouched

/-- One operation preserves the invariant. -/
theorem SettledBy.perform {s : Session} {log : Log} (h : s.SettledBy log) (carry : Carrier)
    (op : Operation) :
    (s.perform carry op).session.SettledBy (log ++ [(op, s.perform carry op)]) := by
  by_cases hop : op = .describe
  · -- Whatever the session was before, a `describe` settles it anew.
    subst hop
    rw [SettledBy, latestDescribe_append_describe]
    have hshape := shape_perform s carry .describe
    generalize s.perform carry .describe = course at hshape
    cases hshape with
    | rejected report hrequest => cases hrequest
    | abandoned => exact .waiting rfl rfl
    | @concluded r ending report =>
        cases hhandshake : handshake ending with
        | ok d =>
            simp only [Session.concluded, verdict, hhandshake]
            exact .ready rfl hhandshake rfl
        | error e =>
            simp only [Session.concluded, verdict, hhandshake]
            exact .failed rfl hhandshake rfl
  · rw [SettledBy, latestDescribe_append_of_ne hop, perform_session_of_ne_describe hop]
    exact h

/-- A run preserves the invariant. -/
theorem SettledBy.after {s : Session} {log : Log} (h : s.SettledBy log) (steps : List Step) :
    (s.after steps).SettledBy (log ++ s.courses steps) := by
  -- Each step moves one course to the log, so both the session and the log vary.
  induction steps generalizing s log with
  | nil =>
      rw [courses, List.append_nil]
      exact h
  | cons step steps ih =>
      have hlog : log ++ s.courses (step :: steps) =
          log ++ [(step.operation, s.perform step.carry step.operation)] ++
            (s.perform step.carry step.operation).session.courses steps := by
        rw [courses, List.append_assoc, List.singleton_append]
      rw [hlog]
      exact ih (h.perform step.carry step.operation)

theorem prepareBy_session {start : Starter} {b : Builder} {s : Session} {events : List Event}
    (h : b.prepareBy start = .ok (s, events)) :
    ∃ meter, s = .new b.destination b.config meter := by
  rw [Builder.prepareBy] at h
  split at h
  · cases h
    exact ⟨none, rfl⟩
  · split at h
    · cases h
      exact ⟨_, rfl⟩
    · cases h

theorem Opened.settledBy {start : Starter} {s : Session} {log : Log} (h : Opened start s log) :
    s.SettledBy log := by
  cases h with
  | new destination config meter => exact settledBy_new destination config meter
  | built b => exact settledBy_new b.destination b.config none
  | connected hprepare =>
      obtain ⟨meter, rfl⟩ := prepareBy_session hprepare
      exact settledBy_new _ _ meter
  | described hprepare =>
      obtain ⟨meter, rfl⟩ := prepareBy_session hprepare
      exact (settledBy_new _ _ meter).perform _ .describe

/-! ## What the invariant says -/

section

variable {latest : Option Course} {state : State} {description : Option Description}

theorem Settled.isSome_iff (h : Settled latest state description) :
    description.isSome = true ↔ state = .ready := by
  cases h <;> simp

theorem Settled.description_iff (h : Settled latest state description) {d : Description} :
    description = some d ↔ ∃ course reply v, latest = some course ∧
      course.ending = some (.delivered reply) ∧ Reply.resultOfOctets reply = .ok v ∧
      Description.ofJson v = .ok d := by
  -- A handshake with the ending of the latest `describe` is all that counts.
  have hdelivered : (∃ course reply v, latest = some course ∧
      course.ending = some (.delivered reply) ∧ Reply.resultOfOctets reply = .ok v ∧
      Description.ofJson v = .ok d) ↔
      ∃ course ending, latest = some course ∧ course.ending = some ending ∧
        handshake ending = .ok d := by
    constructor
    · rintro ⟨course, reply, v, hlatest, hending, hreply, hv⟩
      exact ⟨course, .delivered reply, hlatest, hending,
        handshake_eq_ok_iff.mpr ⟨reply, v, rfl, hreply, hv⟩⟩
    · rintro ⟨course, ending, hlatest, hending, h⟩
      obtain ⟨reply, v, rfl, hreply, hv⟩ := handshake_eq_ok_iff.mp h
      exact ⟨course, reply, v, hlatest, hending, hreply, hv⟩
  rw [hdelivered]
  cases h with
  | untouched => simp
  | waiting hending => simp [hending]
  | failed hending hhandshake => simp [hending, hhandshake]
  | ready hending hhandshake => simp [hending, hhandshake]

theorem Settled.unconnected_iff (h : Settled latest state description) :
    state = .unconnected ↔ latest = none := by
  cases h <;> simp

theorem Settled.describing_iff (h : Settled latest state description) :
    state = .describing ↔ ∃ course, latest = some course ∧ course.result = none := by
  cases h with
  | untouched => simp
  | waiting _ hresult => simp [hresult]
  | failed _ _ hresult => simp [hresult]
  | ready _ _ hresult => simp [hresult]

theorem Settled.failed_iff (h : Settled latest state description) :
    state = .failed ↔ ∃ course e, latest = some course ∧ course.result = some (.error e) := by
  cases h with
  | untouched => simp
  | waiting _ hresult => simp [hresult]
  | failed _ _ hresult => simp [hresult]
  | ready _ _ hresult => simp [hresult]

theorem Settled.error_origin (h : Settled latest state description) {course : Course}
    {e : RpcError} (hlatest : latest = some course) (herror : course.result = some (.error e)) :
    ∃ ending, course.ending = some ending ∧ (callResult ending = .error e ∨
      ∃ v, callResult ending = .ok v ∧ Description.ofJson v = .error e) := by
  subst hlatest
  cases h with
  | waiting _ hresult =>
      rw [hresult] at herror
      cases herror
  | failed hending hhandshake hresult =>
      rw [hresult] at herror
      cases herror
      exact ⟨_, hending, handshake_eq_error_iff.mp hhandshake⟩
  | ready _ _ hresult =>
      rw [hresult] at herror
      cases herror

end

/-- State and description of a session after any run, told from the latest `describe`; and no
other operation touches them. -/
theorem lifecycle_of_opened {start : Starter} {s : Session} {opening : Log}
    (hopen : Opened start s opening) (steps : List Step) :
    let log := opening ++ s.courses steps
    let now := s.after steps
    (now.description.isSome = true ↔ now.state = .ready) ∧
    (∀ d, now.description = some d ↔ ∃ course reply v, latestDescribe log = some course ∧
      course.ending = some (.delivered reply) ∧ Reply.resultOfOctets reply = .ok v ∧
      Description.ofJson v = .ok d) ∧
    (now.state = .unconnected ↔ ∀ entry ∈ log, entry.1 ≠ .describe) ∧
    (now.state = .describing ↔
      ∃ course, latestDescribe log = some course ∧ course.result = none) ∧
    (now.state = .failed ↔
      ∃ course e, latestDescribe log = some course ∧ course.result = some (.error e)) ∧
    (∀ course e, latestDescribe log = some course → course.result = some (.error e) →
      ∃ ending, course.ending = some ending ∧ (callResult ending = .error e ∨
        ∃ v, callResult ending = .ok v ∧ Description.ofJson v = .error e)) ∧
    (∀ op carry, op ≠ .describe → (now.perform carry op).session = now) := by
  intro log now
  have hsettled : Settled (latestDescribe log) now.state now.description :=
    hopen.settledBy.after steps
  refine ⟨hsettled.isSome_iff, fun _ => hsettled.description_iff, ?_, hsettled.describing_iff,
    hsettled.failed_iff, fun _ _ => hsettled.error_origin, ?_⟩
  · rw [hsettled.unconnected_iff, latestDescribe_eq_none_iff]
  · intro op carry hop
    exact perform_session_of_ne_describe hop carry

def emptyService : Octets := .ofString "\x7b\"result\":\x7b\"procs\":[]\x7d\x7d"

theorem handshake_emptyService :
    handshake (.delivered emptyService) = .ok (.ofProcedures []) := by
  have hparts : (handshake (.delivered emptyService)).toOption = some (.ofProcedures []) := by
    decide +kernel
  cases hhandshake : handshake (.delivered emptyService) with
  | ok d =>
      rw [hhandshake] at hparts
      rw [Option.some.inj hparts]
  | error e =>
      rw [hhandshake] at hparts
      cases hparts

/-- A session that was connected and is observed has lost the description that it had when it gives
up a second `describe`. -/
theorem lifecycle_of_redescribed :
    let start : Starter := .ofEnvironment false []
    let connected := (new "calculator" {} (some "jrmt")).perform
      (fun _ => some (.delivered emptyService)) .describe
    let again : List Step := [⟨.describe, fun _ => none⟩]
    Opened start connected.session [(.describe, connected)] ∧
      connected.session.meter = some "jrmt" ∧
      connected.session.description = some (.ofProcedures []) ∧
      (connected.session.after again).state = .describing ∧
      (connected.session.after again).description = none := by
  intro start connected again
  obtain ⟨report, hconnected⟩ := perform_request (s := new "calculator" {} (some "jrmt"))
    (fun _ => some (.delivered emptyService)) request_describe
  have hresult : connected.result = some (.ok (.described (.ofProcedures []))) := by
    rw [show connected = _ from hconnected, Option.map_some, verdict, handshake_emptyService]
    rfl
  have hopen : Opened start connected.session [(.describe, connected)] :=
    .described (b := ⟨"calculator", {}, some (.ofEnvironment []), none⟩) rfl rfl hresult
  have hnow := lifecycle_of_opened hopen again
  refine ⟨hopen, ?_, ?_, ?_, ?_⟩
  · rw [show connected = _ from hconnected]
    simp only [ended, concluded, handshake_emptyService]
    rfl
  · rw [show connected = _ from hconnected]
    simp only [ended, concluded, handshake_emptyService]
  · exact hnow.2.2.2.1.mpr ⟨_, rfl, rfl⟩
  · rfl

end JsonRpc.Session
