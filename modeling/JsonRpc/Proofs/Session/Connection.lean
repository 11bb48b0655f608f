import JsonRpc.Session.Connection
import JsonRpc.Proofs.Session.Lifecycle
import JsonRpc.Proofs.Session.Traffic
import JsonRpc.Proofs.Traversal

/-!
# Connecting is building and describing

The choices for a session may be made in any order and as often as one likes.
What counts for a field is the last choice that says anything of it, where a
whole configuration says something of each of its fields.

Connecting then does what `describe` does on the session that the same choices
build.  The two sessions differ in nothing but their reports, and on the reports
nothing depends that a session does.  There are two ways to stop before
anything is sent: the reports do not start, or no description is wanted.
-/

namespace JsonRpc.Session

/-! ## The choice that counts -/

namespace Choice

def timeout? : Choice → Option (Option Duration)
  | .setting (.timeout d) => some (some d)
  | .setting .withoutTimeout => some none
  | .config c => some c.timeout
  | _ => none

def describeOnConnect? : Choice → Option Bool
  | .setting (.describeOnConnect on) => some on
  | .config c => some c.describeOnConnect
  | _ => none

def versionTagging? : Choice → Option Bool
  | .setting (.versionTagging on) => some on
  | .config c => some c.versionTagging
  | _ => none

def serviceName? : Choice → Option String
  | .serviceName name => some name
  | _ => none

def observability? (env : Observability.Environment) : Choice → Option Observability.Config
  | .observability c => some c
  | .defaultObservability => some (.ofEnvironment env)
  | _ => none

def asksForReports : Choice → Bool
  | .observability _ | .defaultObservability => true
  | _ => false

/-- The last value that any of the choices gives. -/
def latest {α : Type} (given : Choice → Option α) (choices : List Choice) : Option α :=
  (choices.filterMap given).getLast?

theorem isSome_latest_observability (env : Observability.Environment) (choices : List Choice) :
    (latest (observability? env) choices).isSome = true ↔
      ∃ choice ∈ choices, choice.asksForReports = true := by
  have hasks : ∀ choice : Choice,
      (∃ c, choice.observability? env = some c) ↔ choice.asksForReports = true := by
    intro choice
    cases choice <;> simp [observability?, asksForReports]
  rw [latest, List.getLast?_isSome, ne_eq, List.filterMap_eq_nil_iff]
  simp only [Classical.not_forall, exists_prop, ← hasks, ← ne_eq, Option.ne_none_iff_exists']

end Choice

open Choice (latest)

namespace Builder

variable {α : Type} {env : Observability.Environment}

/-- A field that every choice sets or keeps has what the latest choice gave it. -/
theorem setAll_eq_or (field : Builder → Option α) {given : Choice → Option α}
    (h : ∀ b choice, field (b.set env choice) = (given choice).or (field b)) (b : Builder)
    (choices : List Choice) :
    field (b.setAll env choices) = (latest given choices).or (field b) := by
  induction choices generalizing b with
  | nil => rfl
  | cons choice rest ih =>
      have hrest : field (b.setAll env (choice :: rest)) =
          (latest given rest).or ((given choice).or (field b)) := by
        rw [← h]
        exact ih (b.set env choice)
      rw [hrest, latest, latest, List.filterMap_cons]
      cases given choice with
      | none => rfl
      | some x =>
          rw [List.getLast?_cons, Option.some_or, Option.some_or, Option.or_some]

theorem setAll_eq_getD (field : Builder → α) {given : Choice → Option α}
    (h : ∀ b choice, field (b.set env choice) = (given choice).getD (field b)) (b : Builder)
    (choices : List Choice) :
    field (b.setAll env choices) = (latest given choices).getD (field b) := by
  have hset : ∀ b choice, some (field (b.set env choice)) =
      (given choice).or (some (field b)) := by
    intro b choice
    rw [h, Option.or_some]
  have hsome := setAll_eq_or (fun b => some (field b)) hset b choices
  rw [Option.or_some] at hsome
  exact Option.some.inj hsome

variable (env) (b : Builder) (choices : List Choice)

theorem destination_setAll : (b.setAll env choices).destination = b.destination := by
  induction choices generalizing b with
  | nil => rfl
  | cons choice rest ih =>
      have hset : (b.set env choice).destination = b.destination := by
        cases choice <;> rfl
      exact (ih (b.set env choice)).trans hset

theorem timeout_setAll : (b.setAll env choices).config.timeout =
    (latest Choice.timeout? choices).getD b.config.timeout := by
  refine setAll_eq_getD (fun b => b.config.timeout) ?_ b choices
  rintro b (s | _ | _ | _ | _)
  · cases s <;> rfl
  all_goals rfl

theorem describeOnConnect_setAll : (b.setAll env choices).config.describeOnConnect =
    (latest Choice.describeOnConnect? choices).getD b.config.describeOnConnect := by
  refine setAll_eq_getD (fun b => b.config.describeOnConnect) ?_ b choices
  rintro b (s | _ | _ | _ | _)
  · cases s <;> rfl
  all_goals rfl

theorem versionTagging_setAll : (b.setAll env choices).config.versionTagging =
    (latest Choice.versionTagging? choices).getD b.config.versionTagging := by
  refine setAll_eq_getD (fun b => b.config.versionTagging) ?_ b choices
  rintro b (s | _ | _ | _ | _)
  · cases s <;> rfl
  all_goals rfl

theorem serviceName_setAll : (b.setAll env choices).serviceName =
    (latest Choice.serviceName? choices).or b.serviceName :=
  setAll_eq_or _ (fun _ choice => by cases choice <;> rfl) b choices

theorem observability_setAll : (b.setAll env choices).observability =
    (latest (Choice.observability? env) choices).or b.observability :=
  setAll_eq_or _ (fun _ choice => by cases choice <;> rfl) b choices

/-- A service name counts for the latest reports that were asked for, wherever it was set. -/
theorem observed?_setAll (destination : String) :
    (setAll env { destination } choices).observed? =
      (latest (Choice.observability? env) choices).map fun c =>
        { c with serviceName := (latest Choice.serviceName? choices).getD c.serviceName } := by
  rw [observed?, observability_setAll, serviceName_setAll, Option.or_none, Option.or_none]
  cases latest Choice.serviceName? choices <;> rfl

end Builder

/-! ## Reports that start -/

/-- The subscriber is what a program can install only once. -/
theorem startFrom_eq_ok_iff {subscribed after : Bool} {env : Observability.Environment}
    {c : Observability.Config} :
    Observability.startFrom subscribed env c = .ok after ↔
      Observability.checkSettings env c = .ok () ∧
        (subscribed = true → c.subscribes = false) ∧ after = (subscribed || c.subscribes) := by
  rw [Observability.startFrom]
  cases Observability.checkSettings env c with
  | error fault => simp [bind, Except.bind]
  | ok _ => cases subscribed <;> cases c.subscribes <;> simp [bind, Except.bind, eq_comm]

theorem Starter.ofEnvironment_eq_ok_iff {subscribed : Bool} {env : Observability.Environment}
    {c : Observability.Config} :
    ofEnvironment subscribed env c = .ok () ↔
      Observability.checkSettings env c = .ok () ∧
        (subscribed = true → c.subscribes = false) := by
  have hstarts : ofEnvironment subscribed env c = .ok () ↔
      ∃ after, Observability.startFrom subscribed env c = .ok after := by
    rw [ofEnvironment]
    cases Observability.startFrom subscribed env c with
    | error fault => exact ⟨nofun, fun ⟨_, h⟩ => nomatch h⟩
    | ok after => exact ⟨fun _ => ⟨after, rfl⟩, fun _ => rfl⟩
  rw [hstarts]
  simp only [startFrom_eq_ok_iff, ← and_assoc, exists_and_left, exists_eq, and_true]

/-! ## What connecting comes to -/

def withMeter (s : Session) (meter : Option String) : Session := { s with meter := meter }

theorem ended_withMeter (s : Session) (meter : Option String) (ending : Option Ending) :
    (s.withMeter meter).ended .describe ending = (s.ended .describe ending).withMeter meter := by
  cases ending with
  | none => rfl
  | some ending =>
      simp only [ended, concluded]
      cases handshake ending <;> rfl

/-- On the name for its metrics nothing depends that a session does. -/
theorem perform_withMeter (s : Session) (meter : Option String) (carry : Carrier) :
    let metered := (s.withMeter meter).perform carry .describe
    let course := s.perform carry .describe
    metered.session = course.session.withMeter meter ∧ metered.handed = course.handed ∧
      metered.ending = course.ending ∧ metered.result = course.result := by
  obtain ⟨report, hcourse⟩ := perform_request (s := s) carry request_describe
  obtain ⟨report', hmetered⟩ := perform_request (s := s.withMeter meter) carry request_describe
  simp only [hcourse, hmetered]
  exact ⟨ended_withMeter s meter _, rfl, rfl, rfl⟩

/-- A session that was given its description is ready and keeps it. -/
theorem ready_of_described {s : Session} {carry : Carrier} {d : Description}
    (h : (s.perform carry .describe).result = some (.ok (.described d))) :
    (s.perform carry .describe).session.state = .ready ∧
      (s.perform carry .describe).session.description = some d := by
  obtain ⟨report, hcourse⟩ := perform_request (s := s) carry request_describe
  rw [hcourse] at h ⊢
  obtain ⟨ending, hending, hverdict⟩ := Option.map_eq_some_iff.mp h
  obtain ⟨d', hhandshake, ⟨⟩⟩ := map_eq_ok_iff.mp hverdict
  simp only [hending, ended, concluded, hhandshake, and_self]

namespace Builder

variable {start : Starter} {b : Builder} (carry : Carrier)

def meter (b : Builder) : Option String := b.observed?.map Observability.Config.serviceName

theorem connect_of_failed {c : Observability.Config} {message : String}
    (hreports : b.observed? = some c) (hstart : start c = .error message) :
    b.connect start carry = ⟨{}, none, none,
      some (.error (.internal ("Failed to initialize observability: " ++ message)))⟩ := by
  have hprepare : b.prepareBy start =
      .error (.internal ("Failed to initialize observability: " ++ message)) := by
    simp only [prepareBy, hreports, hstart]
    rfl
  rw [connect, hprepare]

def Starts (start : Starter) (b : Builder) : Prop := ∀ c, b.observed? = some c → start c = .ok ()

/-- In an environment the reports start whose settings are right, unless they want a subscriber and
the program has one. -/
theorem starts_ofEnvironment_iff {subscribed : Bool} {env : Observability.Environment} :
    b.Starts (.ofEnvironment subscribed env) ↔ ∀ c, b.observed? = some c →
      Observability.checkSettings env c = .ok () ∧ (subscribed = true → c.subscribes = false) := by
  simp only [Starts, Starter.ofEnvironment_eq_ok_iff]

theorem prepareBy_of_starts (h : b.Starts start) :
    ∃ events, b.prepareBy start = .ok (b.build.withMeter b.meter, events) := by
  cases hreports : b.observed? with
  | none =>
      simp only [prepareBy, meter, hreports]
      exact ⟨_, rfl⟩
  | some c =>
      simp only [prepareBy, meter, hreports, h c hreports]
      exact ⟨_, rfl⟩

theorem connect_of_quiet (h : b.Starts start) (hquiet : b.build.config.describeOnConnect = false) :
    ∃ report, b.connect start carry =
      ⟨report, none, none, some (.ok (b.build.withMeter b.meter))⟩ := by
  obtain ⟨events, hprepare⟩ := prepareBy_of_starts h
  have hconfig : (b.build.withMeter b.meter).config.describeOnConnect = false := hquiet
  simp only [connect, hprepare, hconfig]
  exact ⟨_, rfl⟩

theorem connect_of_describing (h : b.Starts start)
    (hasks : b.build.config.describeOnConnect = true) :
    let described := b.build.perform carry .describe
    ∃ report, b.connect start carry = ⟨report, described.handed, described.ending,
      described.result.map fun result => result.map fun _ =>
        described.session.withMeter b.meter⟩ := by
  obtain ⟨events, hprepare⟩ := prepareBy_of_starts h
  have hconfig : (b.build.withMeter b.meter).config.describeOnConnect = true := hasks
  obtain ⟨hsession, hhanded, hending, hresult⟩ := perform_withMeter b.build b.meter carry
  simp only [connect, hprepare, hconfig, hsession, hhanded, hending, hresult]
  exact ⟨_, rfl⟩

theorem connect_eq_ok_iff (h : b.Starts start) (hasks : b.build.config.describeOnConnect = true)
    {s : Session} :
    let described := b.build.perform carry .describe
    (b.connect start carry).result = some (.ok s) ↔
      ∃ d, described.result = some (.ok (.described d)) ∧
        s = described.session.withMeter b.meter ∧ s.state = .ready ∧ s.description = some d := by
  intro described
  obtain ⟨report, hconnect⟩ := connect_of_describing carry h hasks
  rw [hconnect]
  constructor
  · intro hresult
    obtain ⟨result, hdescribed, hmap⟩ := Option.map_eq_some_iff.mp hresult
    obtain ⟨outcome, rfl, rfl⟩ := map_eq_ok_iff.mp hmap
    obtain ⟨d, rfl⟩ := described_of_describe hdescribed
    obtain ⟨hstate, hdescription⟩ := ready_of_described hdescribed
    exact ⟨d, hdescribed, rfl, hstate, hdescription⟩
  · rintro ⟨d, hdescribed, rfl, -, -⟩
    exact Option.map_eq_some_iff.mpr ⟨_, hdescribed, rfl⟩

theorem connect_eq_error_iff (h : b.Starts start)
    (hasks : b.build.config.describeOnConnect = true) {e : RpcError} :
    (b.connect start carry).result = some (.error e) ↔
      (b.build.perform carry .describe).result = some (.error e) := by
  obtain ⟨report, hconnect⟩ := connect_of_describing carry h hasks
  rw [hconnect]
  cases (b.build.perform carry .describe).result with
  | none => simp
  | some result => cases result <;> simp [Except.map]

theorem starts_or_failed (start : Starter) (b : Builder) :
    b.Starts start ∨ ∃ c message, b.observed? = some c ∧ start c = .error message := by
  cases hreports : b.observed? with
  | none => exact .inl fun c hc => absurd (hreports.symm.trans hc) nofun
  | some c =>
      cases hstart : start c with
      | error message => exact .inr ⟨c, message, rfl, hstart⟩
      | ok _ =>
          refine .inl fun c' hc' => ?_
          cases hreports.symm.trans hc'
          exact hstart

theorem settings_of_connect {s : Session} (h : (b.connect start carry).result = some (.ok s)) :
    s.destination = b.destination ∧ s.config = b.config ∧ s.meter = b.meter := by
  rcases starts_or_failed start b with hstarts | ⟨c, message, hreports, hstart⟩
  · cases hasks : b.build.config.describeOnConnect with
    | false =>
        obtain ⟨report, hconnect⟩ := connect_of_quiet carry hstarts hasks
        rw [hconnect] at h
        cases h
        exact ⟨rfl, rfl, rfl⟩
    | true =>
        obtain ⟨report, hconnect⟩ := connect_of_describing carry hstarts hasks
        rw [hconnect] at h
        obtain ⟨result, -, hmap⟩ := Option.map_eq_some_iff.mp h
        obtain ⟨-, -, rfl⟩ := map_eq_ok_iff.mp hmap
        obtain ⟨hdestination, hconfig⟩ := perform_session_settings b.build carry .describe
        exact ⟨hdestination, hconfig, rfl⟩
  · rw [connect_of_failed carry hreports hstart] at h
    cases h

/-- Connecting is building and then describing, whatever choices were made in whatever order: only
the reports come before, and only they make a difference to the session. -/
theorem connect_eq_describe_of_build (env : Observability.Environment) (destination : String)
    (choices : List Choice) (start : Starter) (carry : Carrier) :
    let b := setAll env { destination } choices
    let reports := (latest (Choice.observability? env) choices).map fun c =>
      { c with serviceName := (latest Choice.serviceName? choices).getD c.serviceName }
    let meter := reports.map Observability.Config.serviceName
    let built := b.build
    let described := built.perform carry .describe
    let connected := b.connect start carry
    (built.destination = destination ∧ built.state = .unconnected ∧ built.meter = none ∧
      built.config.timeout = (latest Choice.timeout? choices).getD none ∧
      built.config.describeOnConnect = (latest Choice.describeOnConnect? choices).getD true ∧
      built.config.versionTagging = (latest Choice.versionTagging? choices).getD true) ∧
    (∀ c message, reports = some c → start c = .error message →
      connected.handed = none ∧ connected.result =
        some (.error (.internal ("Failed to initialize observability: " ++ message)))) ∧
    ((∀ c, reports = some c → start c = .ok ()) →
      (built.config.describeOnConnect = false →
        connected.handed = none ∧ connected.result = some (.ok (built.withMeter meter))) ∧
      (built.config.describeOnConnect = true →
        connected.handed =
          some (.call destination built.config.versionTagging describeProcedure []) ∧
        (Message.call destination built.config.versionTagging describeProcedure []).json? =
          some (callObject built.config.versionTagging describeProcedure []) ∧
        connected.ending = described.ending ∧
        (∀ s, connected.result = some (.ok s) ↔
          ∃ d, described.result = some (.ok (.described d)) ∧
            s = described.session.withMeter meter ∧ s.state = .ready ∧ s.description = some d) ∧
        ∀ e, connected.result = some (.error e) ↔ described.result = some (.error e))) ∧
    ∀ s, connected.result = some (.ok s) → s.destination = destination ∧
      s.config = built.config ∧ s.meter = meter ∧
      (s.meter.isSome = true ↔ ∃ choice ∈ choices, choice.asksForReports = true) := by
  intro b reports meter built described connected
  have hreports : b.observed? = reports := observed?_setAll env choices destination
  have hmeter : b.meter = meter := by rw [Builder.meter, hreports]
  have hdestination : built.destination = destination := destination_setAll env _ choices
  refine ⟨⟨hdestination, rfl, rfl, timeout_setAll env _ choices,
    describeOnConnect_setAll env _ choices, versionTagging_setAll env _ choices⟩, ?_, ?_, ?_⟩
  · intro c message hc hstart
    have hconnected : connected = _ := connect_of_failed carry (hreports.trans hc) hstart
    rw [hconnected]
    exact ⟨rfl, rfl⟩
  · intro hstart
    have hstarts : b.Starts start := fun c hc => hstart c (hreports.symm.trans hc)
    constructor
    · intro hquiet
      obtain ⟨report, hconnected⟩ := connect_of_quiet carry hstarts hquiet
      rw [show connected = _ from hconnected, hmeter]
      exact ⟨rfl, rfl⟩
    · intro hasks
      obtain ⟨report, hconnected⟩ := connect_of_describing carry hstarts hasks
      obtain ⟨report', hdescribed⟩ := perform_request (s := built) carry request_describe
      refine ⟨?_, ?_, ?_, fun s => ?_, fun e => connect_eq_error_iff carry hstarts hasks⟩
      · rw [show connected = _ from hconnected, hdescribed, message_call, hdestination]
      · exact Message.asks_call destination _ describeProcedure nofun
      · rw [show connected = _ from hconnected]
      · rw [← hmeter]
        exact connect_eq_ok_iff carry hstarts hasks
  · intro s hresult
    obtain ⟨hs, hconfig, hname⟩ := settings_of_connect carry hresult
    refine ⟨hs.trans hdestination, hconfig, hname.trans hmeter, ?_⟩
    rw [hname, hmeter, ← Choice.isSome_latest_observability env, Option.isSome_map,
      Option.isSome_map]

/-- Reports that start for one service name only, and settings of which the first ones do not
last. -/
theorem connect_of_overridden_choices :
    let choices : List Choice := [.setting (.timeout (.milliseconds 5)),
      .setting (.versionTagging true), .config { versionTagging := false },
      .defaultObservability, .setting (.timeout (.milliseconds 7))]
    let start : Starter := fun c =>
      if c.serviceName = "client" then .ok () else .error "no such service"
    let carry : Carrier := fun _ => some (.delivered emptyService)
    let refused := (setAll [] { destination := "q" } choices).connect start carry
    let connected :=
      (setAll [] { destination := "q" } (.serviceName "client" :: choices)).connect start carry
    (refused.handed = none ∧ refused.result =
      some (.error (.internal "Failed to initialize observability: no such service"))) ∧
    (∃ message, connected.handed = some message ∧ message.destination = "q" ∧
      message.expectsReply = true ∧ message.json? = some (.obj [("id", .null),
        ("method", .str "system.describe"), ("params", .arr [])])) ∧
      ∃ s, connected.result = some (.ok s) ∧ s.state = .ready ∧
        s.description = some (.ofProcedures []) ∧ s.config = ⟨some (.milliseconds 7), true, false⟩ ∧
        s.meter = some "client" := by
  intro choices start carry refused connected
  have hjrmt : start { Observability.Config.ofEnvironment [] with serviceName := "jrmt" } =
      .error "no such service" := if_neg (by decide)
  have hclient : start { Observability.Config.ofEnvironment [] with serviceName := "client" } =
      .ok () := if_pos rfl
  let built : Session := .new "q" ⟨some (.milliseconds 7), true, false⟩ none
  have hdescribed : (built.perform carry .describe).result =
      some (.ok (.described (.ofProcedures []))) := by
    obtain ⟨report, hcourse⟩ := perform_request (s := built) carry request_describe
    rw [hcourse, Option.map_some, verdict, handshake_emptyService]
    rfl
  -- Nothing else has to be known of the transport.
  clear_value carry
  obtain ⟨-, hrefused, -, -⟩ := connect_eq_describe_of_build [] "q" choices start carry
  obtain ⟨-, -, hstarted, hsettings⟩ :=
    connect_eq_describe_of_build [] "q" (.serviceName "client" :: choices) start carry
  have hstarts := hstarted fun c hc => by
    cases hc
    exact hclient
  obtain ⟨hhanded, hread, -, hok, -⟩ := hstarts.2 rfl
  obtain ⟨hstate, hdescription⟩ := ready_of_described hdescribed
  have hresult := (hok _).mpr ⟨_, hdescribed, rfl, hstate, hdescription⟩
  obtain ⟨-, hconfig, hmeter, -⟩ := hsettings _ hresult
  exact ⟨hrefused _ _ rfl hjrmt, ⟨_, hhanded, rfl, rfl, hread⟩, _, hresult, hstate, hdescription,
    hconfig, hmeter⟩

end Builder

end JsonRpc.Session
