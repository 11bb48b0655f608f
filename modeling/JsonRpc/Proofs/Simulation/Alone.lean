import JsonRpc.Simulation.Clock
import JsonRpc.Session.Connection
import JsonRpc.Session.Conversation
import JsonRpc.Proofs.Session.Balance
import JsonRpc.Proofs.Session.Traffic

/-!
# Operations that are alone in a simulation

A simulation starts operations together, lets them wait under its clock and
concludes them in the order of their endings.  For an operation that is started
alone nothing of this order remains: what the simulation makes of it is the
course of the operation, over a transport that knows the ending beforehand.
Unless the script of the peer makes the transport fail, it is also one step of
a conversation over the transport of the simulation.
-/

namespace JsonRpc

/-- A clock has counted the ticks of a time exactly when the time has passed. -/
theorem Duration.ticks_le_iff {d : Duration} {ms : Nat} :
    d.ticks ≤ ms ↔ d.nanos ≤ (milliseconds ms).nanos := by
  simp only [ticks, milliseconds]
  omega

theorem Duration.ticks_milliseconds (ms : Nat) : (milliseconds ms).ticks = ms := by
  simp only [ticks, milliseconds]
  omega

end JsonRpc

namespace JsonRpc.Simulation

open Conversation (Wait)

/-- The ending that a simulation waits for, unless it comes too late. -/
def inTime? (timed : Option (Nat × Ending)) : Option Ending :=
  (timed.filter fun (ms, _) => ms ≤ patience).map Prod.snd

theorem inTime?_of_le {ms : Nat} {ending : Ending} (h : ms ≤ patience) :
    inTime? (some (ms, ending)) = some ending := by
  simp [inTime?, Option.filter, h]

theorem inTime?_of_not_le {ms : Nat} {ending : Ending} (h : ¬ms ≤ patience) :
    inTime? (some (ms, ending)) = none := by
  simp [inTime?, Option.filter, h]

def Arrival.ending? (timeout : Option Nat) (interruption : Option Interruption) :
    Arrival → Option Ending
  | .now ending => some ending
  | arrival => inTime? (World.ending? timeout interruption arrival)

def Interruption.close (m : Memory) (interruption : Option Interruption) : Memory :=
  match interruption.filter fun i => i.after ≤ patience with
  | some i => m.shutDown i.reason
  | none => m

namespace World

variable {w : World} {s : Session} {op : Operation} {interruption : Option Interruption}

/-- Where an operation that is alone has come to when everything that waits is finished. -/
def Progress.alone (w : World) (s : Session) (op : Operation)
    (interruption : Option Interruption) : Progress :=
  let started := Progress.start interruption ⟨w, s, [], []⟩ (op, 0)
  (started.waiting.mergeSort fun a b => a.time ≤ b.time).foldl Progress.finish started

theorem perform_alone (w : World) (s : Session) (op : Operation)
    (interruption : Option Interruption) :
    let done := w.perform s [op] interruption
    let p := Progress.alone w s op interruption
    done.1.memory = Interruption.close p.world.memory interruption ∧ done.2.1 = p.session ∧
      done.2.2.results = [p.results.lookup 0] ∧ done.1.metrics = p.world.metrics :=
  ⟨rfl, rfl, rfl, rfl⟩

theorem metrics_report (w : World) (s : Session) (r : Report) :
    (w.report s r).metrics = s.recorded w.metrics r := rfl

theorem metrics_deliver (w : World) (s : Session) (r : Request) :
    (w.deliver s r).1.metrics = w.metrics := by
  simp only [deliver]
  split <;> rfl

theorem alone_rejected (w : World) (interruption : Option Interruption) {e : RpcError}
    (h : s.request op = .error e) :
    let p := Progress.alone w s op interruption
    p.world.memory = w.memory ∧ p.session = s ∧ p.results.lookup 0 = some (.error e) ∧
      p.world.metrics = s.recorded w.metrics (s.start op).report := by
  have hop : op ≠ .describe := by
    rintro rfl
    cases h
  simp only [Progress.alone, Progress.start, Session.start_session, Session.start_request, h,
    Session.started_of_ne_describe hop, List.mergeSort_nil, List.foldl_nil]
  exact ⟨rfl, trivial, rfl, rfl⟩

/-- What is reported at the start and at the end is what the course reports. -/
theorem metrics_concluded {r : Request} {ending : Ending} {m : Session.Metrics} {report : Report}
    {result : Except RpcError Outcome} (hm : w.metrics = s.recorded m (s.start op).report)
    (hconclude : (s.started op).conclude op r ending = (s.concluded op ending, report, result)) :
    (w.report (s.concluded op ending) report).metrics =
      s.recorded m (s.reported op r (some ending)) := by
  rw [metrics_report, Session.reported, Session.recorded_append, hconclude, hm,
    Session.recorded_congr (Session.concluded_meter ending)]

theorem finish_alone {r : Request} (h : s.request op = .ok r) (timed : Option (Nat × Ending))
    {m : Session.Metrics} (hm : w.metrics = s.recorded m (s.start op).report) :
    let p := Progress.finish ⟨w, s.started op, [], [⟨0, op, r, timed⟩]⟩ ⟨0, op, r, timed⟩
    p.world.memory = w.memory ∧ p.session = s.ended op (inTime? timed) ∧
      p.results.lookup 0 = (inTime? timed).map (Session.verdict op r) ∧
      p.world.metrics = s.recorded m (s.reported op r (inTime? timed)) := by
  simp only [Progress.finish, Waiting.end?, inTime?]
  cases timed.filter fun (ms, _) => ms ≤ patience with
  | none => exact ⟨rfl, rfl, rfl, hm⟩
  | some timed =>
      obtain ⟨ms, ending⟩ := timed
      obtain ⟨report, hconclude⟩ := Session.conclude_started h ending
      simp only [Progress.conclude, hconclude]
      exact ⟨rfl, rfl, rfl, metrics_concluded hm hconclude⟩

theorem alone_request (interruption : Option Interruption) {r : Request}
    (h : s.request op = .ok r) {w' : World} {arrival : Arrival}
    (hdeliver : (w.report (s.started op) (s.start op).report).deliver (s.started op) r =
      (w', arrival)) :
    let p := Progress.alone w s op interruption
    let ending? := arrival.ending? s.config.limit? interruption
    p.world.memory = w'.memory ∧ p.session = s.ended op ending? ∧
      p.results.lookup 0 = ending?.map (Session.verdict op r) ∧
      p.world.metrics = s.recorded w.metrics (s.reported op r ending?) := by
  have hmetrics : w'.metrics = s.recorded w.metrics (s.start op).report := by
    have hdelivered := metrics_deliver (w.report (s.started op) (s.start op).report)
      (s.started op) r
    rw [hdeliver, metrics_report, Session.recorded_congr Session.started_meter] at hdelivered
    exact hdelivered
  have hconfig : (s.started op).config = s.config := Session.started_settings.2
  have hwaits : ∀ ending, (⟨w', s.started op, [], [⟨0, op, r, ending⟩]⟩ : Progress) =
      Progress.start interruption ⟨w, s, [], []⟩ (op, 0) →
      Progress.alone w s op interruption =
        Progress.finish ⟨w', s.started op, [], [⟨0, op, r, ending⟩]⟩ ⟨0, op, r, ending⟩ := by
    intro ending hstart
    rw [Progress.alone, ← hstart]
    simp only [List.mergeSort_singleton, List.foldl_cons, List.foldl_nil]
  cases arrival with
  | now ending =>
      obtain ⟨report, hconclude⟩ := Session.conclude_started h ending
      simp only [Progress.alone, Progress.start, Session.start_session, Session.start_request, h,
        hdeliver, Progress.conclude, hconclude, List.mergeSort_nil, List.foldl_nil]
      exact ⟨rfl, rfl, rfl, metrics_concluded hmetrics hconclude⟩
  | later ms reply =>
      rw [hwaits (World.ending? s.config.limit? interruption (.later ms reply)) (by
        simp only [Progress.start, Session.start_session, Session.start_request, h, hdeliver,
          hconfig, List.nil_append])]
      exact finish_alone h _ hmetrics
  | never =>
      rw [hwaits (World.ending? s.config.limit? interruption .never) (by
        simp only [Progress.start, Session.start_session, Session.start_request, h, hdeliver,
          hconfig, List.nil_append])]
      exact finish_alone h _ hmetrics

/-- What a simulation makes of an operation that is alone is its course, over a transport that
knows the ending; and what it records is what the course reports. -/
theorem perform_eq_course (w : World) (s : Session) (op : Operation)
    (interruption : Option Interruption) :
    ∃ carry : Carrier,
      (w.perform s [op] interruption).2.1 = (s.perform carry op).session ∧
      (w.perform s [op] interruption).2.2.results = [(s.perform carry op).result] ∧
      (w.perform s [op] interruption).1.metrics =
        s.recorded w.metrics (s.perform carry op).report := by
  obtain ⟨-, hsession, hresults, hmetrics⟩ := perform_alone w s op interruption
  rw [hsession, hresults, hmetrics]
  cases hrequest : s.request op with
  | error e =>
      obtain ⟨report, heq⟩ := Session.perform_rejected (fun _ => none) hrequest
      obtain ⟨-, hs, hr, hm⟩ := alone_rejected w interruption hrequest
      refine ⟨fun _ => none, ?_⟩
      rw [Session.report_rejected _ hrequest, heq, hs, hr, hm]
      exact ⟨rfl, rfl, rfl⟩
  | ok r =>
      rcases hdeliver : (w.report (s.started op) (s.start op).report).deliver
        (s.started op) r with ⟨w', arrival⟩
      obtain ⟨-, hs, hr, hm⟩ := alone_request interruption hrequest hdeliver
      refine ⟨fun _ => arrival.ending? s.config.limit? interruption, ?_⟩
      obtain ⟨report, heq⟩ := Session.perform_request
        (fun _ => arrival.ending? s.config.limit? interruption) hrequest
      rw [Session.report_request _ hrequest, heq, hs, hr, hm]
      exact ⟨rfl, rfl, rfl⟩

theorem exists_expired (limit : Nat) :
    ∃ wait : Wait, wait.ending = inTime? (some (limit, .expired)) ∧
      ∀ m : Memory, wait.leave m = m := by
  by_cases hlimit : limit ≤ patience
  · exact ⟨.expired, (inTime?_of_le hlimit).symm, fun _ => rfl⟩
  · exact ⟨.dropped, (inTime?_of_not_le hlimit).symm, fun _ => rfl⟩

theorem exists_shutDown (i : Interruption) (m : Memory) :
    ∃ wait : Wait, wait.ending = inTime? (some (i.after, .failed (.shutdown i.reason))) ∧
      Interruption.close (wait.leave m) (some i) = Interruption.close m (some i) := by
  by_cases hafter : i.after ≤ patience
  · refine ⟨.shutDown i.reason, (inTime?_of_le hafter).symm, ?_⟩
    simp [Interruption.close, Option.filter, hafter, Wait.leave, Memory.shutDown]
  · exact ⟨.dropped, (inTime?_of_not_le hafter).symm, rfl⟩

theorem exists_wait (timeout : Option Nat) (interruption : Option Interruption) (m : Memory) :
    ∃ wait : Wait, wait.ending = Arrival.ending? timeout interruption .never ∧
      Interruption.close (wait.leave m) interruption = Interruption.close m interruption := by
  cases timeout with
  | none =>
      cases interruption with
      | none => exact ⟨.dropped, rfl, rfl⟩
      | some i => exact exists_shutDown i m
  | some limit =>
      obtain ⟨wait, hending, hleave⟩ := exists_expired limit
      cases interruption with
      | none => exact ⟨wait, hending, by rw [hleave]⟩
      | some i =>
          by_cases hfirst : limit ≤ i.after
          · refine ⟨wait, ?_, by rw [hleave]⟩
            simp only [Arrival.ending?, World.ending?, if_pos hfirst]
            exact hending
          · obtain ⟨wait, hending, hleave⟩ := exists_shutDown i m
            refine ⟨wait, ?_, hleave⟩
            simp only [Arrival.ending?, World.ending?, if_neg hfirst]
            exact hending

theorem deliver_eq_send {r : Request}
    (hfail : ∀ fault, (w.peer.turn r.method).action ≠ .fail fault) :
    ∃ respond : Responder,
      (w.deliver s r).1.memory = (w.memory.send respond (s.message r)).1 ∧
      (w.deliver s r).2 = match (w.memory.send respond (s.message r)).2 with
        | none => .never
        | some (.error fault) => .now (.failed fault)
        | some (.ok reply) =>
          if r.expectsReply ∧ 0 < (w.peer.turn r.method).delay then
            .later (w.peer.turn r.method).delay reply
          else .now (.delivered reply) := by
  refine ⟨Peer.respond w.peer.kind (w.peer.turn r.method).action, ?_⟩
  rw [deliver]
  split
  · rename_i fault haction
    exact absurd haction (hfail fault)
  · exact ⟨rfl, rfl⟩

/-- A late reply comes in time, or the wait for it ends as if it never came. -/
theorem ending?_later (timeout : Option Nat) (interruption : Option Interruption) (ms : Nat)
    (reply : Octets) :
    (Arrival.later ms reply).ending? timeout interruption = some (.delivered reply) ∨
      ∃ wait : Wait, wait.ending = (Arrival.later ms reply).ending? timeout interruption ∧
        ∀ m : Memory, wait.leave m = m := by
  have hreply : inTime? (some (ms, .delivered reply)) = some (.delivered reply) ∨
      ∃ wait : Wait, wait.ending = inTime? (some (ms, .delivered reply)) ∧
        ∀ m : Memory, wait.leave m = m := by
    by_cases hms : ms ≤ patience
    · exact .inl (inTime?_of_le hms)
    · exact .inr ⟨.dropped, (inTime?_of_not_le hms).symm, fun _ => rfl⟩
  cases timeout with
  | none => exact hreply
  | some limit =>
      simp only [Arrival.ending?, World.ending?]
      split
      · exact .inr (exists_expired limit)
      · exact hreply

theorem send_silent {m : Memory} {respond : Responder} {message : Message} {reply : Octets}
    (hsend : (m.send respond message).2 = some (.ok reply))
    (hreply : message.expectsReply = true) :
    m.send (fun _ _ => none) message = ((m.send respond message).1, none) := by
  cases hclosed : m.closed with
  | some reason =>
      rw [Memory.send_of_closed hclosed] at hsend
      cases hsend
  | none => simp [Memory.send_of_open hclosed, hreply]

/-- The clock and the peer of a simulation are those of some step of a conversation. -/
theorem deliver_eq_carried {r : Request}
    (hfail : ∀ fault, (w.peer.turn r.method).action ≠ .fail fault) (timeout : Option Nat)
    (interruption : Option Interruption) :
    ∃ respond wait,
      w.memory.carrier respond wait (s.message r) =
        (w.deliver s r).2.ending? timeout interruption ∧
      Interruption.close (w.memory.carried respond wait (some (s.message r))) interruption =
        Interruption.close (w.deliver s r).1.memory interruption := by
  obtain ⟨respond, hmemory, harrival⟩ := deliver_eq_send (s := s) hfail
  rw [hmemory, harrival]
  cases hsend : (w.memory.send respond (s.message r)).2 with
  | none =>
      obtain ⟨wait, hending, hclose⟩ :=
        exists_wait timeout interruption (w.memory.send respond (s.message r)).1
      refine ⟨respond, wait, ?_, ?_⟩
      · simp only [Memory.carrier, hsend, hending]
      · simp only [Memory.carried, hsend, Option.isNone_none, if_true, hclose]
  | some result =>
      have hcarried : ∀ wait, w.memory.carried respond wait (some (s.message r)) =
          (w.memory.send respond (s.message r)).1 := by
        intro wait
        simp only [Memory.carried, hsend, Option.isNone_some, Bool.false_eq_true, if_false]
      cases result with
      | error fault =>
          refine ⟨respond, .dropped, ?_, by rw [hcarried]⟩
          simp only [Memory.carrier, hsend, Arrival.ending?]
      | ok reply =>
          by_cases hlate : r.expectsReply = true ∧ 0 < (w.peer.turn r.method).delay
          · simp only [if_pos hlate]
            rcases ending?_later timeout interruption (w.peer.turn r.method).delay reply with
              hdelivered | ⟨wait, hending, hleave⟩
            · refine ⟨respond, .dropped, ?_, by rw [hcarried]⟩
              simp only [Memory.carrier, hsend, hdelivered]
            · -- The reply comes too late, so a responder that is silent does as well.
              have hsilent := send_silent hsend hlate.1
              refine ⟨fun _ _ => none, wait, ?_, ?_⟩
              · simp only [Memory.carrier, hsilent, hending]
              · simp only [Memory.carried, hsilent, Option.isNone_none, if_true, hleave]
          · refine ⟨respond, .dropped, ?_, by rw [hcarried]⟩
            simp only [Memory.carrier, hsend, if_neg hlate, Arrival.ending?]

/-- What a simulation makes of an operation that is alone is a step of a conversation. -/
theorem perform_eq_step (w : World) (s : Session) (op : Operation)
    (interruption : Option Interruption)
    (hfail : ∀ method fault, (w.peer.turn method).action ≠ .fail fault) :
    ∃ respond wait,
      let c : Conversation := ⟨s, w.memory⟩
      let done := w.perform s [op] interruption
      done.2.1 = (c.step (.perform op respond wait)).session ∧
        done.2.2.results = [(c.course op respond wait).result] ∧
        done.1.memory =
          Interruption.close (c.step (.perform op respond wait)).memory interruption := by
  obtain ⟨hmemory, hsession, hresults, -⟩ := perform_alone w s op interruption
  simp only [hmemory, hsession, hresults, Conversation.step, Conversation.course]
  cases hrequest : s.request op with
  | error e =>
      obtain ⟨hm, hs, hr, -⟩ := alone_rejected w interruption hrequest
      obtain ⟨report, heq⟩ := Session.perform_rejected
        (w.memory.carrier (fun _ _ => none) .dropped) hrequest
      refine ⟨fun _ _ => none, .dropped, ?_⟩
      rw [heq, hm, hs, hr]
      exact ⟨rfl, rfl, rfl⟩
  | ok r =>
      rcases hdeliver : (w.report (s.started op) (s.start op).report).deliver
        (s.started op) r with ⟨w', arrival⟩
      obtain ⟨hm, hs, hr, -⟩ := alone_request interruption hrequest hdeliver
      obtain ⟨respond, wait, hcarry, hclose⟩ := deliver_eq_carried
        (w := w.report (s.started op) (s.start op).report) (s := s.started op)
        (hfail r.method) s.config.limit? interruption
      have hreport : (w.report (s.started op) (s.start op).report).memory = w.memory := rfl
      rw [hdeliver, Session.message_started, hreport] at hcarry hclose
      refine ⟨respond, wait, ?_⟩
      obtain ⟨report, heq⟩ :=
        Session.perform_request (w.memory.carrier respond wait) hrequest
      rw [heq, hm, hs, hr, ← hclose, ← hcarry]
      exact ⟨rfl, rfl, rfl⟩

/-- A session that a simulation connects has been opened. -/
theorem opened_of_connect {env : Observability.Environment} {b : Session.Builder} {ms : Nat}
    {w' : World} (h : w.connect env b = (w', some (.ok ()), ms)) :
    ∃ s log, w'.sessions.getLast? = some (some s) ∧
      Session.Opened (.ofEnvironment true env) s log := by
  rw [connect] at h
  cases hprepare : b.prepareBy (.ofEnvironment true env) with
  | error e =>
      rw [hprepare] at h
      cases h
  | ok prepared =>
      obtain ⟨s, events⟩ := prepared
      rw [hprepare] at h
      cases hasks : s.config.describeOnConnect with
      | false =>
          simp only [hasks, Bool.not_false, if_true] at h
          cases h
          exact ⟨s, [], by simp [add], .connected hprepare hasks⟩
      | true =>
          obtain ⟨carry, hsession, hresults, -⟩ := perform_eq_course
            { w with events := w.events ++ events } s .describe none
          simp only [hasks, Bool.not_true, Bool.false_eq_true, if_false] at h
          split at h
          · rename_i outcome heq
            cases h
            rw [hresults, List.cons.injEq] at heq
            obtain ⟨d, rfl⟩ := Session.described_of_describe heq.1
            have hopened := Session.Opened.described hprepare hasks heq.1
            rw [← hsession] at hopened
            exact ⟨_, _, by simp [add], hopened⟩
          · cases h
          · cases h

/-- What a simulation makes of connecting a session is what connecting comes to over a transport
that knows the ending. -/
theorem connect_eq_connection (w : World) (env : Observability.Environment) (b : Session.Builder) :
    ∃ carry : Carrier,
      let connected := b.connect (.ofEnvironment true env) carry
      (w.connect env b).2.1 = connected.result.map (fun result => result.map fun _ => ()) ∧
      ∀ s, connected.result = some (.ok s) →
        (w.connect env b).1.sessions.getLast? = some (some s) := by
  rw [connect]
  cases hprepare : b.prepareBy (.ofEnvironment true env) with
  | error e =>
      exact ⟨fun _ => none, by simp [Session.Builder.connect, hprepare, Except.map]⟩
  | ok prepared =>
      obtain ⟨s, events⟩ := prepared
      obtain ⟨carry, hsession, hresults, -⟩ := perform_eq_course
        { w with events := w.events ++ events } s .describe none
      refine ⟨carry, ?_⟩
      cases hasks : s.config.describeOnConnect with
      | false => simp [Session.Builder.connect, hprepare, hasks, add, Except.map]
      | true =>
          simp only [Session.Builder.connect, hprepare, hasks, if_true, Bool.not_true,
            Bool.false_eq_true, if_false]
          generalize World.perform _ s [.describe] none = done at hsession hresults ⊢
          rw [hresults, ← hsession]
          generalize (s.perform carry .describe).result = result
          cases result with
          | none => simp
          | some result => cases result <;> simp [Except.map, add]

end World

end JsonRpc.Simulation
