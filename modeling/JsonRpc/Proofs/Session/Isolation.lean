import Mathlib.Data.List.Forall2
import Mathlib.Data.List.Nodup
import JsonRpc.Session.Sharing
import JsonRpc.Proofs.Places
import JsonRpc.Proofs.Transport.Delivery

/-!
# Operations over a shared transport

Operations that share a transport in memory do not disturb each other.  What an
operation learns from the transport depends on its own message only, so it has
the course that it would have over a fresh transport, unless its time runs out
or the transport is shut down.  The record holds one message for each operation
that came so far, and it is the message that the operation would send alone.
-/

namespace JsonRpc

namespace Undertaking

/-- The message of an operation is that of its request, and a reply to it is the one that an open
transport gives. -/
structure Sound (respond : Responder) (u : Undertaking) : Prop where
  handed : (u.delivery.map Memory.Delivery.message).toList =
    u.session.messages (u.session.request u.operation)
  reply : ∀ d, u.delivery = some d → d.Sound respond
  delivered : ∀ reply, u.fate = .over (some (.delivered reply)) →
    ∃ d, u.delivery = some d ∧ d.result? = some (.ok reply)

variable {respond : Responder} {u : Undertaking}

theorem sound_begun (s : Session) (op : Operation) (version : Nat) :
    (begun s op version).Sound respond := by
  simp only [begun, Session.start_session, Session.start_request]
  cases hrequest : s.request op with
  | error e => exact ⟨by rw [hrequest]; rfl, nofun, nofun⟩
  | ok r =>
      refine ⟨?_, ?_, nofun⟩
      · simp [hrequest, Session.messages]
      · rintro d ⟨⟩
        exact Memory.Delivery.sound_posted _ _

/-- A step of the message changes neither the message nor the sense of the reply. -/
theorem Sound.advance {s : Session} {op : Operation} {d d' : Memory.Delivery}
    {m m' : Memory.Shared} (h : Sound respond ⟨s, op, some d, .underway⟩)
    (hstep : d.Step respond m m' d') : Sound respond ⟨s, op, some d', .underway⟩ := by
  refine ⟨?_, ?_, nofun⟩
  · have hhanded := h.handed
    rw [Option.map_some] at hhanded ⊢
    rw [hstep.message_eq]
    exact hhanded
  · rintro e ⟨⟩
    exact Memory.Delivery.Sound.step hstep

theorem Sound.settle (h : u.Sound respond) {ending : Option Ending}
    (hending : ∀ reply, ending = some (.delivered reply) →
      ∃ d, u.delivery = some d ∧ d.result? = some (.ok reply)) :
    Sound respond { u with fate := .over ending } := by
  refine ⟨h.handed, h.reply, fun reply hfate => ?_⟩
  injection hfate with hfate
  exact hending reply hfate

/-- The course of an operation that has a fresh transport to itself. -/
def alone (respond : Responder) (wait : Conversation.Wait) (u : Undertaking) : Course :=
  (⟨u.session, {}⟩ : Conversation).course u.operation respond wait

def sentAlone (respond : Responder) (wait : Conversation.Wait) (u : Undertaking) : List Message :=
  ((⟨u.session, {}⟩ : Conversation).step (.perform u.operation respond wait)).memory.sent

/-- The operation is over, but not because its time ran out or the transport was shut down, and it
was not given up. -/
def Completed (u : Undertaking) (course : Course) : Prop :=
  u.course? = some course ∧ course.result.isSome = true ∧ course.ending ≠ some .expired ∧
    ∀ fault, course.ending ≠ some (.failed fault)

theorem course?_eq_some_iff {course : Course} :
    u.course? = some course ↔ ∃ ending, u.fate = .over ending ∧
      u.session.perform (fun _ => ending) u.operation = course := by
  rw [course?]
  cases u.fate <;> simp

/-- A completed operation that had a request was given a reply. -/
theorem Completed.delivered {course : Course} (h : u.Completed course) {r : Request}
    (hrequest : u.session.request u.operation = .ok r) :
    ∃ reply, u.fate = .over (some (.delivered reply)) := by
  obtain ⟨hcourse, hresult, hexpired, hfailed⟩ := h
  obtain ⟨ending, hfate, rfl⟩ := course?_eq_some_iff.1 hcourse
  obtain ⟨report, hperform⟩ := Session.perform_request (fun _ => ending) hrequest
  rw [hperform] at hresult hexpired hfailed
  match ending with
  | none => cases hresult
  | some .expired => exact absurd rfl hexpired
  | some (.failed fault) => exact absurd rfl (hfailed fault)
  | some (.delivered reply) => exact ⟨reply, hfate⟩

/-- A completed operation has the course that it has alone. -/
theorem Sound.alone_eq (h : u.Sound respond) {course : Course} (hcompleted : u.Completed course)
    (wait : Conversation.Wait) : u.alone respond wait = course := by
  obtain ⟨ending, hfate, hcourse⟩ := course?_eq_some_iff.1 hcompleted.1
  rw [← hcourse]
  refine Session.perform_congr fun r hrequest => ?_
  obtain ⟨reply, hdelivered⟩ := hcompleted.delivered hrequest
  obtain ⟨d, hdelivery, hreply⟩ := h.delivered reply hdelivered
  have hhanded := h.handed
  rw [hdelivery, hrequest] at hhanded
  have hmessage : d.message = u.session.message r := (List.cons.inj hhanded).1
  have hsend := h.reply d hdelivery reply hreply {} rfl
  rw [hmessage] at hsend
  rw [hfate, Fate.over.injEq] at hdelivered
  simp only [Memory.carrier, hsend, hdelivered]

/-- The transport has recorded the message of a completed operation. -/
theorem Sound.isRecorded (h : u.Sound respond) {course : Course} (hcompleted : u.Completed course)
    {r : Request} (hrequest : u.session.request u.operation = .ok r) : u.isRecorded = true := by
  obtain ⟨reply, hdelivered⟩ := hcompleted.delivered hrequest
  obtain ⟨⟨message, seen, stage⟩, hdelivery, hreply⟩ := h.delivered reply hdelivered
  rw [Undertaking.isRecorded, hdelivery]
  cases stage <;> first | rfl | cases hreply

/-- An operation that hands over a message sends it alone as well, and sends no other. -/
theorem Sound.sentAlone_eq (h : u.Sound respond) {d : Memory.Delivery}
    (hdelivery : u.delivery = some d) (wait : Conversation.Wait) :
    u.sentAlone respond wait = [d.message] := by
  have hhanded := h.handed
  rw [hdelivery, Session.messages_request] at hhanded
  rw [sentAlone, Conversation.step_sent, Conversation.trafficOf, Conversation.Step.traffic,
    ← hhanded]
  rfl

end Undertaking

namespace Sharing

variable {respond : Responder} {l l' : Sharing} {i j : Nat} {u : Undertaking}

theorem Step.sound (h : Step respond l l') (hsound : ∀ u ∈ l.undertakings, u.Sound respond) :
    ∀ u ∈ l'.undertakings, u.Sound respond := by
  -- One undertaking changes, and the others are as they were.
  have hset : ∀ {i : Nat} {u : Undertaking}, u.Sound respond →
      ∀ v ∈ l.undertakings.set i u, v.Sound respond := by
    intro i u hu v hv
    rcases List.mem_or_eq_of_mem_set hv with hv | rfl
    · exact hsound v hv
    · exact hu
  cases h with
  | begin s op =>
      intro u hu
      rcases List.mem_append.1 hu with hu | hu
      · exact hsound u hu
      · rw [List.mem_singleton.1 hu]
        exact Undertaking.sound_begun s op _
  | advance hundertaking hstep =>
      exact hset ((hsound _ (List.mem_of_getElem? hundertaking)).advance hstep)
  | @conclude i s op d result hundertaking hresult =>
      refine hset ((hsound _ (List.mem_of_getElem? hundertaking)).settle fun reply hending => ?_)
      cases result with
      | ok _ =>
          cases hending
          exact ⟨d, rfl, hresult⟩
      | error fault => cases hending
  | expire hundertaking htimeout hreply hresult =>
      exact hset ((hsound _ (List.mem_of_getElem? hundertaking)).settle nofun)
  | drop hundertaking hfate =>
      exact hset ((hsound _ (List.mem_of_getElem? hundertaking)).settle nofun)
  | shutDown reason => exact hsound

theorem isRecorded_begun (s : Session) (op : Operation) (version : Nat) :
    (Undertaking.begun s op version).isRecorded = false := by
  simp only [Undertaking.begun]
  split <;> rfl

/-- The operation with this number goes on with the same message. -/
theorem Handed.set {v : Undertaking} {message : Message} (h : l.Handed j message)
    (hu : l.undertakings[i]? = some u) (hundertakings : l'.undertakings = l.undertakings.set i v)
    (hmessage : v.delivery.map Memory.Delivery.message = u.delivery.map Memory.Delivery.message) :
    l'.Handed j message := by
  obtain ⟨w, d, hw, hdelivery, hd⟩ := h
  rw [Handed, hundertakings]
  simp only [getElem?_set_of_some hu]
  split
  · rename_i hji
    rw [hji, hu, Option.some.injEq] at hw
    rw [hw, hdelivery, Option.map_some, hd] at hmessage
    obtain ⟨d', hdelivery', hd'⟩ := Option.map_eq_some_iff.1 hmessage
    exact ⟨v, d', rfl, hdelivery', hd'⟩
  · exact ⟨w, d, hw, hdelivery, hd⟩

theorem recorded_iff (hu : l.undertakings[i]? = some u) :
    l.Recorded i ↔ u.isRecorded = true := by
  simp [Recorded, hu]

theorem recorded_set_iff {v : Undertaking} (hu : l.undertakings[i]? = some u)
    (hundertakings : l'.undertakings = l.undertakings.set i v) (j : Nat) :
    l'.Recorded j ↔ if j = i then v.isRecorded = true else l.Recorded j := by
  rw [Recorded, hundertakings, exists_set_iff Undertaking.isRecorded hu]
  rfl

inductive Traffic (l l' : Sharing) : Prop where
  | none (hsent : l'.sent = l.sent) (hrecorded : ∀ j, l'.Recorded j ↔ l.Recorded j)
  | one {i : Nat} {message : Message} (hhanded : l'.Handed i message)
      (hsent : l'.sent = l.sent ++ [message]) (hfresh : ¬ l.Recorded i)
      (hrecorded : ∀ j, l'.Recorded j ↔ l.Recorded j ∨ j = i)

/-- One operation goes on, and nothing is recorded. -/
theorem Traffic.quiet {v : Undertaking} (hu : l.undertakings[i]? = some u)
    (hundertakings : l'.undertakings = l.undertakings.set i v) (hsent : l'.sent = l.sent)
    (hrecorded : v.isRecorded = u.isRecorded) : Traffic l l' := by
  refine .none hsent fun j => ?_
  rw [recorded_set_iff hu hundertakings]
  split
  · rename_i hji
    rw [hji, recorded_iff hu, hrecorded]
  · rfl

theorem traffic_advance {s : Session} {op : Operation} {d d' : Memory.Delivery}
    {m : Memory.Shared} (hu : l.undertakings[i]? = some ⟨s, op, some d, .underway⟩)
    (hstep : d.Step respond l.memory m d') (hmemory : l'.memory = m)
    (hundertakings : l'.undertakings = l.undertakings.set i ⟨s, op, some d', .underway⟩) :
    Traffic l l' := by
  rcases hstep.traffic with ⟨rfl, hsame⟩ | ⟨rfl, hbefore, hafter⟩
  · exact .quiet hu hundertakings (by rw [sent, hmemory, sent]) hsame
  · refine .one (?_ : l'.Handed i d.message) ?_ ?_ ?_
    · have hhanded : l.Handed i d.message := ⟨_, d, hu, rfl, rfl⟩
      exact hhanded.set hu hundertakings (by simp [hstep.message_eq])
    · rw [sent, hmemory]
      rfl
    · rw [recorded_iff hu]
      simp [Undertaking.isRecorded, hbefore]
    · intro j
      rw [recorded_set_iff hu hundertakings]
      by_cases hji : j = i
      · simp [hji, Undertaking.isRecorded, hafter]
      · simp [hji]

theorem Step.traffic (h : Step respond l l') : Traffic l l' := by
  cases h with
  | begin s op =>
      refine .none rfl fun j => ?_
      exact exists_concat_iff Undertaking.isRecorded (isRecorded_begun s op _) j
  | advance hundertaking hstep => exact traffic_advance hundertaking hstep rfl rfl
  | conclude hundertaking hresult => exact .quiet hundertaking rfl rfl rfl
  | expire hundertaking htimeout hreply hresult => exact .quiet hundertaking rfl rfl rfl
  | drop hundertaking hfate => exact .quiet hundertaking rfl rfl rfl
  | shutDown reason => exact .none rfl fun j => Iff.rfl

/-- What was handed over stays handed over. -/
theorem Step.handed (h : Step respond l l') {message : Message} (hhanded : l.Handed j message) :
    l'.Handed j message := by
  cases h with
  | begin s op =>
      obtain ⟨u, d, hu, hdelivery, hmessage⟩ := hhanded
      exact ⟨u, d, getElem?_concat_of_some hu _, hdelivery, hmessage⟩
  | advance hundertaking hstep =>
      exact hhanded.set hundertaking rfl (by simp [hstep.message_eq])
  | conclude hundertaking hresult => exact hhanded.set hundertaking rfl rfl
  | expire hundertaking htimeout hreply hresult => exact hhanded.set hundertaking rfl rfl
  | drop hundertaking hfate => exact hhanded.set hundertaking rfl rfl
  | shutDown reason => exact hhanded

variable {m : Memory}

theorem Reachable.sound (h : Reachable respond m l) : ∀ u ∈ l.undertakings, u.Sound respond := by
  induction h with
  | start version => exact fun _ hu => absurd hu List.not_mem_nil
  | step h hstep ih => exact hstep.sound ih

structure RecordedInOrder (l : Sharing) (order : List Nat) (messages : List Message) : Prop where
  nodup : order.Nodup
  mem_iff (i : Nat) : i ∈ order ↔ l.Recorded i
  handed : List.Forall₂ l.Handed order messages

theorem Reachable.traffic (h : Reachable respond m l) :
    ∃ order messages, l.RecordedInOrder order messages ∧ l.sent = m.sent ++ messages := by
  induction h with
  | start version => exact ⟨[], [], ⟨List.nodup_nil, by simp [Recorded], .nil⟩, by simp [sent]⟩
  | step h hstep ih =>
      obtain ⟨order, messages, ⟨hnodup, hmem, hhanded⟩, hsent⟩ := ih
      have hhanded := hhanded.imp fun _ _ => hstep.handed
      cases hstep.traffic with
      | none hsame hrecorded =>
          refine ⟨order, messages, ⟨hnodup, fun i => ?_, hhanded⟩, hsame.trans hsent⟩
          rw [hmem, hrecorded]
      | @one i message hnew hmore hfresh hrecorded =>
          refine ⟨order ++ [i], messages ++ [message], ⟨?_, fun j => ?_, ?_⟩, ?_⟩
          · rw [List.nodup_append_comm]
            exact List.nodup_cons.2 ⟨fun hi => hfresh ((hmem i).1 hi), hnodup⟩
          · rw [List.mem_append, List.mem_singleton, hmem, hrecorded]
          · exact List.rel_append hhanded (.cons hnew .nil)
          · rw [hmore, hsent, List.append_assoc]

/-- Operations over a shared transport do not interfere.  One that completes has the course which
it has alone over a fresh transport, and if it had something to send it was recorded; and what
was recorded is one message for each operation that came so far, the same as the operation
sends alone. -/
theorem isolation (h : Reachable respond m l) :
    (∀ u ∈ l.undertakings, ∀ course, u.Completed course →
      (∀ wait, u.alone respond wait = course) ∧
        (course.handed.isSome = true → u.isRecorded = true)) ∧
    ∃ order messages, order.Nodup ∧ (∀ i, i ∈ order ↔ l.Recorded i) ∧
      l.sent = m.sent ++ messages ∧
      List.Forall₂ (fun i message => ∃ u, l.undertakings[i]? = some u ∧
        ∀ wait, u.sentAlone respond wait = [message]) order messages := by
  refine ⟨fun u hu course hcompleted => ⟨?_, ?_⟩, ?_⟩
  · exact (h.sound u hu).alone_eq hcompleted
  · intro hhanded
    obtain ⟨ending, -, rfl⟩ := Undertaking.course?_eq_some_iff.1 hcompleted.1
    cases hrequest : u.session.request u.operation with
    | error e =>
        obtain ⟨report, hperform⟩ := Session.perform_rejected (fun _ => ending) hrequest
        rw [hperform] at hhanded
        cases hhanded
    | ok r => exact (h.sound u hu).isRecorded hcompleted hrequest
  · obtain ⟨order, messages, hrecorded, hsent⟩ := h.traffic
    refine ⟨order, messages, hrecorded.nodup, hrecorded.mem_iff, hsent, ?_⟩
    refine hrecorded.handed.imp ?_
    rintro i message ⟨u, d, hu, hdelivery, rfl⟩
    exact ⟨u, hu, (h.sound u (List.mem_of_getElem? hu)).sentAlone_eq hdelivery⟩

def calculatorOnly : Responder := fun destination _ =>
  if destination = "calculator" then some (.ofString "\x7b\"result\":1\x7d") else none

/-- A call is answered while one of another session, which nobody answers, is given up, and a
notification still waits for its turn with the record. -/
theorem isolation_of_three_sessions :
    ∃ l u course, Reachable calculatorOnly {} l ∧ l.undertakings[0]? = some u ∧
      u.Completed course ∧ (∀ wait, u.alone calculatorOnly wait = course) ∧
      ∃ order messages, l.sent = messages ∧ 0 ∈ order ∧ 1 ∈ order ∧ 2 ∉ order ∧
        List.Forall₂ (fun i message => ∃ u, l.undertakings[i]? = some u ∧
          ∀ wait, u.sentAlone calculatorOnly wait = [message]) order messages := by
  have h : Reachable calculatorOnly {} ⟨⟨{}, 0⟩, []⟩ := .start 0
  have h := h.step (.begin (.new "calculator" {} none) (.call "add" [.int 1]))
  have h := h.step (.begin (.new "nobody" { versionTagging := false } none) (.call "add" []))
  have h := h.step
    (.begin (.new "calculator" { timeout := some (.milliseconds 5) } none) (.notify "log" []))
  have h := h.step (.advance (i := 1) rfl (.accept rfl))
  have h := h.step (.advance (i := 0) rfl (.accept rfl))
  have h := h.step (.advance (i := 2) rfl (.accept rfl))
  have h := h.step (.advance (i := 1) rfl .record)
  have h := h.step (.advance (i := 0) rfl .record)
  have h := h.step (.advance (i := 1) rfl (.wait rfl rfl))
  have h := h.step (.drop (i := 1) rfl rfl)
  have h := h.step (.advance (i := 0) rfl (.reply rfl rfl))
  have h := h.step (.conclude (i := 0) rfl rfl)
  obtain ⟨halone, order, messages, -, hmem, hsent, hmessages⟩ := isolation h
  have hdelivered : ∀ {ending : Option Ending} {reply : Octets},
      ending = some (.delivered reply) → ending ≠ some .expired ∧
        ∀ fault, ending ≠ some (.failed fault) := by
    rintro ending reply rfl
    exact ⟨nofun, nofun⟩
  refine ⟨_, _, _, h, rfl, ⟨rfl, rfl, hdelivered rfl⟩,
    (halone _ List.mem_cons_self _ ⟨rfl, rfl, hdelivered rfl⟩).1, order, messages, hsent,
    (hmem 0).2 ⟨_, rfl, rfl⟩, (hmem 1).2 ⟨_, rfl, rfl⟩, fun hi => ?_, hmessages⟩
  obtain ⟨u, hu, hrecorded⟩ := (hmem 2).1 hi
  cases hu
  cases hrecorded

/-! ## An operation that nobody disturbs -/

/-- What the message of an operation can do, the operation can do. -/
theorem runs_advance {s : Session} {op : Operation} {p q : Memory.Shared × Memory.Delivery}
    (hruns : Memory.Delivery.Runs respond p q) (hmemory : l.memory = p.1)
    (hu : l.undertakings[i]? = some ⟨s, op, some p.2, .underway⟩) :
    Runs respond l
      { memory := q.1, undertakings := l.undertakings.set i ⟨s, op, some q.2, .underway⟩ } := by
  induction hruns with
  | refl =>
      obtain ⟨hi, hget⟩ := List.getElem?_eq_some_iff.1 hu
      rw [← hmemory, ← hget, List.set_getElem_self]
      exact .refl
  | @tail b c _ hstep ih =>
      have hb : (l.undertakings.set i ⟨s, op, some b.2, .underway⟩)[i]? =
          some ⟨s, op, some b.2, .underway⟩ := by
        rw [getElem?_set_of_some hu, if_pos rfl]
      have hadvance := Step.advance
        (l := { memory := b.1, undertakings := l.undertakings.set i ⟨s, op, some b.2, .underway⟩ })
        hb hstep
      rw [List.set_set] at hadvance
      exact ih.tail hadvance

theorem carrier_dropped (m : Memory) (respond : Responder) (message : Message) :
    m.carrier respond .dropped message = (m.send respond message).2.map Ending.ofResult := by
  rw [Memory.carrier]
  rcases (m.send respond message).2 with _ | _ | _ <;> rfl

theorem carried_dropped (m : Memory) (respond : Responder) (message : Message) :
    m.carried respond .dropped (some message) = (m.send respond message).1 := by
  rw [Memory.carried]
  split
  rename_i heq
  simp [heq, Conversation.Wait.leave]

/-- An operation ends as the transport says, or is given up where it would wait. -/
theorem step_settle {s : Session} {op : Operation} {d : Memory.Delivery}
    (hu : l.undertakings[i]? = some ⟨s, op, some d, .underway⟩) :
    Step respond l (l.settle i ⟨s, op, some d, .underway⟩ (d.result?.map .ofResult)) := by
  cases hresult : d.result? with
  | none => exact .drop hu rfl
  | some result => exact .conclude hu hresult

/-- An operation that nobody disturbs can take the course that it has in a conversation. -/
theorem runs_course (l : Sharing) (respond : Responder) (s : Session) (op : Operation) :
    let c : Conversation := ⟨s, l.memory.memory⟩
    ∃ l' u, Runs respond l l' ∧ l'.undertakings = l.undertakings ++ [u] ∧
      u.course? = some (c.course op respond .dropped) ∧
      l'.memory.memory = (c.step (.perform op respond .dropped)).memory := by
  intro c
  have hbegin : Runs respond l _ := .single (.begin s op)
  cases hrequest : s.request op with
  | error e =>
      have hbegun : Undertaking.begun s op l.memory.version = ⟨s, op, none, .over none⟩ := by
        simp [Undertaking.begun, hrequest]
      obtain ⟨report, hperform⟩ :=
        Session.perform_rejected (c.memory.carrier respond .dropped) hrequest
      have hcourse : c.course op respond .dropped = _ := hperform
      refine ⟨_, _, hbegin, rfl, ?_, ?_⟩
      · rw [hbegun, Undertaking.course?_eq_some_iff]
        refine ⟨none, rfl, Session.perform_congr fun r hr => ?_⟩
        rw [hrequest] at hr
        cases hr
      · rw [Conversation.step, hcourse]
        rfl
  | ok r =>
      have hbegun : Undertaking.begun s op l.memory.version =
          ⟨s, op, some ⟨s.message r, l.memory.version, .posted⟩, .underway⟩ := by
        simp [Undertaking.begun, hrequest]
      obtain ⟨d, hruns, hresult⟩ :=
        Memory.Delivery.runs_send respond l.memory (s.message r) l.memory.version
      obtain ⟨report, hperform⟩ :=
        Session.perform_request (c.memory.carrier respond .dropped) hrequest
      have hcourse : c.course op respond .dropped = _ := hperform
      have hu :
          (l.undertakings ++ [Undertaking.begun s op l.memory.version])[l.undertakings.length]? =
            some ⟨s, op, some ⟨s.message r, l.memory.version, .posted⟩, .underway⟩ := by
        rw [hbegun]
        exact List.getElem?_concat_length
      have hplace : ((l.undertakings ++ [Undertaking.begun s op l.memory.version]).set
          l.undertakings.length ⟨s, op, some d, .underway⟩)[l.undertakings.length]? =
            some ⟨s, op, some d, .underway⟩ := by
        rw [getElem?_set_of_some hu, if_pos rfl]
      have hsettled := (hbegin.trans (runs_advance hruns rfl hu)).tail (step_settle hplace)
      refine ⟨_, ⟨s, op, some d, .over (d.result?.map .ofResult)⟩, hsettled, ?_, ?_, ?_⟩
      · simp [settle]
      · rw [Undertaking.course?_eq_some_iff]
        refine ⟨_, rfl, Session.perform_congr fun r' hr => ?_⟩
        obtain rfl := Except.ok.inj (hrequest.symm.trans hr)
        rw [carrier_dropped, hresult]
      · rw [Conversation.step, hcourse, carried_dropped]
        rfl

end Sharing

end JsonRpc
