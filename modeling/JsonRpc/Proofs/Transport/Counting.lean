import JsonRpc.Proofs.Transport.Order

/-!
# How requests are counted

A connection counts the requests whose replies have not been taken.  The count
goes up when a send takes its turn, and down with every payload that is taken,
or when a write fails.  Here is by how much, for each of the things that a
connection does.  A failure in the queue counts for nothing, but it is the last
thing there.
-/

namespace JsonRpc.WebSocket

/-! ## Discarding -/

/-- Where discarding finds no failure, nothing is left, and everything was counted down. -/
theorem discard_eq_ok {destination : String} {queue queue' : List (Except TransportFault Octets)}
    {outstanding outstanding' : Nat} {events : List Event}
    (h : discard destination queue outstanding = (queue', outstanding', events, .ok ())) :
    queue' = [] ∧ outstanding' = outstanding - queue.length ∧
      ∀ item ∈ queue, ∃ payload, item = .ok payload := by
  induction queue generalizing outstanding events with
  | nil =>
      cases h
      exact ⟨rfl, rfl, by simp⟩
  | cons item rest ih =>
      cases item with
      | error fault => cases h
      | ok payload =>
          rw [discard] at h
          rcases hrest : discard destination rest (outstanding - 1) with
            ⟨queue'', outstanding'', events', result⟩
          rw [hrest] at h
          cases h
          obtain ⟨hqueue, houtstanding, hitems⟩ := ih hrest
          refine ⟨hqueue, ?_, ?_⟩
          · rw [houtstanding, List.length_cons]
            omega
          · intro item hitem
            rcases List.mem_cons.1 hitem with rfl | hitem
            · exact ⟨payload, rfl⟩
            · exact hitems item hitem

/-- Where discarding finds a failure, what was before it was counted down. -/
theorem discard_eq_error {destination : String}
    {queue queue' : List (Except TransportFault Octets)} {outstanding outstanding' : Nat}
    {events : List Event} {fault : TransportFault}
    (h : discard destination queue outstanding = (queue', outstanding', events, .error fault)) :
    ∃ payloads : List Octets, queue = payloads.map .ok ++ .error fault :: queue' ∧
      outstanding' = outstanding - payloads.length := by
  induction queue generalizing outstanding events with
  | nil => cases h
  | cons item rest ih =>
      cases item with
      | error fault =>
          cases h
          exact ⟨[], rfl, rfl⟩
      | ok payload =>
          rw [discard] at h
          rcases hrest : discard destination rest (outstanding - 1) with
            ⟨queue'', outstanding'', events', result⟩
          rw [hrest] at h
          cases h
          obtain ⟨payloads, hqueue, houtstanding⟩ := ih hrest
          refine ⟨payload :: payloads, by rw [hqueue]; rfl, ?_⟩
          rw [houtstanding, List.length_cons]
          omega

theorem enter_eq_ok {ws ws' : WebSocket} {destination : String} {events : List Event}
    (h : ws.enter destination = (ws', events, .ok ())) :
    ws'.queue = [] ∧ ws'.outstanding = ws.outstanding - ws.queue.length + 1 ∧
      ∀ item ∈ ws.queue, ∃ payload, item = .ok payload := by
  rw [enter] at h
  rcases hdiscard : discard destination ws.queue ws.outstanding with
    ⟨queue, outstanding, events', result⟩
  rw [hdiscard] at h
  cases result with
  | error fault => cases h
  | ok _ =>
      cases h
      obtain ⟨hqueue, houtstanding, hitems⟩ := discard_eq_ok hdiscard
      exact ⟨hqueue, by rw [houtstanding], hitems⟩

theorem enter_eq_error {ws ws' : WebSocket} {destination : String} {events : List Event}
    {fault : TransportFault} (h : ws.enter destination = (ws', events, .error fault)) :
    ∃ payloads : List Octets, ws.queue = payloads.map .ok ++ .error fault :: ws'.queue ∧
      ws'.outstanding = ws.outstanding - payloads.length := by
  rw [enter] at h
  rcases hdiscard : discard destination ws.queue ws.outstanding with
    ⟨queue, outstanding, events', result⟩
  rw [hdiscard] at h
  cases result with
  | ok _ => cases h
  | error _ =>
      cases h
      exact discard_eq_error hdiscard

/-! ## Taking a reply -/

theorem judge_eq_pending {outstanding left : Nat} {item : Except TransportFault Octets}
    (h : judge outstanding item = (.pending, left)) :
    (∃ payload, item = .ok payload) ∧ left = outstanding - 1 ∧ 0 < left := by
  cases item with
  | error fault => cases h
  | ok payload =>
      rw [judge] at h
      split at h
      · cases h
      · rename_i hleft
        cases h
        exact ⟨⟨payload, rfl⟩, rfl, Nat.pos_of_ne_zero hleft⟩

theorem judge_eq_reply {outstanding left : Nat} {item : Except TransportFault Octets}
    {reply : Octets} (h : judge outstanding item = (.reply reply, left)) :
    item = .ok reply ∧ left = outstanding - 1 ∧ outstanding ≤ 1 := by
  cases item with
  | error fault => cases h
  | ok payload =>
      rw [judge] at h
      split at h
      · rename_i hleft
        cases h
        exact ⟨rfl, rfl, Nat.le_of_sub_eq_zero hleft⟩
      · cases h

theorem judge_eq_failed {outstanding left : Nat} {item : Except TransportFault Octets}
    {fault : TransportFault} (h : judge outstanding item = (.failed fault, left)) :
    item = .error fault ∧ left = outstanding := by
  cases item with
  | error fault => cases h; exact ⟨rfl, rfl⟩
  | ok payload =>
      rw [judge] at h
      split at h <;> cases h

theorem receive_outstanding (ws : WebSocket) (frame : Frame) (behind : List Frame) :
    (ws.receive frame behind).1.outstanding = ws.outstanding := by
  unfold receive
  split
  · rfl
  · cases frame with
    | ping =>
        simp only
        split <;> rfl
    | _ => rfl

theorem hangUp_outstanding (ws : WebSocket) : ws.hangUp.1.outstanding = ws.outstanding := by
  unfold hangUp sendClose
  cases ws.link <;> cases ws.gone <;> rfl

theorem withdrawn_of_send (ws : WebSocket) {errand : Errand} (h : errand.isSend = true) :
    errand.withdrawn ws = ws.withdraw := by
  cases errand <;> first | rfl | cases h

theorem withdrawn_of_other (ws : WebSocket) {errand : Errand} (h : errand.isSend = false) :
    errand.withdrawn ws = ws := by
  cases errand <;> first | rfl | cases h

/-! ## Failures -/

/-- A failure ends the queue: nothing is behind it, and nothing more is read. -/
def Ended (ws : WebSocket) : Prop :=
  ∀ before fault after, ws.queue = before ++ .error fault :: after →
    after = [] ∧ ws.reading = false

theorem enter_reading (ws : WebSocket) (destination : String) :
    (ws.enter destination).1.reading = ws.reading := by
  rw [WebSocket.enter]
  rcases discard destination ws.queue ws.outstanding with ⟨queue, outstanding, events, result⟩
  cases result <;> rfl

theorem hangUp_reading (ws : WebSocket) : ws.hangUp.1.reading = ws.reading := by
  unfold WebSocket.hangUp sendClose
  cases ws.link <;> cases ws.gone <;> rfl

namespace Ended

variable {ws ws' : WebSocket}

theorem of_suffix (h : Ended ws) (hqueue : ws'.queue <:+ ws.queue)
    (hreading : ws'.reading = ws.reading) : Ended ws' := by
  obtain ⟨front, hfront⟩ := hqueue
  intro before fault after hsplit
  rw [hreading]
  exact h (front ++ before) fault after (by rw [← hfront, hsplit, List.append_assoc])

theorem error_not_mem (h : Ended ws) (hreading : ws.reading = true) (fault : TransportFault) :
    .error fault ∉ ws.queue := by
  intro hmem
  obtain ⟨before, after, hsplit⟩ := List.append_of_mem hmem
  have := (h before fault after hsplit).2
  rw [hreading] at this
  cases this

theorem concat_ok (h : Ended ws) (hreading : ws.reading = true) {payload : Octets}
    (hqueue : ws'.queue = ws.queue ++ [.ok payload]) : Ended ws' := by
  intro before fault after hsplit
  have hmem : .error fault ∈ ws.queue ++ [.ok payload] := by
    rw [← hqueue, hsplit]
    simp
  rw [List.mem_append, List.mem_singleton] at hmem
  exact absurd (hmem.resolve_right (by simp)) (h.error_not_mem hreading fault)

theorem concat_error (h : Ended ws) (hreading : ws.reading = true) {fault : TransportFault}
    (hqueue : ws'.queue = ws.queue ++ [.error fault]) (hreading' : ws'.reading = false) :
    Ended ws' := by
  intro before fault' after hsplit
  refine ⟨?_, hreading'⟩
  rcases List.eq_nil_or_concat after with hafter | ⟨front, last, hafter⟩
  · exact hafter
  · rw [hqueue, hafter, List.concat_eq_append, ← List.cons_append, ← List.append_assoc] at hsplit
    have hfront := (List.append_inj' hsplit rfl).1
    have hmem : .error fault' ∈ ws.queue := by
      rw [hfront]
      simp
    exact absurd hmem (h.error_not_mem hreading fault')

theorem receive (h : Ended ws) (hreading : ws.reading = true) (frame : Frame)
    (behind : List Frame) : Ended (ws.receive frame behind).1 := by
  have hqueue := receive_queue ws frame behind hreading
  cases frame with
  | data payload => exact h.concat_ok hreading hqueue
  | ping =>
      simp only [WebSocket.receive, hreading, Bool.not_true, Bool.false_eq_true, if_false]
      split
      · exact h.concat_error hreading rfl rfl
      · exact h
  | pong => exact h.of_suffix (by rw [hqueue]; simp [queues]) (by simp [WebSocket.receive, hreading])
  | close => exact h.concat_error hreading hqueue (by simp [WebSocket.receive, hreading, finish])
  | drop => exact h.concat_error hreading hqueue (by simp [WebSocket.receive, hreading, finish])

theorem enter (h : Ended ws) {destination : String} {events : List Event}
    {result : Except TransportFault Unit} (henter : ws.enter destination = (ws', events, result)) :
    Ended ws' := by
  have hqueue := enter_queue ws destination
  have hreading := enter_reading ws destination
  rw [henter] at hqueue hreading
  exact h.of_suffix (hqueue ▸ discard_suffix destination ws.queue ws.outstanding) hreading

theorem hangUp (h : Ended ws) {frames : List Sent} {result : Except TransportFault Unit}
    (hclose : ws.hangUp = (ws', frames, result)) : Ended ws' := by
  have hqueue := hangUp_queue ws
  have hreading := hangUp_reading ws
  rw [hclose] at hqueue hreading
  exact h.of_suffix (hqueue ▸ List.suffix_refl _) hreading

theorem withdrawn (h : Ended ws) (errand : Errand) : Ended (errand.withdrawn ws) := by
  cases errand <;> exact h

theorem step {l l' : Shared} {label : Label} (h : Ended l.socket) (hstep : Step l label l') :
    Ended l'.socket := by
  have htook : ∀ {item rest} left, l.socket.queue = item :: rest →
      Ended (l.took rest left).socket := by
    intro item rest left hqueue
    exact h.of_suffix (hqueue ▸ List.suffix_cons item rest) rfl
  cases hstep with
  | enter htask hturn henter => exact h.enter henter
  | bounce htask hturn henter => exact h.enter henter
  | hangUp htask hclose => exact h.hangUp hclose
  | hangUpFailed htask hclose => exact h.hangUp hclose
  | refuse fault htask => exact h.withdrawn _
  | spoil fault htask houtbound => exact h.withdrawn _
  | skip htask hqueue hjudge => exact htook _ hqueue
  | answered htask hqueue hqueued hjudge => exact htook _ hqueue
  | failed htask hqueue hjudge => exact htook _ hqueue
  | signal frame hframe => exact h
  | arrive together hinbound hreading => exact h.receive hreading _ _
  | _ => exact h

end Ended

theorem Reachable.ended {conduct : Shared → Label → Prop} {l : Shared}
    (h : Reachable conduct l) : Ended l.socket := by
  induction h with
  | start => simp [Ended]
  | step h hconduct hstep ih => exact ih.step hstep

namespace Shared

variable {l l' : Shared} {i j : Nat} {t u : Task}

/-- Where nothing is unasked for, every payload is an answer. -/
theorem length_filterMap_of_payloads {answers : List (Nat × Octets)}
    {items : List (Except TransportFault Octets)} {origins : List Origin}
    (h : List.Forall₂ (Fits answers) items origins)
    (hitems : ∀ item ∈ items, ∃ payload, item = .ok payload) (hasked : .unasked ∉ origins) :
    (origins.filterMap Origin.request?).length = items.length := by
  induction h with
  | nil => rfl
  | @cons item origin items origins hfits _ ih =>
      obtain ⟨payload, rfl⟩ := hitems item List.mem_cons_self
      rw [List.mem_cons, not_or] at hasked
      have htail := ih (fun item hitem => hitems item (List.mem_cons_of_mem _ hitem)) hasked.2
      cases origin with
      | answer k => simp [Origin.request?, htail]
      | unasked => exact absurd rfl hasked.1
      | control => exact hfits.elim

theorem discarded_of_ok (hcarried : Carried l) {destination : String} {ws : WebSocket}
    {events : List Event} (henter : l.socket.enter destination = (ws, events, .ok ())) :
    (l.discarded ws).queued = [] := by
  obtain ⟨hqueue, -, -⟩ := enter_eq_ok henter
  have h := (hcarried.discarded henter).queue
  rw [show (l.discarded ws).socket.queue = [] from hqueue] at h
  exact List.forall₂_nil_left_iff.1 h

/-- A send that takes its turn counts down as many requests as it takes answers. -/
theorem enter_counts_of_ok (hcarried : Carried l) (hasked : .unasked ∉ l.queued)
    {destination : String} {ws : WebSocket} {events : List Event}
    (henter : l.socket.enter destination = (ws, events, .ok ())) :
    ∃ taken, l.unsettled.length = taken + (l.discarded ws).unsettled.length ∧
      ws.outstanding = l.socket.outstanding - taken + 1 := by
  obtain ⟨-, houtstanding, hitems⟩ := enter_eq_ok henter
  refine ⟨l.socket.queue.length, ?_, houtstanding⟩
  have hlength := length_filterMap_of_payloads hcarried.queue hitems hasked
  have hunsettled : (l.discarded ws).unsettled = l.underway := by
    rw [unsettled, discarded_of_ok hcarried henter]
    rfl
  rw [hunsettled, unsettled, List.length_append, hlength]

theorem enter_counts_of_error (hcarried : Carried l) (hasked : .unasked ∉ l.queued)
    {destination : String} {ws : WebSocket} {events : List Event} {fault : TransportFault}
    (henter : l.socket.enter destination = (ws, events, .error fault)) :
    ∃ taken, l.unsettled.length = taken + (l.discarded ws).unsettled.length ∧
      ws.outstanding = l.socket.outstanding - taken := by
  obtain ⟨payloads, hqueue, houtstanding⟩ := enter_eq_error henter
  refine ⟨payloads.length, ?_, houtstanding⟩
  have hqueued := hcarried.queue
  rw [hqueue] at hqueued
  have htaken := List.forall₂_take payloads.length hqueued
  have hrest := List.forall₂_drop payloads.length hqueued
  rw [List.take_left' (List.length_map _)] at htaken
  rw [List.drop_left' (List.length_map _)] at hrest
  have hlength := length_filterMap_of_payloads htaken (by simp)
    fun hmem => hasked (List.mem_of_mem_take hmem)
  have hleft : (l.discarded ws).queued = (l.queued.drop payloads.length).tail := by
    simp only [Shared.discarded, hqueue, List.length_append, List.length_map, List.length_cons,
      List.tail_drop]
    congr 1
    omega
  cases hdrop : l.queued.drop payloads.length with
  | nil =>
      rw [hdrop] at hrest
      cases hrest
  | cons origin origins =>
      rw [hdrop] at hrest hleft
      obtain ⟨hfits, -⟩ := List.forall₂_cons.1 hrest
      obtain rfl : origin = .control := by
        cases origin <;> first | rfl | exact hfits.elim
      rw [unsettled, unsettled, hleft, ← List.take_append_drop payloads.length l.queued, hdrop,
        List.filterMap_append, List.append_assoc, List.length_append, hlength, List.length_map]
      rfl

/-- Where nobody asked for other data, a payload in the queue is an answer. -/
theorem Carried.exists_answer (h : Carried l) (hasked : .unasked ∉ l.queued) {payload : Octets}
    {rest : List (Except TransportFault Octets)} (hqueue : l.socket.queue = .ok payload :: rest) :
    ∃ j origins, l.queued = .answer j :: origins ∧ (j, payload) ∈ l.answers := by
  have hforall := h.queue
  rw [hqueue] at hforall
  cases hqueued : l.queued with
  | nil =>
      rw [hqueued] at hforall
      cases hforall
  | cons origin origins =>
      rw [hqueued] at hforall hasked
      obtain ⟨hfits, -⟩ := List.forall₂_cons.1 hforall
      cases origin with
      | answer j => exact ⟨j, origins, rfl, hfits⟩
      | unasked => simp at hasked
      | control => exact hfits.elim

/-- Whoever takes an answer settles the request. -/
theorem unsettled_eq_cons_took (rest : List (Except TransportFault Octets)) (left : Nat)
    {origins : List Origin} (hqueued : l.queued = .answer j :: origins) :
    l.unsettled = j :: (l.took rest left).unsettled := by
  simp only [unsettled, underway, Shared.took, hqueued, List.tail_cons, List.filterMap_cons,
    Origin.request?, List.cons_append]

end Shared

end JsonRpc.WebSocket
