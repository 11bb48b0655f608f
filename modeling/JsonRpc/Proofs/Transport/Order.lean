import Mathlib.Data.List.Forall2
import Mathlib.Data.List.Nodup
import JsonRpc.Proofs.Transport.Turns

/-!
# The order of answers

Requests are answered in the order in which they were handed over, and nothing
overtakes anything on its way.  So the requests whose answers have not been
taken are the latest of all that were handed over, and the request of the send
whose turn it is comes last.  `Ordered` says this of a shared connection, and
`Carried` that what the reader has queued are the payloads and failures which
the peer sent, each with its true origin.  Both hold after every run, whatever
the peer does.
-/

namespace JsonRpc.WebSocket

/-! ## What the connection does to its queue -/

theorem discard_suffix (destination : String) (queue : List (Except TransportFault Octets))
    (outstanding : Nat) : (discard destination queue outstanding).1 <:+ queue := by
  induction queue generalizing outstanding with
  | nil => exact List.suffix_refl _
  | cons item rest ih =>
      cases item with
      | error fault => exact List.suffix_cons _ rest
      | ok payload => exact (ih (outstanding - 1)).trans (List.suffix_cons _ rest)

theorem enter_queue (ws : WebSocket) (destination : String) :
    (ws.enter destination).1.queue = (discard destination ws.queue ws.outstanding).1 := by
  rw [enter]
  rcases discard destination ws.queue ws.outstanding with ⟨queue, outstanding, events, result⟩
  cases result <;> rfl

/-- What is left after discarding, as the end of what was queued. -/
theorem drop_enter_queue (ws : WebSocket) (destination : String) :
    ws.queue.drop (ws.queue.length - (ws.enter destination).1.queue.length) =
      (ws.enter destination).1.queue := by
  rw [enter_queue]
  exact (List.suffix_iff_eq_drop.1 (discard_suffix destination ws.queue ws.outstanding)).symm

theorem hangUp_queue (ws : WebSocket) : ws.hangUp.1.queue = ws.queue := by
  unfold hangUp sendClose
  cases ws.link <;> cases ws.gone <;> rfl

theorem withdrawn_queue (ws : WebSocket) (errand : Errand) :
    (errand.withdrawn ws).queue = ws.queue := by
  cases errand <;> rfl

def queues (behind : List Frame) : Frame → List (Except TransportFault Octets)
  | .data payload => [.ok payload]
  | .ping => if ends behind then [.error brokenPipe] else []
  | .pong => []
  | .close => [.error closedByPeer]
  | .drop => [.error connectionReset]

theorem receive_queue (ws : WebSocket) (frame : Frame) (behind : List Frame)
    (hreading : ws.reading = true) :
    (ws.receive frame behind).1.queue = ws.queue ++ queues behind frame := by
  cases frame <;> simp only [receive, hreading, Bool.not_true, Bool.false_eq_true, if_false, queues,
    finish, List.append_nil]
  split <;> simp

/-! ## Origins -/

namespace Shared

def Fits (answers : List (Nat × Octets)) : Except TransportFault Octets → Origin → Prop
  | .ok payload, .answer i => (i, payload) ∈ answers
  | .ok _, .unasked => True
  | .error _, .control => True
  | _, _ => False

def Comes (answers : List (Nat × Octets)) (frame : Frame) (origin : Origin) : Prop :=
  match frame with
  | .data payload => Fits answers (.ok payload) origin
  | _ => origin = .control

theorem Fits.mono {answers : List (Nat × Octets)} {item : Except TransportFault Octets}
    {origin : Origin} (h : Fits answers item origin) (more : List (Nat × Octets)) :
    Fits (answers ++ more) item origin := by
  cases item <;> cases origin <;>
    first
      | exact h
      | exact List.mem_append_left more h

theorem Comes.mono {answers : List (Nat × Octets)} {frame : Frame} {origin : Origin}
    (h : Comes answers frame origin) (more : List (Nat × Octets)) :
    Comes (answers ++ more) frame origin := by
  cases frame with
  | data payload =>
      have hfits : Fits answers (.ok payload) origin := h
      exact hfits.mono more
  | _ => exact h

theorem Comes.fits {answers : List (Nat × Octets)} {frame : Frame} {origin : Origin}
    (h : Comes answers frame origin) (behind : List Frame) :
    List.Forall₂ (Fits answers) (queues behind frame)
      (List.replicate (queues behind frame).length origin) := by
  cases frame with
  | data payload => exact .cons h .nil
  | ping =>
      obtain rfl : origin = .control := h
      cases hends : ends behind <;> simp [queues, hends, Fits]
  | pong => exact .nil
  | close =>
      obtain rfl : origin = .control := h
      exact .cons trivial .nil
  | drop =>
      obtain rfl : origin = .control := h
      exact .cons trivial .nil

variable {l l' : Shared} {i j : Nat} {t u : Task}

/-- What is queued and what is coming have the origins that they are labelled with. -/
structure Carried (l : Shared) : Prop where
  queue : List.Forall₂ (Fits l.answers) l.socket.queue l.queued
  inbound : ∀ arrival ∈ l.inbound, Comes l.answers arrival.2 arrival.1

namespace Carried

theorem discarded (h : Carried l) {destination : String} {ws : WebSocket} {events : List Event}
    {result : Except TransportFault Unit}
    (henter : l.socket.enter destination = (ws, events, result)) : Carried (l.discarded ws) := by
  refine ⟨?_, h.inbound⟩
  have hdrop := drop_enter_queue l.socket destination
  rw [henter] at hdrop
  have hqueue := List.forall₂_drop (l.socket.queue.length - ws.queue.length) h.queue
  rw [hdrop] at hqueue
  exact hqueue

theorem took (h : Carried l) {item : Except TransportFault Octets}
    {rest : List (Except TransportFault Octets)} (hqueue : l.socket.queue = item :: rest)
    (left : Nat) : Carried (l.took rest left) := by
  refine ⟨?_, h.inbound⟩
  have := h.queue
  rw [hqueue] at this
  cases hqueued : l.queued with
  | nil =>
      rw [hqueued] at this
      cases this
  | cons origin origins =>
      rw [hqueued] at this
      cases this with
      | cons _ htail =>
          simpa [Shared.took, hqueued] using htail

theorem of_queue (h : Carried l) {l' : Shared} (hqueue : l'.socket.queue = l.socket.queue)
    (hqueued : l'.queued = l.queued) (hanswers : l'.answers = l.answers)
    (hinbound : l'.inbound = l.inbound) : Carried l' := by
  constructor
  · rw [hqueue, hqueued, hanswers]
    exact h.queue
  · rw [hinbound, hanswers]
    exact h.inbound

theorem read (h : Carried l) {origin : Origin} {frame : Frame} {rest : List (Origin × Frame)}
    (hinbound : l.inbound = (origin, frame) :: rest) (hreading : l.socket.reading = true)
    (behind : List Frame) : Carried (l.read (l.socket.receive frame behind).1 origin rest) := by
  have hcomes : Comes l.answers frame origin := h.inbound (origin, frame) (by simp [hinbound])
  constructor
  · simp only [Shared.read, receive_queue l.socket frame behind hreading, List.length_append,
      Nat.add_sub_cancel_left]
    exact List.rel_append h.queue (hcomes.fits behind)
  · intro arrival harrival
    exact h.inbound arrival (by rw [hinbound]; exact List.mem_cons_of_mem _ harrival)

theorem step {label : Label} (h : Carried l) (hstep : Step l label l') : Carried l' := by
  cases hstep with
  | enter htask hturn henter => exact (h.discarded henter).of_queue rfl rfl rfl rfl
  | bounce htask hturn henter => exact (h.discarded henter).of_queue rfl rfl rfl rfl
  | hangUp htask hclose =>
      have hqueue := hangUp_queue l.socket
      rw [hclose] at hqueue
      exact h.of_queue hqueue rfl rfl rfl
  | hangUpFailed htask hclose =>
      have hqueue := hangUp_queue l.socket
      rw [hclose] at hqueue
      exact h.of_queue hqueue rfl rfl rfl
  | @refuse i errand fault htask =>
      exact h.of_queue (withdrawn_queue l.socket errand) rfl rfl rfl
  | @spoil i errand frame before fault htask houtbound =>
      exact h.of_queue (withdrawn_queue l.socket errand) rfl rfl rfl
  | skip htask hqueue hjudge => exact h.took hqueue _
  | answered htask hqueue hqueued hjudge => exact (h.took hqueue _).of_queue rfl rfl rfl rfl
  | failed htask hqueue hjudge => exact (h.took hqueue _).of_queue rfl rfl rfl rfl
  | @answer i rest payload hbacklog =>
      refine ⟨h.queue.imp fun _ _ hfits => hfits.mono _, ?_⟩
      intro arrival harrival
      rcases List.mem_append.1 harrival with harrival | harrival
      · exact (h.inbound arrival harrival).mono _
      · rw [List.mem_singleton.1 harrival]
        exact List.mem_append_right l.answers (List.mem_singleton_self (i, payload))
  | push payload =>
      refine ⟨h.queue, ?_⟩
      intro arrival harrival
      rcases List.mem_append.1 harrival with harrival | harrival
      · exact h.inbound arrival harrival
      · rw [List.mem_singleton.1 harrival]
        exact trivial
  | signal frame hframe =>
      refine ⟨h.queue, ?_⟩
      intro arrival harrival
      rcases List.mem_append.1 harrival with harrival | harrival
      · exact h.inbound arrival harrival
      · rw [List.mem_singleton.1 harrival]
        cases frame with
        | data payload => exact absurd rfl (hframe payload)
        | _ => rfl
  | arrive together hinbound hreading => exact h.read hinbound hreading _
  | _ => exact h.of_queue rfl rfl rfl rfl

end Carried

/-! ## Requests -/

/-- All requests that were handed over and can reach the peer, in their order. -/
def issued (l : Shared) : List Nat :=
  l.answers.map Prod.fst ++ l.backlog ++ l.outbound.filterMap Parcel.request?

theorem discarded_unsettled_suffix (l : Shared) (ws : WebSocket) :
    (l.discarded ws).unsettled <:+ l.unsettled :=
  List.suffix_append_self_iff.2 ((List.drop_suffix _ l.queued).filterMap _)

theorem took_unsettled_suffix (l : Shared) (rest : List (Except TransportFault Octets))
    (left : Nat) : (l.took rest left).unsettled <:+ l.unsettled :=
  List.suffix_append_self_iff.2 ((List.tail_suffix l.queued).filterMap _)

theorem filterMap_queues {answers : List (Nat × Octets)} {frame : Frame} {origin : Origin}
    (hcomes : Comes answers frame origin) (behind : List Frame) :
    (List.replicate (queues behind frame).length origin).filterMap Origin.request? =
      origin.request?.toList := by
  cases frame with
  | data payload => cases origin <;> rfl
  | _ =>
      obtain rfl : origin = .control := hcomes
      simp [List.filterMap_replicate, Origin.request?]

/-- What the reader reads goes on where it was coming. -/
theorem read_unsettled (hcarried : Carried l) {origin : Origin} {frame : Frame}
    {rest : List (Origin × Frame)} (hinbound : l.inbound = (origin, frame) :: rest)
    (hreading : l.socket.reading = true) (behind : List Frame) :
    (l.read (l.socket.receive frame behind).1 origin rest).unsettled = l.unsettled := by
  have hcomes : Comes l.answers frame origin :=
    hcarried.inbound (origin, frame) (by simp [hinbound])
  have hqueues := filterMap_queues hcomes behind
  have hhead : l.inbound.filterMap (fun arrival => arrival.1.request?) =
      origin.request?.toList ++ rest.filterMap fun arrival => arrival.1.request? := by
    rw [hinbound]
    cases hrequest : origin.request? <;> simp [hrequest]
  simp only [unsettled, underway, Shared.read, receive_queue l.socket frame behind hreading,
    List.length_append, Nat.add_sub_cancel_left, List.filterMap_append, hqueues, hhead,
    List.append_assoc]

theorem underway_handed (l : Shared) (parcels : List Parcel) :
    (l.handed parcels).underway = l.underway ++ parcels.filterMap Parcel.request? := by
  simp only [underway, handed, List.filterMap_append, List.append_assoc]

theorem unsettled_handed (l : Shared) (parcels : List Parcel) :
    (l.handed parcels).unsettled = l.unsettled ++ parcels.filterMap Parcel.request? := by
  rw [unsettled, underway_handed, ← List.append_assoc]
  rfl

theorem issued_handed (l : Shared) (parcels : List Parcel) :
    (l.handed parcels).issued = l.issued ++ parcels.filterMap Parcel.request? := by
  simp only [issued, handed, List.filterMap_append, List.append_assoc]

theorem eq_handed {before parcels : List Parcel} (houtbound : l.outbound = before ++ parcels) :
    l = { l with outbound := before }.handed parcels := by
  rw [handed, ← houtbound]

theorem filterMap_send (i : Nat) (frame : Sent) {errand : Errand} (hsend : errand.isSend = true) :
    [(⟨i, frame, errand.isSend⟩ : Parcel)].filterMap Parcel.request? = [i] := by
  simp [Parcel.request?, hsend]

theorem filterMap_other (i : Nat) (frame : Sent) {errand : Errand}
    (hsend : errand.isSend = false) :
    [(⟨i, frame, errand.isSend⟩ : Parcel)].filterMap Parcel.request? = [] := by
  simp [Parcel.request?, hsend]

theorem filterMap_closing (i : Nat) (frames : List Sent) :
    (frames.map fun frame => (⟨i, frame, false⟩ : Parcel)).filterMap Parcel.request? = [] := by
  simp [List.filterMap_map, Function.comp_def, Parcel.request?]

/-- A request that the peer receives goes on in its backlog. -/
theorem underway_receive {parcel : Parcel} {rest : List Parcel}
    (houtbound : l.outbound = parcel :: rest) :
    { l with outbound := rest, backlog := l.backlog ++ parcel.request?.toList }.underway =
      l.underway := by
  cases hrequest : parcel.request? <;> simp [underway, houtbound, hrequest]

/-- A request that the peer answers goes on as its answer. -/
theorem underway_answer {rest : List Nat} (hbacklog : l.backlog = i :: rest) (payload : Octets) :
    { l with
      backlog := rest
      answers := l.answers ++ [(i, payload)]
      inbound := l.inbound ++ [(Origin.answer i, Frame.data payload)] }.underway =
      l.underway := by
  simp [underway, hbacklog, Origin.request?, List.filterMap_append]

/-- What answers no request adds to none. -/
theorem underway_of_arrival (l : Shared) (socket : WebSocket) (origin : Origin) (frame : Frame)
    (hrequest : origin.request? = none) :
    { l with socket := socket, inbound := l.inbound ++ [(origin, frame)] }.underway =
      l.underway := by
  simp [underway, hrequest, List.filterMap_append]

theorem unsettled_congr (hqueued : l'.queued = l.queued) (hunderway : l'.underway = l.underway) :
    l'.unsettled = l.unsettled := by
  rw [unsettled, hqueued, hunderway, unsettled]

/-- The requests whose answers have not been taken are the latest of all, and that of the send whose
turn it is comes last. -/
structure Ordered (l : Shared) : Prop where
  suffix : l.unsettled <:+ l.issued
  nodup : l.issued.Nodup
  past : ∀ i ∈ l.issued, ∃ t, l.tasks[i]? = some t ∧ t.stage.isPast = true
  last (i : Nat) (t : Task) : l.tasks[i]? = some t → t.hasTurn = true → t.stage.isSent = true →
    l.issued.getLast? = some i

namespace Ordered

theorem not_mem_issued (h : Ordered l) (htask : l.tasks[i]? = some t)
    (hstage : t.stage.isPast = false) : i ∉ l.issued := by
  intro hmem
  obtain ⟨u, hu, hpast⟩ := h.past i hmem
  rw [htask, Option.some.injEq] at hu
  rw [← hu, hstage] at hpast
  cases hpast

/-- One task changes its stage, and no request is handed over. -/
theorem set (h : Ordered l) (htask : l.tasks[i]? = some t) (htasks : l'.tasks = l.tasks.set i u)
    (hsuffix : l'.unsettled <:+ l.unsettled) (hissued : l'.issued = l.issued)
    (hpast : t.stage.isPast = true → u.stage.isPast = true)
    (hlast : u.hasTurn = true → u.stage.isSent = true →
      t.hasTurn = true ∧ t.stage.isSent = true) : Ordered l' := by
  refine ⟨?_, hissued ▸ h.nodup, ?_, ?_⟩
  · rw [hissued]
    exact hsuffix.trans h.suffix
  · intro j hj
    rw [hissued] at hj
    obtain ⟨v, hv, hvpast⟩ := h.past j hj
    rw [htasks, getElem?_set_of_some htask]
    split
    · rename_i hji
      rw [hji, htask, Option.some.injEq] at hv
      exact ⟨u, rfl, hpast (hv ▸ hvpast)⟩
    · exact ⟨v, hv, hvpast⟩
  · intro j v hv hturn hsent
    rw [htasks, getElem?_set_of_some htask] at hv
    rw [hissued]
    split at hv
    · rename_i hji
      cases hv
      obtain ⟨htturn, htsent⟩ := hlast hturn hsent
      rw [hji]
      exact h.last i t htask htturn htsent
    · exact h.last j v hv hturn hsent

/-- No task changes its stage, and no request is handed over. -/
theorem keep (h : Ordered l) (htasks : l'.tasks = l.tasks)
    (hsuffix : l'.unsettled <:+ l.unsettled) (hissued : l'.issued = l.issued) : Ordered l' := by
  constructor
  · rw [hissued]
    exact hsuffix.trans h.suffix
  · rw [hissued]
    exact h.nodup
  · rw [hissued, htasks]
    exact h.past
  · rw [hissued, htasks]
    exact h.last

/-- No task changes its stage, and no request is handed over or settled. -/
theorem stay (h : Ordered l) (htasks : l'.tasks = l.tasks) (hunsettled : l'.unsettled = l.unsettled)
    (hissued : l'.issued = l.issued) : Ordered l' :=
  h.keep htasks (hunsettled ▸ List.suffix_refl _) hissued

theorem begin (h : Ordered l) (errand : Errand) :
    Ordered { l with tasks := l.tasks ++ [.begun errand] } := by
  refine ⟨h.suffix, h.nodup, ?_, ?_⟩
  · intro i hi
    obtain ⟨t, ht, hpast⟩ := h.past i hi
    exact ⟨t, getElem?_concat_of_some ht _, hpast⟩
  · intro i t ht hturn hsent
    rcases getElem?_of_concat ht with ht | rfl
    · exact h.last i t ht hturn hsent
    · rw [Task.hasTurn_begun] at hturn
      cases hturn

/-- A send that hands its request over becomes the last. -/
theorem handOver (h : Ordered l) (hlocked : Locked l) (htask : l.tasks[i]? = some t)
    (hturn : t.hasTurn = true) (hstage : t.stage.isPast = false) (hu : u.stage.isPast = true)
    (htasks : l'.tasks = l.tasks.set i u) (hunsettled : l'.unsettled = l.unsettled ++ [i])
    (hissued : l'.issued = l.issued ++ [i]) : Ordered l' := by
  refine ⟨?_, ?_, ?_, ?_⟩
  · rw [hunsettled, hissued]
    exact List.suffix_append_self_iff.2 h.suffix
  · rw [hissued, List.nodup_append_comm]
    exact List.nodup_cons.2 ⟨h.not_mem_issued htask hstage, h.nodup⟩
  · intro j hj
    rw [hissued, List.mem_append, List.mem_singleton] at hj
    rw [htasks, getElem?_set_of_some htask]
    split
    · exact ⟨u, rfl, hu⟩
    · rename_i hji
      exact h.past j (hj.resolve_right hji)
  · intro j v hv hvturn _
    rw [htasks, getElem?_set_of_some htask] at hv
    rw [hissued, List.getLast?_concat]
    split at hv
    · rename_i hji
      rw [hji]
    · rw [hlocked.eq_of_hasTurn htask hturn hv hvturn]

/-- A send whose request is lost on its way leaves the order as it was before. -/
theorem spoil (h : Ordered l) (hlocked : Locked l) (htask : l.tasks[i]? = some t)
    (hturn : t.hasTurn = true) (hu : u.isLive = false) (htasks : l'.tasks = l.tasks.set i u)
    (hunsettled : l.unsettled = l'.unsettled ++ [i]) (hissued : l.issued = l'.issued ++ [i]) :
    Ordered l' := by
  have hnodup := h.nodup
  rw [hissued, List.nodup_append_comm] at hnodup
  obtain ⟨hi, hnodup⟩ := List.nodup_cons.1 hnodup
  refine ⟨?_, hnodup, ?_, ?_⟩
  · have hsuffix := h.suffix
    rw [hunsettled, hissued] at hsuffix
    exact List.suffix_append_self_iff.1 hsuffix
  · intro j hj
    have hji : j ≠ i := fun hji => hi (hji ▸ hj)
    rw [htasks, getElem?_set_of_some htask, if_neg hji]
    exact h.past j (by rw [hissued]; exact List.mem_append_left [i] hj)
  · intro j v hv hvturn _
    rw [htasks, getElem?_set_of_some htask] at hv
    split at hv
    · cases hv
      rw [Task.hasTurn_of_left hu] at hvturn
      cases hvturn
    · rename_i hji
      exact absurd (hlocked.eq_of_hasTurn htask hturn hv hvturn) hji

theorem step {label : Label} (h : Ordered l) (hlocked : Locked l) (hcarried : Carried l)
    (hstep : Step l label l') : Ordered l' := by
  cases hstep with
  | begin errand => exact h.begin errand
  | @enter i destination payload ws events htask hturn henter =>
      exact h.set htask rfl (discarded_unsettled_suffix l ws) rfl (by simp [Stage.isPast])
        (by simp [Stage.isSent])
  | @bounce i destination payload ws events fault htask hturn henter =>
      exact h.set htask rfl (discarded_unsettled_suffix l ws) rfl (by simp [Stage.isPast])
        (by simp [Stage.isSent])
  | seize htask hwriter =>
      exact h.set htask rfl (List.suffix_refl _) rfl (by simp [Stage.isPast]) (by simp [Stage.isSent])
  | @handOver i errand payload frame htask hpayload hwrite =>
      have hunsettled := unsettled_handed l [⟨i, frame, errand.isSend⟩]
      have hissued := issued_handed l [⟨i, frame, errand.isSend⟩]
      rcases Bool.eq_false_or_eq_true errand.isSend with hsend | hsend
      · rw [filterMap_send i frame hsend] at hunsettled hissued
        exact h.handOver hlocked htask (Task.hasTurn_writing hsend) rfl rfl rfl hunsettled hissued
      · rw [filterMap_other i frame hsend, List.append_nil] at hunsettled hissued
        exact h.set htask rfl (hunsettled ▸ List.suffix_refl _) hissued (by simp [Stage.isPast])
          (by simp [Task.hasTurn, hsend])
  | @hangUp i ws frames htask hclose =>
      have hunsettled := unsettled_handed { l with socket := ws } (frames.map (⟨i, ·, false⟩))
      have hissued := issued_handed { l with socket := ws } (frames.map (⟨i, ·, false⟩))
      rw [filterMap_closing, List.append_nil] at hunsettled hissued
      exact h.set htask rfl (hunsettled ▸ List.suffix_refl _) hissued (by simp [Stage.isPast])
        (by simp [Task.hasTurn, Errand.isSend])
  | hangUpFailed htask hclose =>
      exact h.set htask rfl (List.suffix_refl _) rfl (by simp [Stage.isPast]) (by simp [Stage.isSent])
  | refuse fault htask =>
      exact h.set htask rfl (List.suffix_refl _) rfl (by simp [Stage.isPast]) (by simp [Stage.isSent])
  | @spoil i errand frame before fault htask houtbound =>
      have hunsettled := unsettled_handed { l with outbound := before } [⟨i, frame, errand.isSend⟩]
      have hissued := issued_handed { l with outbound := before } [⟨i, frame, errand.isSend⟩]
      rw [← eq_handed houtbound] at hunsettled hissued
      rcases Bool.eq_false_or_eq_true errand.isSend with hsend | hsend
      · rw [filterMap_send i frame hsend] at hunsettled hissued
        exact h.spoil hlocked htask (Task.hasTurn_flushing hsend) rfl rfl hunsettled hissued
      · rw [filterMap_other i frame hsend, List.append_nil] at hunsettled hissued
        exact h.set htask rfl (hunsettled ▸ List.suffix_refl _) hissued.symm
          (by simp [Stage.isPast]) (by simp [Stage.isSent])
  | written htask =>
      exact h.set htask rfl (List.suffix_refl _) rfl (by simp [Stage.isPast]) fun _ _ => ⟨rfl, rfl⟩
  | done htask hsend =>
      exact h.set htask rfl (List.suffix_refl _) rfl (by simp [Stage.isPast]) (by simp [Stage.isSent])
  | skip htask hqueue hjudge => exact h.keep rfl (took_unsettled_suffix l _ _) rfl
  | @answered _ _ _ _ _ rest left _ _ htask hqueue hqueued hjudge =>
      exact h.set htask rfl (took_unsettled_suffix l rest left) rfl (by simp [Stage.isPast])
        (by simp [Stage.isSent])
  | @failed _ _ _ _ rest left _ htask hqueue hjudge =>
      exact h.set htask rfl (took_unsettled_suffix l rest left) rfl (by simp [Stage.isPast])
        (by simp [Stage.isSent])
  | stranded htask hqueue hreading =>
      exact h.set htask rfl (List.suffix_refl _) rfl (by simp [Stage.isPast]) (by simp [Stage.isSent])
  | drop htask hover =>
      exact h.set htask rfl (List.suffix_refl _) rfl id (by simp [Task.hasTurn, Task.isLive])
  | @receive parcel rest houtbound =>
      refine h.stay rfl (unsettled_congr rfl (underway_receive houtbound)) ?_
      cases hrequest : parcel.request? <;> simp [issued, houtbound, hrequest]
  | answer payload hbacklog =>
      exact h.stay rfl (unsettled_congr rfl (underway_answer hbacklog payload))
        (by simp [issued, hbacklog])
  | push payload =>
      exact h.stay rfl (unsettled_congr rfl (underway_of_arrival l _ _ _ rfl)) rfl
  | signal frame hframe =>
      exact h.stay rfl (unsettled_congr rfl (underway_of_arrival l _ _ _ rfl)) rfl
  | arrive together hinbound hreading =>
      exact h.stay rfl (read_unsettled hcarried hinbound hreading _) rfl

end Ordered

end Shared

variable {conduct : Shared → Label → Prop} {l : Shared}

theorem Reachable.carried (h : Reachable conduct l) : l.Carried := by
  induction h with
  | start => exact ⟨.nil, by simp⟩
  | step h hconduct hstep ih => exact ih.step hstep

theorem Reachable.ordered (h : Reachable conduct l) : l.Ordered := by
  induction h with
  | start => exact ⟨List.suffix_refl _, List.nodup_nil, by simp [Shared.issued], by simp⟩
  | step h hconduct hstep ih => exact ih.step h.locked h.carried hstep

end JsonRpc.WebSocket
