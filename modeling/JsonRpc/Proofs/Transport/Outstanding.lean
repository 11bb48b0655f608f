import Mathlib.Data.List.Count
import JsonRpc.Proofs.Transport.Correlation

/-!
# Requests that are counted for nothing

A send counts its request before it hands it over.  If it is given up in
between, the request stays counted and no answer to it will ever come.  There
is no other way to count too many.  Such a request is forgone, and while there
is one, a send that takes the answer to its own request takes it for that of
another, and goes on waiting.
-/

namespace JsonRpc.WebSocket

namespace Shared

variable {l l' : Shared} {i : Nat} {t u : Task}

/-- How many sends were given up after they had counted their requests and before they had handed
them over. -/
def forgone (l : Shared) : Nat := l.tasks.countP fun t => t.dropped && t.isCounted

theorem countP_set_of_task (p : Task → Bool) (htask : l.tasks[i]? = some t) (u : Task) :
    (l.tasks.set i u).countP p + (p t).toNat = l.tasks.countP p + (p u).toNat := by
  obtain ⟨hi, rfl⟩ := List.getElem?_eq_some_iff.1 htask
  have hpos : p l.tasks[i] = true → 0 < l.tasks.countP p := fun h =>
    List.countP_pos_iff.2 ⟨_, List.getElem_mem hi, h⟩
  rw [List.countP_set hi]
  cases hp : p l.tasks[i] <;> cases hu : p u <;> simp
  all_goals
    have := hpos hp
    omega

/-- Every request that is counted is on its way to its answer, or was not handed over. -/
def Exact (l : Shared) : Prop :=
  l.socket.outstanding = l.unsettled.length + l.tasks.countP Task.isCounted

namespace Exact

/-- A task changes its stage, and the count changes as the requests do. -/
theorem set (h : Exact l) (htask : l.tasks[i]? = some t) (htasks : l'.tasks = l.tasks.set i u)
    (hcount : l'.socket.outstanding + l.unsettled.length + t.isCounted.toNat =
      l.socket.outstanding + l'.unsettled.length + u.isCounted.toNat) : Exact l' := by
  have hcounted := countP_set_of_task Task.isCounted htask u
  rw [Exact] at h ⊢
  rw [htasks]
  omega

/-- Nothing is counted or counted down, and no request comes or goes. -/
theorem keep (h : Exact l) (htasks : l'.tasks = l.tasks)
    (houtstanding : l'.socket.outstanding = l.socket.outstanding)
    (hunsettled : l'.unsettled = l.unsettled) : Exact l' := by
  rw [Exact, htasks, houtstanding, hunsettled]
  exact h

theorem begin (h : Exact l) (errand : Errand) :
    Exact { l with tasks := l.tasks ++ [.begun errand] } := by
  have hbegun : (Task.begun errand).isCounted = false := by cases errand <;> rfl
  rw [Exact, List.countP_append, List.countP_singleton, hbegun]
  exact h

theorem pos (h : Exact l) (htask : l.tasks[i]? = some t) (hcounted : t.isCounted = true) :
    0 < l.socket.outstanding := by
  have hpos := List.countP_pos_iff.2 ⟨t, List.mem_of_getElem? htask, hcounted⟩
  rw [Exact] at h
  omega

theorem enter (h : Exact l) (hcarried : Carried l) (hasked : Asked l) {destination : String}
    {payload : Octets} {ws : WebSocket} {events : List Event}
    (htask : l.tasks[i]? = some ⟨.send destination payload, .queueing, false⟩)
    (henter : l.socket.enter destination = (ws, events, .ok ())) :
    Exact { (l.discarded ws).resume i ⟨.send destination payload, .posting, false⟩ with
      turn := some i } := by
  obtain ⟨taken, hlength, houtstanding⟩ := enter_counts_of_ok hcarried hasked.queued henter
  refine h.set htask rfl ?_
  change ws.outstanding + l.unsettled.length + 0 =
    l.socket.outstanding + (l.discarded ws).unsettled.length + 1
  rw [Exact] at h
  omega

theorem bounce (h : Exact l) (hcarried : Carried l) (hasked : Asked l) {destination : String}
    {payload : Octets} {ws : WebSocket} {events : List Event} {fault : TransportFault}
    (htask : l.tasks[i]? = some ⟨.send destination payload, .queueing, false⟩)
    (henter : l.socket.enter destination = (ws, events, .error fault)) :
    Exact ((l.discarded ws).leave i ⟨.send destination payload, .failed fault, false⟩) := by
  obtain ⟨taken, hlength, houtstanding⟩ := enter_counts_of_error hcarried hasked.queued henter
  refine h.set htask rfl ?_
  change ws.outstanding + l.unsettled.length + 0 =
    l.socket.outstanding + (l.discarded ws).unsettled.length + 0
  rw [Exact] at h
  omega

theorem handOver (h : Exact l) {errand : Errand} (frame : Sent)
    (htask : l.tasks[i]? = some ⟨errand, .writing, false⟩) :
    Exact ((l.handed [⟨i, frame, errand.isSend⟩]).resume i ⟨errand, .flushing, false⟩) := by
  have hunsettled := unsettled_handed l [⟨i, frame, errand.isSend⟩]
  refine h.set htask rfl ?_
  change l.socket.outstanding + l.unsettled.length + _ =
    l.socket.outstanding + (l.handed _).unsettled.length + _
  rw [hunsettled]
  cases hsend : errand.isSend <;>
    simp [Task.isCounted, Stage.isCounted, Parcel.request?, hsend, Nat.add_assoc]

theorem refuse (h : Exact l) {errand : Errand} (fault : TransportFault)
    (htask : l.tasks[i]? = some ⟨errand, .writing, false⟩) :
    Exact ({ l with socket := errand.withdrawn l.socket }.leave i ⟨errand, .failed fault, false⟩) := by
  refine h.set htask rfl ?_
  change (errand.withdrawn l.socket).outstanding + l.unsettled.length + _ =
    l.socket.outstanding + l.unsettled.length + _
  rcases Bool.eq_false_or_eq_true errand.isSend with hsend | hsend
  · have hpos := h.pos htask (by simp [Task.isCounted, Stage.isCounted, hsend])
    simp only [withdrawn_of_send l.socket hsend, withdraw, Task.isCounted, Stage.isCounted, hsend,
      Bool.and_true, Bool.and_false, Bool.toNat_true, Bool.toNat_false]
    omega
  · simp [withdrawn_of_other l.socket hsend, Task.isCounted, hsend]

theorem spoil (h : Exact l) {errand : Errand} (fault : TransportFault) {frame : Sent}
    {before : List Parcel} (htask : l.tasks[i]? = some ⟨errand, .flushing, false⟩)
    (houtbound : l.outbound = before ++ [⟨i, frame, errand.isSend⟩]) :
    Exact ({ l with socket := errand.withdrawn l.socket, outbound := before }.leave i
      ⟨errand, .failed fault, false⟩) := by
  have hunsettled := unsettled_handed { l with outbound := before } [⟨i, frame, errand.isSend⟩]
  rw [← eq_handed houtbound] at hunsettled
  refine h.set htask rfl ?_
  change (errand.withdrawn l.socket).outstanding + l.unsettled.length + _ =
    l.socket.outstanding + ({ l with outbound := before } : Shared).unsettled.length + _
  rcases Bool.eq_false_or_eq_true errand.isSend with hsend | hsend
  · rw [filterMap_send i frame hsend] at hunsettled
    rw [Exact, hunsettled, List.length_append, List.length_singleton] at h
    rw [hunsettled, List.length_append, List.length_singleton, withdrawn_of_send l.socket hsend]
    simp only [withdraw, Task.isCounted, Stage.isCounted, Bool.and_false]
    omega
  · rw [filterMap_other i frame hsend, List.append_nil] at hunsettled
    rw [hunsettled, withdrawn_of_other l.socket hsend]
    simp [Task.isCounted, hsend]

/-- What is taken for a reply is the answer to a request, which is settled and counted down. -/
theorem took_payload (h : Exact l) (hcarried : Carried l) (hasked : Asked l) {payload : Octets}
    {rest : List (Except TransportFault Octets)} (hqueue : l.socket.queue = .ok payload :: rest) :
    Exact (l.took rest (l.socket.outstanding - 1)) := by
  obtain ⟨j, origins, hqueued, -⟩ := hcarried.exists_answer hasked.queued hqueue
  have hlength := congrArg List.length
    (unsettled_eq_cons_took rest (l.socket.outstanding - 1) hqueued)
  rw [List.length_cons] at hlength
  rw [Exact] at h ⊢
  change l.socket.outstanding - 1 = _ + l.tasks.countP Task.isCounted
  omega

/-- A failure settles no request. -/
theorem took_error (h : Exact l) (hcarried : Carried l) {fault : TransportFault}
    {rest : List (Except TransportFault Octets)} (hqueue : l.socket.queue = .error fault :: rest) :
    Exact (l.took rest l.socket.outstanding) := by
  refine h.keep rfl rfl ?_
  have hforall := hcarried.queue
  rw [hqueue] at hforall
  cases hqueued : l.queued with
  | nil =>
      rw [hqueued] at hforall
      cases hforall
  | cons origin origins =>
      rw [hqueued] at hforall
      obtain ⟨hfits, -⟩ := List.forall₂_cons.1 hforall
      cases origin with
      | control => simp [unsettled, underway, Shared.took, hqueued, Origin.request?, List.filterMap_cons]
      | _ => exact hfits.elim

/-- A send that has taken an item leaves. -/
theorem leave (h : Exact l) (htask : l.tasks[i]? = some t) (ht : t.isCounted = false)
    (hu : u.isCounted = false) : Exact (l.leave i u) := by
  refine h.set htask rfl ?_
  rw [ht, hu]
  rfl

theorem step {label : Label} (h : Exact l) (hcarried : Carried l) (hasked : Asked l)
    (hstep : Step l label l') : Exact l' := by
  cases hstep with
  | begin errand => exact h.begin errand
  | enter htask hturn henter => exact h.enter hcarried hasked htask henter
  | bounce htask hturn henter => exact h.bounce hcarried hasked htask henter
  | seize htask hwriter => exact h.set htask rfl rfl
  | handOver htask hpayload hwrite => exact h.handOver _ htask
  | @hangUp i ws frames htask hclose =>
      have hunsettled := unsettled_handed { l with socket := ws } (frames.map (⟨i, ·, false⟩))
      rw [filterMap_closing, List.append_nil] at hunsettled
      have houtstanding := hangUp_outstanding l.socket
      rw [hclose] at houtstanding
      have hhanded : Exact ({ l with socket := ws }.handed (frames.map (⟨i, ·, false⟩))) :=
        h.keep rfl houtstanding hunsettled
      exact hhanded.set htask rfl rfl
  | @hangUpFailed i ws frames fault htask hclose =>
      have houtstanding := hangUp_outstanding l.socket
      rw [hclose] at houtstanding
      have hfailed : Exact { l with socket := ws } := h.keep rfl houtstanding rfl
      exact hfailed.leave htask rfl rfl
  | refuse fault htask => exact h.refuse fault htask
  | spoil fault htask houtbound => exact h.spoil fault htask houtbound
  | written htask => exact h.set htask rfl rfl
  | @done i errand htask hsend =>
      exact h.leave htask (by simp [Task.isCounted, hsend]) (by simp [Task.isCounted, hsend])
  | skip htask hqueue hjudge =>
      obtain ⟨⟨payload, rfl⟩, rfl, -⟩ := judge_eq_pending hjudge
      exact h.took_payload hcarried hasked hqueue
  | answered htask hqueue hqueued hjudge =>
      obtain ⟨rfl, rfl, -⟩ := judge_eq_reply hjudge
      exact (h.took_payload hcarried hasked hqueue).leave htask rfl rfl
  | failed htask hqueue hjudge =>
      obtain ⟨rfl, rfl⟩ := judge_eq_failed hjudge
      exact (h.took_error hcarried hqueue).leave htask rfl rfl
  | stranded htask hqueue hreading => exact h.leave htask rfl rfl
  | drop htask hover => exact h.set htask rfl rfl
  | receive houtbound =>
      exact h.keep rfl rfl (unsettled_congr rfl (underway_receive houtbound))
  | answer payload hbacklog =>
      exact h.keep rfl rfl (unsettled_congr rfl (underway_answer hbacklog payload))
  | push payload =>
      exact h.keep rfl rfl (unsettled_congr rfl (underway_of_arrival l _ _ _ rfl))
  | signal frame hframe =>
      exact h.keep rfl rfl (unsettled_congr rfl (underway_of_arrival l _ _ _ rfl))
  | arrive together hinbound hreading =>
      exact h.keep rfl (receive_outstanding l.socket _ _)
        (read_unsettled hcarried hinbound hreading _)

end Exact

end Shared

variable {l : Shared}

theorem Reachable.exact (h : Reachable Quiet l) : l.Exact := by
  induction h with
  | start => rfl
  | step h hconduct hstep ih => exact ih.step h.carried h.asked hstep

namespace Shared

variable {i : Nat} {t : Task}

theorem hasTurn_of_isCounted (hcounted : t.isCounted = true) (hdropped : t.dropped = false) :
    t.hasTurn = true := by
  obtain ⟨errand, stage, dropped⟩ := t
  cases stage <;> simp_all [Task.isCounted, Task.hasTurn, Task.isLive, Stage.isCounted, Stage.isOver]

/-- Unless the send whose turn it is has counted its request, all such sends were given up. -/
theorem Locked.countP_eq_forgone (h : Locked l)
    (hturn : ∀ i t, l.turn = some i → l.tasks[i]? = some t → t.isCounted = false) :
    l.tasks.countP Task.isCounted = l.forgone := by
  refine List.countP_congr fun t ht => ?_
  rw [Bool.and_eq_true]
  refine ⟨fun hcounted => ⟨?_, hcounted⟩, And.right⟩
  obtain ⟨i, hi⟩ := List.mem_iff_getElem?.1 ht
  by_contra hdropped
  have hhas := hasTurn_of_isCounted hcounted (Bool.not_eq_true _ ▸ hdropped)
  rw [hturn i t (h.turn_eq hi hhas) hi] at hcounted
  cases hcounted

/-- A send that takes the answer to its own request leaves no request without an answer. -/
theorem Ordered.unsettled_of_own (h : Ordered l) (hawaits : l.Awaits i) {origins : List Origin}
    (hqueued : l.queued = .answer i :: origins) : l.unsettled = [i] := by
  obtain ⟨t, htask, hturn, hstage⟩ := hawaits
  have hlast := h.last i t htask hturn (by rw [hstage]; rfl)
  have hcons := unsettled_eq_cons_took l.socket.queue.tail l.socket.outstanding hqueued
  obtain ⟨front, hfront⟩ := h.suffix
  have hnodup := h.nodup
  rw [← hfront, hcons] at hnodup hlast
  obtain ⟨hfirst, -⟩ := List.nodup_cons.1 hnodup.of_append_right
  rcases List.eq_nil_or_concat (l.took l.socket.queue.tail l.socket.outstanding).unsettled with
    hrest | ⟨rest, j, hrest⟩
  · rw [hcons, hrest]
  · rw [hrest, List.concat_eq_append, ← List.cons_append, ← List.append_assoc,
      List.getLast?_concat, Option.some.injEq] at hlast
    exact absurd (by simp [hrest, hlast]) hfirst

end Shared

/-- While no send has its turn, the count is of the requests on their way to their answers and of
those forgone.  So a send that takes the answer to its own request returns it if none was forgone,
and otherwise goes on waiting. -/
theorem outstanding_of_quiet (h : Reachable Quiet l) :
    (l.turn = none → l.socket.outstanding = l.unsettled.length + l.forgone) ∧
    ∀ i payload rest origins, l.Awaits i → l.socket.queue = .ok payload :: rest →
      l.queued = .answer i :: origins →
        judge l.socket.outstanding (.ok payload) =
          if l.forgone = 0 then (.reply payload, 0) else (.pending, l.forgone) := by
  have hexact := h.exact
  rw [Shared.Exact] at hexact
  constructor
  · intro hturn
    rw [h.locked.countP_eq_forgone (by simp [hturn])] at hexact
    exact hexact
  · intro i payload rest origins hawaits hqueue hqueued
    have hcounted : l.tasks.countP Task.isCounted = l.forgone := by
      refine h.locked.countP_eq_forgone fun j t hj ht => ?_
      obtain ⟨u, hu, hturn, hstage⟩ := hawaits
      obtain rfl := Option.some.inj ((h.locked.turn_eq hu hturn).symm.trans hj)
      obtain rfl := Option.some.inj (hu.symm.trans ht)
      have hcounted : u.stage.isCounted = false := by
        rw [hstage]
        rfl
      rw [Task.isCounted, hcounted, Bool.and_false]
    rw [h.ordered.unsettled_of_own hawaits hqueued, List.length_singleton, hcounted] at hexact
    rw [judge, hexact, Nat.add_sub_cancel_left]
    by_cases hforgone : l.forgone = 0 <;> simp [hforgone]

/-- A send was given up while a publication had the way out, and now nobody uses the connection. -/
def afterForgone : Shared where
  socket := { outstanding := 1 }
  tasks := [⟨.publish "peer" [0], .finished, false⟩, ⟨.send "peer" [1], .posting, true⟩]
  outbound := [⟨0, .text "\x00", false⟩]

theorem reachable_afterForgone : Reachable Quiet afterForgone := by
  have h : Reachable Quiet {} := .start
  have h := h.step (by nofun) (.begin (.publish "peer" [0]))
  have h := h.step (by nofun) (.seize (i := 0) rfl rfl)
  have h := h.step (by nofun) (.begin (.send "peer" [1]))
  have h := h.step (by nofun) (.enter (i := 1) rfl rfl rfl)
  have h := h.step (by nofun) (.drop (i := 1) rfl rfl)
  have h := h.step (by nofun) (.handOver (i := 0) rfl rfl rfl)
  exact h.step (by nofun) (.done (i := 0) rfl rfl)

def replyQueued : Shared where
  socket := { outstanding := 2, queue := [.ok [20]] }
  tasks := afterForgone.tasks ++ [⟨.send "peer" [2], .awaiting, false⟩]
  turn := some 2
  answers := [(2, [20])]
  queued := [.answer 2]

theorem reachable_replyQueued : Reachable Quiet replyQueued := by
  have h := reachable_afterForgone.send (fun _ => nofun) "peer" [2] rfl rfl rfl rfl
  have h := h.step (by nofun) (.receive rfl)
  have h := h.step (by nofun) (.receive rfl)
  have h := h.step (by nofun) (.answer [20] rfl)
  have h := h.step (by nofun) (.arrive 0 rfl rfl)
  exact h

/-- The request that was given up is still counted when the next send takes the answer to its own. -/
theorem outstanding_of_quiet_after_forgone :
    Reachable Quiet replyQueued ∧ judge replyQueued.socket.outstanding (.ok [20]) = (.pending, 1) :=
  ⟨reachable_replyQueued,
    (outstanding_of_quiet reachable_replyQueued).2 2 [20] [] [] ⟨_, rfl, rfl, rfl⟩ rfl rfl⟩

/-- So the count is not of the requests that were handed over, not even on a connection that is
alive, and the answer to its own request can be lost on a send. -/
theorem own_answer_lost_after_forgone :
    (∃ l, Reachable Quiet l ∧ l.turn = none ∧ l.socket.link = .live ∧ l.unsettled = [] ∧
      l.socket.outstanding = 1) ∧
    ∃ l, Reachable Quiet l ∧ l.socket.link = .live ∧ l.Awaits 2 ∧ (2, [20]) ∈ l.answers ∧
      l.unsettled = [] :=
  ⟨⟨_, reachable_afterForgone, rfl, rfl, rfl, rfl⟩,
    _, reachable_replyQueued.step (by nofun) (.skip (i := 2) rfl rfl rfl), rfl, ⟨_, rfl, rfl, rfl⟩,
      by decide, rfl⟩

end JsonRpc.WebSocket
