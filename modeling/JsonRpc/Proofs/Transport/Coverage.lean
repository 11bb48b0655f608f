import JsonRpc.Proofs.Transport.Counting

/-!
# Enough requests are counted

A send believes that a reply is its own when no other request is outstanding.
That is right as long as no request whose answer can still be taken is missing
from the count.  `Covered` is the invariant that says so.  It bounds the count
from below, so it does not matter that a request may be counted which was never
handed over.

Data that nobody asked for are counted down like replies, so the bound holds
only if they arrive while no reply is to come.
-/

namespace JsonRpc.WebSocket

namespace Shared

variable {l l' : Shared} {i j : Nat} {t u : Task}

/-- Nothing is taken for the last reply too early.  All requests whose answers can still be taken are
counted, and that of the send whose turn it is from before it is handed over until it ends;
and what nobody asked for is queued only while nothing depends on the count. -/
structure Covered (l : Shared) : Prop where
  unsettled : l.unsettled.length ≤ l.socket.outstanding
  counted (i : Nat) (t : Task) : l.turn = some i → l.tasks[i]? = some t →
    t.stage.isCounted = true → l.unsettled.length < l.socket.outstanding
  positive : l.turn ≠ none → 0 < l.socket.outstanding
  unasked : .unasked ∈ l.queued → l.turn = none ∧ l.underway = []

namespace Covered

theorem unasked_not_mem (h : Covered l) (hturn : l.turn = some i) : .unasked ∉ l.queued := by
  intro hmem
  have := (h.unasked hmem).1
  rw [hturn] at this
  cases this

/-- Nothing is counted, and nothing more has to be. -/
theorem weaken (h : Covered l) (hunsettled : l'.unsettled.length ≤ l.unsettled.length)
    (houtstanding : l'.socket.outstanding = l.socket.outstanding)
    (hturn : ∀ j, l'.turn = some j → l.turn = some j)
    (htasks : ∀ j u, l'.turn = some j → l'.tasks[j]? = some u → u.stage.isCounted = true →
      ∃ t, l.tasks[j]? = some t ∧ t.stage.isCounted = true)
    (hqueued : .unasked ∈ l'.queued → .unasked ∈ l.queued)
    (hunderway : l.underway = [] → l'.underway = []) : Covered l' := by
  refine ⟨?_, ?_, ?_, ?_⟩
  · rw [houtstanding]
    exact Nat.le_trans hunsettled h.unsettled
  · intro j u hj hu hcounted
    obtain ⟨t, ht, htcounted⟩ := htasks j u hj hu hcounted
    rw [houtstanding]
    exact Nat.lt_of_le_of_lt hunsettled (h.counted j t (hturn j hj) ht htcounted)
  · intro hsome
    obtain ⟨j, hj⟩ := Option.ne_none_iff_exists'.1 hsome
    rw [houtstanding]
    exact h.positive (by simp [hturn j hj])
  · intro hmem
    obtain ⟨hnone, hempty⟩ := h.unasked (hqueued hmem)
    refine ⟨?_, hunderway hempty⟩
    cases hj : l'.turn with
    | none => rfl
    | some j => simp [hturn j hj] at hnone

/-- A task changes its stage, and nothing more has to be counted. -/
theorem set (h : Covered l) (htask : l.tasks[i]? = some t) (htasks : l'.tasks = l.tasks.set i u)
    (hstage : u.stage.isCounted = true → t.stage.isCounted = true)
    (hunsettled : l'.unsettled.length ≤ l.unsettled.length)
    (houtstanding : l'.socket.outstanding = l.socket.outstanding)
    (hturn : ∀ j, l'.turn = some j → l.turn = some j)
    (hqueued : .unasked ∈ l'.queued → .unasked ∈ l.queued)
    (hunderway : l'.underway = l.underway) : Covered l' := by
  refine h.weaken hunsettled houtstanding hturn ?_ hqueued fun hempty => hunderway.trans hempty
  intro j v _ hv hcounted
  rw [htasks, getElem?_set_of_some htask] at hv
  split at hv
  · rename_i hji
    cases hv
    exact ⟨t, hji ▸ htask, hstage hcounted⟩
  · exact ⟨v, hv, hcounted⟩

/-- No task changes its stage, and no request is counted, handed over or settled. -/
theorem keep (h : Covered l) (htasks : l'.tasks = l.tasks) (hturn : l'.turn = l.turn)
    (houtstanding : l'.socket.outstanding = l.socket.outstanding) (hqueued : l'.queued = l.queued)
    (hunderway : l'.underway = l.underway) : Covered l' := by
  refine h.weaken (Nat.le_of_eq (congrArg _ (unsettled_congr hqueued hunderway))) houtstanding
    (by simp [hturn]) ?_ (hqueued ▸ id) fun hempty => hunderway.trans hempty
  intro j u _ hu hcounted
  exact ⟨u, htasks ▸ hu, hcounted⟩

/-- The send whose turn it is leaves. -/
theorem leave (h : Covered l) (hturn : l.turn = some i) (hturn' : l'.turn = none)
    (hunsettled : l'.unsettled.length ≤ l'.socket.outstanding)
    (hqueued : ∀ origin ∈ l'.queued, origin ∈ l.queued) : Covered l' := by
  refine ⟨hunsettled, ?_, ?_, ?_⟩
  · intro j u hj
    rw [hturn'] at hj
    cases hj
  · exact fun hne => absurd hturn' hne
  · exact fun hmem => absurd (hqueued _ hmem) (h.unasked_not_mem hturn)

theorem begin (h : Covered l) (hlocked : Locked l) (errand : Errand) :
    Covered { l with tasks := l.tasks ++ [.begun errand] } := by
  refine h.weaken (Nat.le_refl _) rfl (fun _ hj => hj) ?_ id id
  intro j u hj hu hcounted
  obtain ⟨t, ht, -⟩ := (hlocked.turn j).1 hj
  rw [getElem?_concat_of_some ht, Option.some.injEq] at hu
  exact ⟨t, ht, hu ▸ hcounted⟩

theorem enter (h : Covered l) (hcarried : Carried l) {destination : String} {payload : Octets}
    {ws : WebSocket} {events : List Event}
    (henter : l.socket.enter destination = (ws, events, .ok ())) :
    Covered { (l.discarded ws).resume i ⟨.send destination payload, .posting, false⟩ with
      turn := some i } := by
  obtain ⟨-, houtstanding, -⟩ := enter_eq_ok henter
  have hqueued := discarded_of_ok hcarried henter
  have hcounted : (l.discarded ws).unsettled.length < ws.outstanding := by
    by_cases hasked : .unasked ∈ l.queued
    · -- Replies and other data were counted down alike, but no reply is to come.
      have hunsettled : (l.discarded ws).unsettled = [] := by
        rw [Shared.unsettled, hqueued]
        exact (h.unasked hasked).2
      rw [hunsettled, houtstanding]
      exact Nat.succ_pos _
    · obtain ⟨taken, hlength, htaken⟩ := enter_counts_of_ok hcarried hasked henter
      have := h.unsettled
      omega
  refine ⟨Nat.le_of_lt hcounted, fun _ _ _ _ _ => hcounted, fun _ => ?_, fun hmem => ?_⟩
  · exact Nat.lt_of_le_of_lt (Nat.zero_le _) hcounted
  · change _ ∈ (l.discarded ws).queued at hmem
    rw [hqueued] at hmem
    cases hmem

theorem bounce (h : Covered l) (hcarried : Carried l) (hended : Ended l.socket)
    (hturn : l.turn = none) {destination : String} {ws : WebSocket} {events : List Event}
    {fault : TransportFault} (henter : l.socket.enter destination = (ws, events, .error fault)) :
    Covered ((l.discarded ws).leave i u) := by
  have hrelease : release l.turn i = none := by rw [hturn]; rfl
  have hqueued : (l.discarded ws).queued = [] := by
    obtain ⟨payloads, hqueue, -⟩ := enter_eq_error henter
    have hlength := (hcarried.discarded henter).queue.length_eq
    rw [show (l.discarded ws).socket.queue = [] from (hended _ fault _ hqueue).1] at hlength
    exact List.eq_nil_of_length_eq_zero hlength.symm
  refine ⟨?_, ?_, ?_, ?_⟩
  · change (l.discarded ws).unsettled.length ≤ ws.outstanding
    by_cases hasked : .unasked ∈ l.queued
    · rw [Shared.unsettled, hqueued]
      change l.underway.length ≤ ws.outstanding
      rw [(h.unasked hasked).2]
      exact Nat.zero_le _
    · obtain ⟨taken, hlength, htaken⟩ := enter_counts_of_error hcarried hasked henter
      have := h.unsettled
      omega
  · intro j v hj
    change release l.turn i = some j at hj
    rw [hrelease] at hj
    cases hj
  · exact fun hne => absurd hrelease hne
  · intro hmem
    change _ ∈ (l.discarded ws).queued at hmem
    rw [hqueued] at hmem
    cases hmem

/-- The send whose turn it is hands its request over, which was counted before. -/
theorem handOver (h : Covered l) (hturn : l.turn = some i)
    (htask : l.tasks[i]? = some t) (hstage : t.stage.isCounted = true)
    (htasks : l'.tasks = l.tasks.set i u) (hu : u.stage.isCounted = false)
    (hturn' : l'.turn = l.turn) (hunsettled : l'.unsettled = l.unsettled ++ [i])
    (houtstanding : l'.socket.outstanding = l.socket.outstanding)
    (hqueued : l'.queued = l.queued) : Covered l' := by
  have hcounted := h.counted i t hturn htask hstage
  refine ⟨?_, ?_, ?_, ?_⟩
  · rw [hunsettled, houtstanding, List.length_append]
    exact hcounted
  · intro j v hj hv hvcounted
    rw [hturn', hturn, Option.some.injEq] at hj
    rw [htasks, getElem?_set_of_some htask, if_pos hj.symm, Option.some.injEq] at hv
    rw [← hv, hu] at hvcounted
    cases hvcounted
  · intro _
    rw [houtstanding]
    exact Nat.lt_of_le_of_lt (Nat.zero_le _) hcounted
  · intro hmem
    rw [hqueued] at hmem
    exact absurd hmem (h.unasked_not_mem hturn)

theorem underway_read_eq_nil {ws : WebSocket} {origin : Origin} {frame : Frame}
    {rest : List (Origin × Frame)} (hinbound : l.inbound = (origin, frame) :: rest)
    (hempty : l.underway = []) : (l.read ws origin rest).underway = [] := by
  simp only [underway, hinbound, List.append_eq_nil_iff] at hempty ⊢
  obtain ⟨⟨harriving, hbacklog⟩, houtbound⟩ := hempty
  refine ⟨⟨?_, hbacklog⟩, houtbound⟩
  rw [List.filterMap_cons] at harriving
  split at harriving
  · exact harriving
  · cases harriving

/-- The reader reads a frame.  If nobody asked for it, nothing depends on the count. -/
theorem read (h : Covered l) (hcarried : Carried l) {origin : Origin} {frame : Frame}
    {rest : List (Origin × Frame)} (hinbound : l.inbound = (origin, frame) :: rest)
    (hreading : l.socket.reading = true) (behind : List Frame)
    (hunasked : origin = .unasked → l.turn = none ∧ l.underway = []) :
    Covered (l.read (l.socket.receive frame behind).1 origin rest) := by
  have hunsettled := read_unsettled hcarried hinbound hreading behind
  have houtstanding := receive_outstanding l.socket frame behind
  refine ⟨?_, ?_, ?_, ?_⟩
  · rw [hunsettled]
    exact houtstanding ▸ h.unsettled
  · rw [hunsettled]
    intro i t hturn htask hcounted
    exact houtstanding ▸ h.counted i t hturn htask hcounted
  · exact fun hne => houtstanding ▸ h.positive hne
  · intro hmem
    rcases List.mem_append.1 hmem with hmem | hmem
    · obtain ⟨hnone, hempty⟩ := h.unasked hmem
      exact ⟨hnone, underway_read_eq_nil hinbound hempty⟩
    · obtain ⟨hnone, hempty⟩ := hunasked (List.eq_of_mem_replicate hmem).symm
      exact ⟨hnone, underway_read_eq_nil hinbound hempty⟩

theorem skip (h : Covered l) (hcarried : Carried l) (hturn : l.turn = some i)
    (htask : l.tasks[i]? = some t) (hstage : t.stage.isCounted = false)
    {item : Except TransportFault Octets} {rest : List (Except TransportFault Octets)}
    {left : Nat} (hqueue : l.socket.queue = item :: rest)
    (hjudge : judge l.socket.outstanding item = (.pending, left)) : Covered (l.took rest left) := by
  obtain ⟨⟨payload, rfl⟩, hleft, hpos⟩ := judge_eq_pending hjudge
  obtain ⟨j, origins, hqueued, -⟩ :=
    hcarried.exists_answer (h.unasked_not_mem hturn) hqueue
  have hlength := congrArg List.length (unsettled_eq_cons_took rest left hqueued)
  rw [List.length_cons] at hlength
  have hunsettled := h.unsettled
  refine ⟨?_, ?_, fun _ => hpos, ?_⟩
  · change (l.took rest left).unsettled.length ≤ left
    omega
  · intro k u hk hu hcounted
    obtain rfl : i = k := Option.some.inj (hturn.symm.trans hk)
    rw [show l.tasks[i]? = some u from hu, Option.some.injEq] at htask
    rw [htask, hstage] at hcounted
    cases hcounted
  · intro hmem
    exact absurd (List.mem_of_mem_tail hmem) (h.unasked_not_mem hturn)

theorem step {label : Label} (h : Covered l) (hlocked : Locked l) (hcarried : Carried l)
    (hended : Ended l.socket) (hconduct : Considerate l label) (hstep : Step l label l') :
    Covered l' := by
  have hrelease : ∀ {i} j, release l.turn i = some j → l.turn = some j :=
    fun j hj => (release_eq_some_iff.1 hj).1
  have hfree : ∀ {i}, l.turn = some i → release l.turn i = none :=
    fun hturn => if_pos hturn
  cases hstep with
  | begin errand => exact h.begin hlocked errand
  | enter htask hturn henter => exact h.enter hcarried henter
  | bounce htask hturn henter => exact h.bounce hcarried hended hturn henter
  | seize htask hwriter =>
      exact h.set htask rfl id (Nat.le_refl _) rfl (fun _ hj => hj) id rfl
  | @handOver i errand payload frame htask hpayload hwrite =>
      have hunderway := underway_handed l [⟨i, frame, errand.isSend⟩]
      have hunsettled := unsettled_handed l [⟨i, frame, errand.isSend⟩]
      rcases Bool.eq_false_or_eq_true errand.isSend with hsend | hsend
      · rw [filterMap_send i frame hsend] at hunsettled
        exact h.handOver (hlocked.turn_eq htask (Task.hasTurn_writing hsend)) htask rfl rfl rfl rfl
          hunsettled rfl rfl
      · rw [filterMap_other i frame hsend, List.append_nil] at hunsettled hunderway
        exact h.set htask rfl (by simp [Stage.isCounted]) (Nat.le_of_eq (congrArg _ hunsettled)) rfl
          (fun _ hj => hj) id hunderway
  | @hangUp i ws frames htask hclose =>
      have hunderway := underway_handed { l with socket := ws } (frames.map (⟨i, ·, false⟩))
      have hunsettled := unsettled_handed { l with socket := ws } (frames.map (⟨i, ·, false⟩))
      rw [filterMap_closing, List.append_nil] at hunsettled hunderway
      have houtstanding := hangUp_outstanding l.socket
      rw [hclose] at houtstanding
      exact h.set htask rfl (by simp [Stage.isCounted]) (Nat.le_of_eq (congrArg _ hunsettled))
        houtstanding (fun _ hj => hj) id hunderway
  | hangUpFailed htask hclose =>
      have houtstanding := hangUp_outstanding l.socket
      rw [hclose] at houtstanding
      exact h.set htask rfl (by simp [Stage.isCounted]) (Nat.le_refl _) houtstanding hrelease id rfl
  | @refuse i errand fault htask =>
      rcases Bool.eq_false_or_eq_true errand.isSend with hsend | hsend
      · have hturn := hlocked.turn_eq htask (Task.hasTurn_writing hsend)
        have hcounted := h.counted i _ hturn htask rfl
        have hwithdrawn := withdrawn_of_send l.socket hsend
        refine h.leave hturn (hfree hturn) ?_ fun _ hmem => hmem
        change l.unsettled.length ≤ (errand.withdrawn l.socket).outstanding
        rw [hwithdrawn]
        exact Nat.le_sub_one_of_lt hcounted
      · have hwithdrawn := withdrawn_of_other l.socket hsend
        exact h.set htask rfl (by simp [Stage.isCounted]) (Nat.le_refl _)
          (congrArg WebSocket.outstanding hwithdrawn) hrelease id rfl
  | @spoil i errand frame before fault htask houtbound =>
      have hunderway := underway_handed { l with outbound := before } [⟨i, frame, errand.isSend⟩]
      have hunsettled := unsettled_handed { l with outbound := before } [⟨i, frame, errand.isSend⟩]
      rw [← eq_handed houtbound] at hunsettled hunderway
      rcases Bool.eq_false_or_eq_true errand.isSend with hsend | hsend
      · have hturn := hlocked.turn_eq htask (Task.hasTurn_flushing hsend)
        have hwithdrawn := withdrawn_of_send l.socket hsend
        rw [filterMap_send i frame hsend] at hunsettled
        have hlength := h.unsettled
        rw [hunsettled, List.length_append, List.length_singleton] at hlength
        refine h.leave hturn (hfree hturn) ?_ fun _ hmem => hmem
        change _ ≤ (errand.withdrawn l.socket).outstanding
        rw [hwithdrawn]
        exact Nat.le_sub_of_add_le hlength
      · have hwithdrawn := withdrawn_of_other l.socket hsend
        rw [filterMap_other i frame hsend, List.append_nil] at hunsettled hunderway
        exact h.set htask rfl (by simp [Stage.isCounted])
          (Nat.le_of_eq (congrArg _ hunsettled.symm))
          (congrArg WebSocket.outstanding hwithdrawn) hrelease id hunderway.symm
  | written htask =>
      exact h.set htask rfl (by simp [Stage.isCounted]) (Nat.le_refl _) rfl (fun _ hj => hj) id rfl
  | done htask hsend =>
      exact h.set htask rfl (by simp [Stage.isCounted]) (Nat.le_refl _) rfl hrelease id rfl
  | skip htask hqueue hjudge =>
      exact h.skip hcarried (hlocked.turn_eq htask rfl) htask rfl hqueue hjudge
  | @answered i destination payload reply item rest left origin origins htask hqueue hqueued hjudge =>
      obtain ⟨rfl, hleft, hle⟩ := judge_eq_reply hjudge
      have hturn := hlocked.turn_eq htask rfl
      obtain ⟨j, origins', hanswer, -⟩ :=
        hcarried.exists_answer (h.unasked_not_mem hturn) hqueue
      have hlength := congrArg List.length (unsettled_eq_cons_took rest left hanswer)
      rw [List.length_cons] at hlength
      have hunsettled := h.unsettled
      refine h.leave hturn (hfree hturn) ?_ fun _ hmem => List.mem_of_mem_tail hmem
      change (l.took rest left).unsettled.length ≤ left
      omega
  | @failed i destination payload item rest left fault htask hqueue hjudge =>
      exact h.set htask rfl (by simp [Stage.isCounted])
        (took_unsettled_suffix l rest left).length_le (judge_eq_failed hjudge).2 hrelease
        (fun hmem => List.mem_of_mem_tail hmem) rfl
  | stranded htask hqueue hreading =>
      exact h.set htask rfl (by simp [Stage.isCounted]) (Nat.le_refl _) rfl hrelease id rfl
  | drop htask hover =>
      exact h.set htask rfl id (Nat.le_refl _) rfl hrelease id rfl
  | receive houtbound => exact h.keep rfl rfl rfl rfl (underway_receive houtbound)
  | answer payload hbacklog => exact h.keep rfl rfl rfl rfl (underway_answer hbacklog payload)
  | push payload => exact h.keep rfl rfl rfl rfl (underway_of_arrival l _ _ _ rfl)
  | signal frame hframe => exact h.keep rfl rfl rfl rfl (underway_of_arrival l _ _ _ rfl)
  | arrive together hinbound hreading =>
      exact h.read hcarried hinbound hreading _ fun horigin => hconduct (horigin ▸ rfl)

end Covered

end Shared

theorem Reachable.covered {l : Shared} (h : Reachable Considerate l) : l.Covered := by
  induction h with
  | start => exact ⟨Nat.le_refl _, by simp, by simp, by simp⟩
  | step h hconduct hstep ih => exact ih.step h.locked h.carried h.ended hconduct hstep

end JsonRpc.WebSocket
