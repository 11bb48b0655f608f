import JsonRpc.Proofs.Transport.Alone
import JsonRpc.Proofs.Transport.Coverage

/-!
# Whose answer a send returns

Nothing in a reply says which request it answers, so a send relies on a number:
how many requests are outstanding when it takes a reply.  If that is the last
one, the reply has to be its own.
-/

namespace JsonRpc.WebSocket

namespace Shared

variable {l l' : Shared} {i j : Nat} {t u : Task}

/-! ## Replies -/

/-- Every reply that was returned is the peer's answer to the request of the send that returned
it. -/
structure Answered (l : Shared) : Prop where
  own (i : Nat) (t : Task) (origin : Origin) (reply : Octets) : l.tasks[i]? = some t →
    t.stage = .answered origin reply → origin = .answer i ∧ (i, reply) ∈ l.answers
  dropped (i : Nat) (t : Task) : l.tasks[i]? = some t → t.dropped = true → t.stage.isOver = false

namespace Answered

/-- A task changes its stage and returns no reply. -/
theorem set (h : Answered l) (htask : l.tasks[i]? = some t) (htasks : l'.tasks = l.tasks.set i u)
    (hanswers : l'.answers = l.answers) (hstage : ∀ origin reply, u.stage ≠ .answered origin reply)
    (hdropped : u.dropped = true → u.stage.isOver = false) : Answered l' := by
  constructor
  · intro j v origin reply hv hanswered
    rw [htasks, getElem?_set_of_some htask] at hv
    rw [hanswers]
    split at hv
    · cases hv
      exact absurd hanswered (hstage origin reply)
    · exact h.own j v origin reply hv hanswered
  · intro j v hv hvdropped
    rw [htasks, getElem?_set_of_some htask] at hv
    split at hv
    · cases hv
      exact hdropped hvdropped
    · exact h.dropped j v hv hvdropped

/-- What is taken for the last reply is the answer to the last request. -/
theorem origin_of_answered (hlocked : Locked l) (hcarried : Carried l) (hordered : Ordered l)
    (hcovered : Covered l) {destination : String} {payload reply : Octets}
    {item : Except TransportFault Octets} {rest : List (Except TransportFault Octets)} {left : Nat}
    {origin : Origin} {origins : List Origin}
    (htask : l.tasks[i]? = some ⟨.send destination payload, .awaiting, false⟩)
    (hqueue : l.socket.queue = item :: rest) (hqueued : l.queued = origin :: origins)
    (hjudge : judge l.socket.outstanding item = (.reply reply, left)) :
    origin = .answer i ∧ (i, reply) ∈ l.answers := by
  obtain ⟨rfl, -, hle⟩ := judge_eq_reply hjudge
  have hturn := hlocked.turn_eq htask rfl
  obtain ⟨j, origins', hanswer, hmem⟩ :=
    hcarried.exists_answer (hcovered.unasked_not_mem hturn) hqueue
  have hcons := unsettled_eq_cons_took rest left hanswer
  have hle := Nat.le_trans hcovered.unsettled hle
  rw [hcons, List.length_cons] at hle
  have hsingle : l.unsettled = [j] := by
    rw [hcons, List.eq_nil_of_length_eq_zero (Nat.le_zero.1 (Nat.le_of_succ_le_succ hle))]
  have hlast := hordered.last i _ htask rfl rfl
  obtain ⟨front, hfront⟩ := hordered.suffix
  rw [← hfront, hsingle, List.getLast?_concat, Option.some.injEq] at hlast
  subst hlast
  rw [hqueued, List.cons.injEq] at hanswer
  exact ⟨hanswer.1, hmem⟩

theorem step {label : Label} (h : Answered l) (hlocked : Locked l) (hcarried : Carried l)
    (hordered : Ordered l) (hcovered : Covered l) (hstep : Step l label l') : Answered l' := by
  cases hstep with
  | begin errand =>
      constructor
      · intro i t origin reply ht hanswered
        rcases getElem?_of_concat ht with ht | rfl
        · exact h.own i t origin reply ht hanswered
        · cases errand <;> cases hanswered
      · intro i t ht hdropped
        rcases getElem?_of_concat ht with ht | rfl
        · exact h.dropped i t ht hdropped
        · cases hdropped
  | enter htask hturn henter => exact h.set htask rfl rfl nofun nofun
  | bounce htask hturn henter => exact h.set htask rfl rfl nofun nofun
  | seize htask hwriter => exact h.set htask rfl rfl nofun nofun
  | handOver htask hpayload hwrite => exact h.set htask rfl rfl nofun nofun
  | hangUp htask hclose => exact h.set htask rfl rfl nofun nofun
  | hangUpFailed htask hclose => exact h.set htask rfl rfl nofun nofun
  | refuse fault htask => exact h.set htask rfl rfl nofun nofun
  | spoil fault htask houtbound => exact h.set htask rfl rfl nofun nofun
  | written htask => exact h.set htask rfl rfl nofun nofun
  | done htask hsend => exact h.set htask rfl rfl nofun nofun
  | skip htask hqueue hjudge => exact ⟨h.own, h.dropped⟩
  | @answered i destination payload reply item rest left origin origins htask hqueue hqueued hjudge =>
      have hown := origin_of_answered hlocked hcarried hordered hcovered htask hqueue hqueued hjudge
      constructor
      · intro j v origin' reply' hv hanswered
        change (l.tasks.set i _)[j]? = some v at hv
        rw [getElem?_set_of_some htask] at hv
        split at hv
        · rename_i hji
          cases hv
          cases hanswered
          exact hji ▸ hown
        · exact h.own j v origin' reply' hv hanswered
      · intro j v hv hdropped
        change (l.tasks.set i _)[j]? = some v at hv
        rw [getElem?_set_of_some htask] at hv
        split at hv
        · cases hv
          cases hdropped
        · exact h.dropped j v hv hdropped
  | failed htask hqueue hjudge => exact h.set htask rfl rfl nofun nofun
  | stranded htask hqueue hreading => exact h.set htask rfl rfl nofun nofun
  | drop htask hover =>
      refine h.set htask rfl rfl ?_ fun _ => hover
      rintro origin reply rfl
      cases hover
  | answer payload hbacklog =>
      refine ⟨fun i t origin reply ht hanswered => ?_, h.dropped⟩
      obtain ⟨horigin, hmem⟩ := h.own i t origin reply ht hanswered
      exact ⟨horigin, List.mem_append_left _ hmem⟩
  | _ => exact ⟨h.own, h.dropped⟩

end Answered

/-! ## Data that nobody asked for -/

structure Asked (l : Shared) : Prop where
  inbound : ∀ arrival ∈ l.inbound, arrival.1 ≠ .unasked
  queued : .unasked ∉ l.queued

namespace Asked

theorem concat (h : Asked l) (socket : WebSocket) {origin : Origin} (frame : Frame)
    (horigin : origin ≠ .unasked) :
    Asked { l with socket := socket, inbound := l.inbound ++ [(origin, frame)] } := by
  refine ⟨?_, h.queued⟩
  intro arrival harrival
  rcases List.mem_append.1 harrival with harrival | harrival
  · exact h.inbound arrival harrival
  · rw [List.mem_singleton.1 harrival]
    exact horigin

theorem step {label : Label} (h : Asked l) (hconduct : Quiet l label)
    (hstep : Step l label l') : Asked l' := by
  cases hstep with
  | enter htask hturn henter => exact ⟨h.inbound, fun hmem => h.queued (List.mem_of_mem_drop hmem)⟩
  | bounce htask hturn henter =>
      exact ⟨h.inbound, fun hmem => h.queued (List.mem_of_mem_drop hmem)⟩
  | skip htask hqueue hjudge => exact ⟨h.inbound, fun hmem => h.queued (List.mem_of_mem_tail hmem)⟩
  | answered htask hqueue hqueued hjudge =>
      exact ⟨h.inbound, fun hmem => h.queued (List.mem_of_mem_tail hmem)⟩
  | failed htask hqueue hjudge =>
      exact ⟨h.inbound, fun hmem => h.queued (List.mem_of_mem_tail hmem)⟩
  | @answer i rest payload hbacklog =>
      have horigin : Origin.answer i ≠ .unasked := nofun
      obtain ⟨hinbound, hqueued⟩ := h.concat l.socket (.data payload) horigin
      exact ⟨hinbound, hqueued⟩
  | push payload => exact absurd rfl hconduct
  | signal frame hframe => exact h.concat _ frame nofun
  | arrive together hinbound hreading =>
      have hhead := h.inbound
      rw [hinbound, List.forall_mem_cons] at hhead
      refine ⟨hhead.2, fun hmem => ?_⟩
      rcases List.mem_append.1 hmem with hmem | hmem
      · exact h.queued hmem
      · exact hhead.1 (List.eq_of_mem_replicate hmem).symm
  | _ => exact ⟨h.inbound, h.queued⟩

/-- A peer that sends no other data sends none at a bad moment. -/
theorem considerate {label : Label} (h : Asked l) (hstep : Step l label l') :
    Considerate l label := by
  rintro rfl
  cases hstep with
  | arrive together hinbound hreading =>
      exact absurd rfl (h.inbound _ (hinbound ▸ List.mem_cons_self))

end Asked

/-- A request is answered once. -/
theorem Ordered.eq_of_mem_answers (h : Ordered l) {reply other : Octets}
    (hreply : (i, reply) ∈ l.answers) (hother : (i, other) ∈ l.answers) : other = reply := by
  have hnodup := h.nodup
  rw [issued, List.append_assoc] at hnodup
  have heq := List.inj_on_of_nodup_map hnodup.of_append_left hother hreply rfl
  exact congrArg Prod.snd heq

end Shared

variable {l : Shared}

theorem Reachable.asked (h : Reachable Quiet l) : l.Asked := by
  induction h with
  | start => exact ⟨by simp, by simp⟩
  | step h hconduct hstep ih => exact ih.step hconduct hstep

theorem Reachable.considerate (h : Reachable Quiet l) : Reachable Considerate l := by
  induction h with
  | start => exact .start
  | step h hconduct hstep ih => exact ih.step (h.asked.considerate hstep) hstep

theorem Reachable.answered (h : Reachable Considerate l) : l.Answered := by
  induction h with
  | start => exact ⟨by simp, by simp⟩
  | step h hconduct hstep ih => exact ih.step h.locked h.carried h.ordered h.covered hstep

theorem Reachable.own_of_returns (h : Reachable Considerate l) {i : Nat} {origin : Origin}
    {reply : Octets} (hreturns : l.Returns i origin reply) :
    origin = .answer i ∧ (i, reply) ∈ l.answers := by
  obtain ⟨t, htask, hstage⟩ := hreturns
  exact h.answered.own i t origin reply htask hstage

theorem Reachable.not_returns_of_givenUp (h : Reachable Considerate l) {i j : Nat} {reply : Octets}
    (hgivenUp : l.GivenUp i) : ¬ l.Returns j (.answer i) reply := by
  intro hreturns
  obtain rfl := Origin.answer.inj (h.own_of_returns hreturns).1
  obtain ⟨t, htask, hdropped⟩ := hgivenUp
  obtain ⟨u, hu, hstage⟩ := hreturns
  rw [htask, Option.some.injEq] at hu
  have hover := h.answered.dropped i t htask hdropped
  rw [hu, hstage] at hover
  cases hover

/-- A connection whose peer sends nothing but answers gives every answer to the send that asked for
it: a send that returns a reply returns the one answer to its own request, nobody else returns that
answer, and nobody returns the answer to a send that was given up.  The count of a send that waits
for a reply is never used up. -/
theorem replies_reach_their_callers (h : Reachable Quiet l) :
    (∀ i origin reply, l.Returns i origin reply →
      origin = .answer i ∧ (i, reply) ∈ l.answers ∧ ∀ other, (i, other) ∈ l.answers → other = reply) ∧
    (∀ i j origin reply reply', l.Returns i origin reply → l.Returns j origin reply' → i = j) ∧
    (∀ i j reply, l.GivenUp i → ¬ l.Returns j (.answer i) reply) ∧
    ∀ i, l.Awaits i → 0 < l.socket.outstanding := by
  refine ⟨?_, ?_, ?_, ?_⟩
  · intro i origin reply hreturns
    obtain ⟨horigin, hmem⟩ := h.considerate.own_of_returns hreturns
    exact ⟨horigin, hmem, fun other => h.ordered.eq_of_mem_answers hmem⟩
  · intro i j origin reply reply' hi hj
    obtain ⟨rfl, -⟩ := h.considerate.own_of_returns hi
    exact Origin.answer.inj (h.considerate.own_of_returns hj).1
  · exact fun i j reply => h.considerate.not_returns_of_givenUp
  · rintro i ⟨t, htask, hturn, -⟩
    exact h.considerate.covered.positive (by simp [h.locked.turn_eq htask hturn])

/-- The second send skips the late answer to the first, which was given up, and returns its own. -/
theorem replies_reach_their_callers_of_late_answer :
    ∃ l, Reachable Quiet l ∧ l.GivenUp 0 ∧ l.Returns 1 (.answer 1) [20] ∧ (1, [20]) ∈ l.answers ∧
      ∀ j reply, ¬ l.Returns j (.answer 0) reply := by
  have h : Reachable Quiet {} := .start
  have h := h.send (fun _ => nofun) "peer" [1] rfl rfl rfl rfl
  have h := h.step (by nofun) (.drop (i := 0) rfl rfl)
  have h := h.send (fun _ => nofun) "peer" [2] rfl rfl rfl rfl
  have h := h.step (by nofun) (.receive rfl)
  have h := h.step (by nofun) (.receive rfl)
  have h := h.step (by nofun) (.answer [10] rfl)
  have h := h.step (by nofun) (.answer [20] rfl)
  have h := h.step (by nofun) (.arrive 0 rfl rfl)
  have h := h.step (by nofun) (.arrive 0 rfl rfl)
  have h := h.step (by nofun) (.skip (i := 1) rfl rfl rfl)
  have h := h.step (by nofun) (.answered (i := 1) rfl rfl rfl rfl)
  obtain ⟨hown, -, hgivenUp, -⟩ := replies_reach_their_callers h
  have hreturns := hown 1 (.answer 1) [20] ⟨_, rfl, rfl⟩
  exact ⟨_, h, ⟨_, rfl, rfl⟩, ⟨_, rfl, rfl⟩, hreturns.2.1, fun j reply => hgivenUp 0 j reply ⟨_, rfl, rfl⟩⟩

/-! ## Data between the sends -/

/-- Data that nobody asked for are never taken for an answer, and neither is the answer to a send
that was given up, as long as such data arrive only while no answer is to come. -/
theorem no_mistaken_reply_of_considerate (h : Reachable Considerate l) :
    (∀ i origin reply, l.Returns i origin reply → origin = .answer i ∧ (i, reply) ∈ l.answers) ∧
    ∀ i j reply, l.GivenUp i → ¬ l.Returns j (.answer i) reply :=
  ⟨fun _ _ _ => h.own_of_returns, fun _ _ _ => h.not_returns_of_givenUp⟩

/-- Other data arrive when the answer to the send that was given up has been queued already. -/
theorem no_mistaken_reply_after_late_answer :
    ∃ l, Reachable Considerate l ∧ l.GivenUp 0 ∧ l.Returns 1 (.answer 1) [20] ∧
      (1, [20]) ∈ l.answers := by
  have h : Reachable Considerate {} := .start
  have h := h.send (fun _ => nofun) "peer" [1] rfl rfl rfl rfl
  have h := h.step (by nofun) (.drop (i := 0) rfl rfl)
  have h := h.step (by nofun) (.receive rfl)
  have h := h.step (by nofun) (.answer [10] rfl)
  have h := h.step (by nofun) (.push [0])
  have h := h.step (by nofun) (.arrive 0 rfl rfl)
  have h := h.step (fun _ => ⟨rfl, rfl⟩) (.arrive 0 rfl rfl)
  have h := h.send (fun _ => nofun) "peer" [2] rfl rfl rfl rfl
  have h := h.step (by nofun) (.receive rfl)
  have h := h.step (by nofun) (.answer [20] rfl)
  have h := h.step (by nofun) (.arrive 0 rfl rfl)
  have h := h.step (by nofun) (.answered (i := 1) rfl rfl rfl rfl)
  have hreturns := (no_mistaken_reply_of_considerate h).1 1 (.answer 1) [20] ⟨_, rfl, rfl⟩
  exact ⟨_, h, ⟨_, rfl, rfl⟩, ⟨_, rfl, rfl⟩, hreturns.2⟩

/-- It is not enough that no send has its turn.  While the answer to a send that was given up is to
come, the next send counts other data down for it, and returns that answer as its own. -/
theorem mistaken_reply_after_unasked_data :
    ∃ l, Reachable Spaced l ∧ l.GivenUp 0 ∧ l.Returns 1 (.answer 0) [10] := by
  have h : Reachable Spaced {} := .start
  have h := h.send (fun _ => nofun) "peer" [1] rfl rfl rfl rfl
  have h := h.step (by nofun) (.drop (i := 0) rfl rfl)
  have h := h.step (by nofun) (.push [0])
  have h := h.step (fun _ => rfl) (.arrive 0 rfl rfl)
  have h := h.send (fun _ => nofun) "peer" [2] rfl rfl rfl rfl
  have h := h.step (by nofun) (.receive rfl)
  have h := h.step (by nofun) (.receive rfl)
  have h := h.step (by nofun) (.answer [10] rfl)
  have h := h.step (by nofun) (.answer [20] rfl)
  have h := h.step (by nofun) (.arrive 0 rfl rfl)
  have h := h.step (by nofun) (.answered (i := 1) rfl rfl rfl rfl)
  exact ⟨_, h, ⟨_, rfl, rfl⟩, ⟨_, rfl, rfl⟩⟩

end JsonRpc.WebSocket
