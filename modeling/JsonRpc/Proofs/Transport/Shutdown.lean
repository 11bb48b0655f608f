import Mathlib.Data.List.Basic
import JsonRpc.Proofs.Places
import JsonRpc.Proofs.Transport.Delivery
import JsonRpc.Transport.Memory.Usage

/-!
# No shutdown is lost

A sender that waits sleeps until there is a shutdown that it has not seen.  It
has looked once whether the transport is shut down, and between that look and
its sleep anything can happen.  It takes note of the version before it looks,
so a sender that got past the look has not seen the shutdown of a transport
that is shut down.  `Delivery.Alert` says so, and every step keeps it.

A call that is under way borrows its handle.  Hence no sender ever finds that
all handles are gone.
-/

namespace JsonRpc.Memory

namespace Delivery

variable {respond : Responder} {m m' : Shared} {d d' : Delivery}

def isAdmitted (d : Delivery) : Bool :=
  match d.stage with
  | .admitted | .recorded | .waiting => true
  | _ => false

/-- A sender that got past its look at the transport has not seen the latest shutdown. -/
structure Alert (m : Shared) (d : Delivery) : Prop where
  seen_le : d.seen ≤ m.version
  unseen : d.isAdmitted = true → m.memory.isShutDown = true → d.seen ≠ m.version

theorem alert_posted (m : Shared) (message : Message) : Alert m ⟨message, m.version, .posted⟩ :=
  ⟨Nat.le_refl _, nofun⟩

theorem Alert.shutDown (h : d.Alert m) (reason : String) : d.Alert (m.shutDown reason) where
  seen_le := Nat.le_succ_of_le h.seen_le
  unseen _ _ := Nat.ne_of_lt (Nat.lt_succ_of_le h.seen_le)

theorem Step.watch_eq (h : d.Step respond m m' d') :
    m'.version = m.version ∧ m'.memory.closed = m.memory.closed := by
  cases h <;> exact ⟨rfl, rfl⟩

theorem Alert.congr (h : d.Alert m) (hversion : m'.version = m.version)
    (hclosed : m'.memory.closed = m.memory.closed) : d.Alert m' := by
  refine ⟨hversion ▸ h.seen_le, fun hadmitted hshut => ?_⟩
  rw [isShutDown, hclosed] at hshut
  rw [hversion]
  exact h.unseen hadmitted hshut

/-- A sender learns at its look that the transport is open, and later it goes on only as it is. -/
theorem Alert.step (halert : d.Alert m) (h : d.Step respond m m' d') : d'.Alert m' := by
  cases h with
  | accept hopen =>
      refine ⟨halert.seen_le, fun _ hshut => ?_⟩
      rw [refusal?, Option.map_eq_none_iff] at hopen
      rw [isShutDown, hopen] at hshut
      cases hshut
  | record | wait => exact ⟨halert.seen_le, fun _ => halert.unseen rfl⟩
  | refuse | acknowledge | reply =>
      refine ⟨halert.seen_le, fun hadmitted => ?_⟩
      cases hadmitted
  | wake =>
      refine ⟨Nat.le_refl _, fun hadmitted => ?_⟩
      cases hadmitted
  -- It goes back to sleep with the version it has just seen, as the transport is open.
  | rest _ hclosed =>
      refine ⟨Nat.le_refl _, fun _ hshut => ?_⟩
      rw [isShutDown, hclosed] at hshut
      cases hshut

theorem Step.result?_eq_none (h : d.Step respond m m' d') : d.result? = none := by
  cases h <;> rfl

/-- A look at a transport that is shut down tells the reason and changes nothing. -/
theorem Step.refused (h : d.Step respond m m' d') (hstage : d.stage = .posted) {reason : String}
    (hclosed : m.memory.closed = some reason) :
    m' = m ∧ d' = { d with stage := .refused (.shutdown reason) } := by
  cases h with
  | accept hopen =>
      rw [refusal?, hclosed] at hopen
      cases hopen
  | refuse hrefusal =>
      rw [refusal?, hclosed, Option.map_some, Option.some.injEq] at hrefusal
      exact ⟨rfl, by rw [hrefusal]⟩
  | _ => cases hstage

/-- A sender that wakes up in a transport that is shut down is told the reason. -/
theorem Step.woken (h : d.Step respond m m' d') (hstage : d.stage = .waiting) {reason : String}
    (hclosed : m.memory.closed = some reason) :
    m' = m ∧ d'.stage = .ended (.error (.shutdown reason)) := by
  cases h with
  | wake _ hreason =>
      rw [hclosed, Option.some.injEq] at hreason
      exact ⟨rfl, by rw [hreason]⟩
  | rest _ hopen =>
      rw [hclosed] at hopen
      cases hopen
  | _ => cases hstage

end Delivery

namespace Usage

variable {l l' : Usage} {i j : Nat} {c : Call}

/-- Every sender notices a shutdown, and the handles of the calls that are under way are there. -/
structure Watched (l : Usage) : Prop where
  alert : ∀ c ∈ l.calls, c.delivery.Alert l.shared
  borrowed : ∀ c ∈ l.calls, c.isUnderway = true → l.handles[c.handle]? = some true

namespace Watched

theorem fresh : Watched {} := ⟨nofun, nofun⟩

/-- One call changes, while nobody shuts the transport down. -/
theorem set (h : Watched l) {m : Shared} {c' : Call} (hcall : l.calls[i]? = some c)
    (hversion : m.version = l.shared.version) (hclosed : m.memory.closed = l.shared.memory.closed)
    (halert : c'.delivery.Alert m) (hhandle : c'.handle = c.handle)
    (hunderway : c'.isUnderway = true → c.isUnderway = true) :
    Watched { l with shared := m, calls := l.calls.set i c' } := by
  constructor
  · intro e he
    rcases List.mem_or_eq_of_mem_set he with he | rfl
    · exact (h.alert e he).congr hversion hclosed
    · exact halert
  · intro e he hrun
    rcases List.mem_or_eq_of_mem_set he with he | rfl
    · exact h.borrowed e he hrun
    · rw [hhandle]
      exact h.borrowed c (List.mem_of_getElem? hcall) (hunderway hrun)

theorem advance (h : Watched l) (hadvance : Advance l i l') : Watched l' := by
  obtain ⟨respond, hcall, hstep⟩ := hadvance
  have halert := h.alert _ (List.mem_of_getElem? hcall)
  have hwatch := hstep.watch_eq
  refine h.set hcall hwatch.1 hwatch.2 (halert.step hstep) rfl fun _ => ?_
  simp [Call.isUnderway, hstep.result?_eq_none]

theorem not_abandon (h : Watched l) : ¬ Abandon l i l' := by
  rintro ⟨hcall, hhandles⟩
  exact hhandles (List.mem_of_getElem? (h.borrowed _ (List.mem_of_getElem? hcall) rfl))

theorem turn (h : Watched l) (hturn : Turn l i l') : Advance l i l' :=
  hturn.resolve_right h.not_abandon

theorem step (h : Watched l) (hstep : Step l l') : Watched l' := by
  cases hstep with
  | begin message hhandle =>
      constructor
      · intro c hc
        rcases List.mem_append.1 hc with hc | hc
        · exact h.alert c hc
        · rw [List.mem_singleton.1 hc]
          exact Delivery.alert_posted _ _
      · intro c hc hrun
        rcases List.mem_append.1 hc with hc | hc
        · exact h.borrowed c hc hrun
        · rw [List.mem_singleton.1 hc]
          exact hhandle
  | turn hturn => exact h.advance (h.turn hturn)
  | giveUp hcall =>
      have halert := h.alert _ (List.mem_of_getElem? hcall)
      exact h.set hcall rfl rfl halert rfl nofun
  | clone =>
      exact ⟨h.alert, fun c hc hrun => getElem?_concat_of_some (h.borrowed c hc hrun) true⟩
  | letGo hfree =>
      refine ⟨h.alert, fun c hc hrun => ?_⟩
      rw [List.getElem?_set_ne (hfree c hc hrun).symm]
      exact h.borrowed c hc hrun
  | shutDown reason => exact ⟨fun c hc => (h.alert c hc).shutDown reason, h.borrowed⟩

end Watched

theorem Reachable.watched (h : Reachable l) : Watched l := by
  induction h with
  | refl => exact Watched.fresh
  | tail _ hstep ih => exact ih.step hstep

/-- A step leaves the transport as open or shut down as it is, unless it is a shutdown. -/
theorem Step.closed (h : Step l l') :
    l'.shared.memory.closed = l.shared.memory.closed ∨ ∃ reason, l' = l.shutDown reason := by
  cases h with
  | turn hturn =>
      rcases hturn with ⟨respond, hcall, hstep⟩ | ⟨hcall, hhandles⟩
      · exact .inl hstep.watch_eq.2
      · exact .inl rfl
  | shutDown reason => exact .inr ⟨reason, rfl⟩
  | _ => exact .inl rfl

theorem Step.isShutDown (h : Step l l') (hshut : l.isShutDown = true) : l'.isShutDown = true := by
  rcases h.closed with hclosed | ⟨reason, rfl⟩
  · rw [Usage.isShutDown, Memory.isShutDown, hclosed]
    exact hshut
  · rfl

theorem Runs.isShutDown (h : Runs l l') (hshut : l.isShutDown = true) : l'.isShutDown = true := by
  induction h with
  | refl => exact hshut
  | tail _ hstep ih => exact hstep.isShutDown ih

/-- The transport is shut down if it was shut down at some time. -/
theorem Reachable.isShutDown_iff (h : Reachable l) :
    l.isShutDown = true ↔ ∃ k reason, Reachable k ∧ Runs (k.shutDown reason) l := by
  constructor
  · intro hshut
    -- The last step was a shutdown, or the transport was shut down before it.
    induction h with
    | refl => cases hshut
    | tail hrun hstep ih =>
        rcases hstep.closed with hclosed | ⟨reason, rfl⟩
        · rw [Usage.isShutDown, Memory.isShutDown, hclosed] at hshut
          obtain ⟨k, reason, hk, hruns⟩ := ih hshut
          exact ⟨k, reason, hk, hruns.tail hstep⟩
        · exact ⟨_, reason, hrun, .refl⟩
  · rintro ⟨k, reason, -, hruns⟩
    exact hruns.isShutDown rfl

theorem Advance.sent_perm (h : Advance l i l')
    (hsent : l.shared.memory.sent.Perm (l.calls.filterMap Call.recorded?)) :
    l'.shared.memory.sent.Perm (l'.calls.filterMap Call.recorded?) := by
  cases h with
  | @intro d d' handle m respond hcall hstep =>
      have hperm := filterMap_set_perm Call.recorded? hcall ⟨d', handle, false⟩
      rcases hstep.traffic with ⟨rfl, hrecorded⟩ | ⟨rfl, hbefore, hafter⟩
      · have hsame : Call.recorded? ⟨d', handle, false⟩ = Call.recorded? ⟨d, handle, false⟩ := by
          simp only [Call.recorded?, hrecorded, hstep.message_eq]
        rw [hsame] at hperm
        exact hsent.trans ((List.perm_append_right_iff _).1 hperm).symm
      · have hnew : Call.recorded? ⟨d', handle, false⟩ = some d.message := by
          rw [Call.recorded?, hafter, if_pos rfl, hstep.message_eq]
        have hold : Call.recorded? ⟨d, handle, false⟩ = none := by
          rw [Call.recorded?, hbefore]
          rfl
        rw [hnew, hold, Option.toList_none, List.append_nil] at hperm
        exact (hsent.append_right [d.message]).trans hperm.symm

/-- The transport has recorded the messages of the calls that came so far, and no others. -/
theorem Reachable.sent_perm (h : Reachable l) :
    l.shared.memory.sent.Perm (l.calls.filterMap Call.recorded?) := by
  induction h with
  | refl => rfl
  | tail hrun hstep ih =>
      cases hstep with
      | begin message => simpa [Usage.begin, Call.recorded?, Delivery.isRecorded] using ih
      | turn hturn => exact ((Reachable.watched hrun).turn hturn).sent_perm ih
      | @giveUp i c hcall =>
          have hperm := filterMap_set_perm Call.recorded? hcall { c with dropped := true }
          exact ih.trans ((List.perm_append_right_iff _).1 hperm).symm
      | _ => exact ih

theorem Turn.underway (h : Turn l i l') :
    ∃ c, l.calls[i]? = some c ∧ c.isUnderway = true := by
  rcases h with ⟨respond, hcall, hstep⟩ | ⟨hcall, hhandles⟩
  · exact ⟨_, hcall, by simp [Call.isUnderway, hstep.result?_eq_none]⟩
  · exact ⟨_, hcall, rfl⟩

/-- Nothing happens any more to a call that is over. -/
theorem Step.call_of_over (h : Step l l') (hcall : l.calls[i]? = some c)
    (hover : c.isUnderway = false) : l'.calls[i]? = some c := by
  -- Every change that a step makes is to a call that is under way, which is another one.
  have hset : ∀ {j : Nat} {e : Call} (e' : Call), l.calls[j]? = some e → e.isUnderway = true →
      (l.calls.set j e')[i]? = some c := by
    intro j e e' he hrun
    rw [getElem?_set_of_some he, if_neg, hcall]
    rintro rfl
    rw [hcall, Option.some.injEq] at he
    rw [he, hrun] at hover
    cases hover
  cases h with
  | begin message => exact getElem?_concat_of_some hcall _
  | turn hturn =>
      obtain ⟨e, he, hrun⟩ := hturn.underway
      rcases hturn with ⟨respond, he', hstep⟩ | ⟨he', hhandles⟩
      · exact hset _ he hrun
      · exact hset _ he hrun
  | giveUp he hrun => exact hset _ he hrun
  | _ => exact hcall

theorem Runs.call_of_over (h : Runs l l') (hcall : l.calls[i]? = some c)
    (hover : c.isUnderway = false) : l'.calls[i]? = some c := by
  induction h with
  | refl => exact hcall
  | tail _ hstep ih => exact hstep.call_of_over ih hover

/-- The call at this place can go on, and its next step is to be told that the transport was shut
down for this reason. -/
structure Told (l : Usage) (i : Nat) (reason : String) : Prop where
  possible : ∃ l', Turn l i l'
  shared : ∀ l', Turn l i l' → l'.shared = l.shared
  result : ∀ l', Turn l i l' → l'.result? i = some (.error (.shutdown reason))

theorem result?_set {m : Shared} (hcall : l.calls[i]? = some c) (c' : Call) :
    ({ l with shared := m, calls := l.calls.set i c' } : Usage).result? i =
      c'.delivery.result? := by
  rw [result?, getElem?_set_of_some hcall, if_pos rfl]
  rfl

namespace Watched

variable {reason : String} {d : Delivery} {handle : Nat}

theorem exists_step (h : Watched l) (hcall : l.calls[i]? = some ⟨d, handle, false⟩)
    (hturn : Turn l i l') :
    ∃ respond m d', d.Step respond l.shared m d' ∧
      l' = { l with shared := m, calls := l.calls.set i ⟨d', handle, false⟩ } := by
  obtain ⟨respond, hcall', hstep⟩ := h.turn hturn
  rw [hcall, Option.some.injEq] at hcall'
  cases hcall'
  exact ⟨respond, _, _, hstep, rfl⟩

/-- Whoever can only be told of the shutdown is told of it next. -/
theorem told (h : Watched l) (hcall : l.calls[i]? = some ⟨d, handle, false⟩)
    (hpossible : ∃ respond m d', d.Step respond l.shared m d')
    (hnext : ∀ {respond m d'}, d.Step respond l.shared m d' →
      m = l.shared ∧ d'.result? = some (.error (.shutdown reason))) :
    Told l i reason := by
  obtain ⟨respond, m, d', hstep⟩ := hpossible
  refine ⟨⟨_, .inl ⟨respond, hcall, hstep⟩⟩, ?_, ?_⟩
  · intro l' hturn
    obtain ⟨respond, m, d', hstep, rfl⟩ := h.exists_step hcall hturn
    exact (hnext hstep).1
  · intro l' hturn
    obtain ⟨respond, m, d', hstep, rfl⟩ := h.exists_step hcall hturn
    rw [result?_set hcall]
    exact (hnext hstep).2

theorem told_of_posted (h : Watched l) (hcall : l.calls[i]? = some ⟨d, handle, false⟩)
    (hstage : d.stage = .posted) (hclosed : l.shared.memory.closed = some reason) :
    Told l i reason := by
  have hrefusal : l.shared.memory.refusal? = some (.shutdown reason) := by
    rw [refusal?, hclosed, Option.map_some]
  obtain ⟨message, seen, stage⟩ := d
  cases hstage
  refine h.told hcall ⟨fun _ _ => none, _, _, .refuse hrefusal⟩ fun hstep => ?_
  obtain ⟨hshared, rfl⟩ := hstep.refused rfl hclosed
  exact ⟨hshared, rfl⟩

/-- A sender that was refused has nothing recorded, whatever happens later. -/
theorem recorded?_eq_none (h : Watched l) (hcall : l.calls[i]? = some ⟨d, handle, false⟩)
    (hstage : d.stage = .posted) (hclosed : l.shared.memory.closed = some reason)
    (hturn : Turn l i l') {k : Usage} (hruns : Runs l' k) : k.recorded? i = none := by
  obtain ⟨respond, m, d', hstep, rfl⟩ := h.exists_step hcall hturn
  obtain ⟨-, rfl⟩ := hstep.refused hstage hclosed
  rw [recorded?, hruns.call_of_over (by rw [getElem?_set_of_some hcall, if_pos rfl]) rfl]
  rfl

theorem unseen_of_waiting (h : Watched l) (hcall : l.calls[i]? = some ⟨d, handle, false⟩)
    (hstage : d.stage = .waiting) (hshut : l.isShutDown = true) : d.seen ≠ l.shared.version := by
  have halert := h.alert _ (List.mem_of_getElem? hcall)
  refine halert.unseen ?_ hshut
  rw [Delivery.isAdmitted, hstage]

theorem told_of_waiting (h : Watched l) (hcall : l.calls[i]? = some ⟨d, handle, false⟩)
    (hstage : d.stage = .waiting) (hclosed : l.shared.memory.closed = some reason) :
    Told l i reason := by
  have hshut : l.isShutDown = true := by rw [Usage.isShutDown, Memory.isShutDown, hclosed]; rfl
  have hseen := h.unseen_of_waiting hcall hstage hshut
  obtain ⟨message, seen, stage⟩ := d
  cases hstage
  refine h.told hcall ⟨fun _ _ => none, _, _, .wake hseen hclosed⟩ fun hstep => ?_
  obtain ⟨hshared, hended⟩ := hstep.woken rfl hclosed
  rw [Delivery.result?, hended]
  exact ⟨hshared, rfl⟩

end Watched

/-- Once a transport was shut down it stays so.  Whoever looks at it then is told the reason of the
latest shutdown, and nothing is recorded.  Whoever waits then has not seen the latest shutdown and
is told its reason next, whenever it began to wait.  As long as a call is under way, nobody finds
that all handles are gone. -/
theorem Reachable.shutdown_never_lost (h : Reachable l) :
    (∀ k, Runs l k → l.isShutDown = true → k.isShutDown = true) ∧
      (∀ (k : Usage) (earlier : String), Runs (k.shutDown earlier) l →
        ∃ reason, l.shared.memory.closed = some reason ∧
          ∀ i d handle, l.calls[i]? = some ⟨d, handle, false⟩ →
            (d.stage = .posted → Told l i reason ∧
              ∀ l' k, Turn l i l' → Runs l' k → k.recorded? i = none) ∧
            (d.stage = .waiting → d.seen ≠ l.shared.version ∧ Told l i reason)) ∧
      ∀ c ∈ l.calls, c.isUnderway = true →
        l.handles[c.handle]? = some true ∧ ∀ i l', ¬ Abandon l i l' := by
  have hwatched := h.watched
  refine ⟨fun k hruns => hruns.isShutDown, ?_, ?_⟩
  · intro k earlier hruns
    have hshut : l.isShutDown = true := hruns.isShutDown rfl
    obtain ⟨reason, hclosed⟩ := Option.isSome_iff_exists.1 hshut
    refine ⟨reason, hclosed, fun i d handle hcall => ⟨fun hstage => ⟨?_, ?_⟩, fun hstage => ?_⟩⟩
    · exact hwatched.told_of_posted hcall hstage hclosed
    · exact fun l' k hturn hruns => hwatched.recorded?_eq_none hcall hstage hclosed hturn hruns
    · exact ⟨hwatched.unseen_of_waiting hcall hstage hshut,
        hwatched.told_of_waiting hcall hstage hclosed⟩
  · exact fun c hc hrun => ⟨hwatched.borrowed c hc hrun, fun i l' => hwatched.not_abandon⟩

/-- The transport is shut down twice, before and after the responder stays silent. -/
theorem shutdown_never_lost_of_two :
    ∃ l : Usage, Reachable l ∧ l.isShutDown = true ∧
      (∃ d, l.calls[0]? = some ⟨d, 0, false⟩ ∧ d.stage = .waiting) ∧
      Told l 0 "second" ∧ Told l 1 "second" := by
  let request : Message := ⟨"queue", [], true⟩
  let notification : Message := ⟨"queue", [], false⟩
  let waits (stage : Delivery.Stage) : Call := ⟨⟨request, 0, stage⟩, 0, false⟩
  let l₁ : Usage := { calls := [waits .admitted] }
  let l₂ : Usage := ⟨⟨{ sent := [request] }, 0⟩, [true], [waits .recorded]⟩
  let l₃ : Usage := { l₂.shutDown "first" with calls := [waits .waiting] }
  let l₄ : Usage := ({ l₃ with handles := [true, true] } : Usage).begin 1 notification
  have h₁ : Reachable l₁ :=
    .tail (.single (.begin request rfl))
      (.turn (.inl (.intro (i := 0) (fun _ _ => none) rfl (.accept rfl))))
  have h₂ : Step l₁ l₂ := .turn (.inl (.intro (i := 0) (fun _ _ => none) rfl .record))
  have h₃ : Runs l₂ l₃ :=
    .tail (.single (.shutDown "first" (rfl : l₂.handles[0]? = some true)))
      (.turn (.inl (.intro (i := 0) (fun _ _ => none) rfl (.wait rfl rfl))))
  have h₄ : Runs l₃ l₄ := .tail (.single (.clone (rfl : l₃.handles[0]? = some true))) (.begin notification rfl)
  have h₅ : Step l₄ (l₄.shutDown "second") := .shutDown "second" (rfl : l₄.handles[0]? = some true)
  have h : Reachable (l₄.shutDown "second") := (((h₁.tail h₂).trans h₃).trans h₄).tail h₅
  obtain ⟨-, hlost, -⟩ := h.shutdown_never_lost
  obtain ⟨reason, hclosed, htold⟩ := hlost l₄ "second" .refl
  cases hclosed
  exact ⟨_, h, rfl, ⟨_, rfl, rfl⟩, ((htold 0 _ 0 rfl).2 rfl).2, ((htold 1 _ 1 rfl).1 rfl).1⟩

end Usage

end JsonRpc.Memory
