import JsonRpc.Proofs.Places
import JsonRpc.Transport.WebSocket.Shared

/-!
# Turns on a shared connection

A lock on a shared connection is held by the task that is at the stages which
need it, and by no other.  `Shared.Locked` says so for the replies and for the
way out.  It holds after every run, whatever the peer does: a task that goes on
keeps what it has, and one that ends or is given up lets go of it.
-/

namespace JsonRpc.WebSocket

namespace Task

variable {t : Task}

theorem hasTurn_of_left (h : t.isLive = false) : t.hasTurn = false := by
  rw [hasTurn, h, Bool.and_false, Bool.false_and]

theorem hasWayOut_of_left (h : t.isLive = false) : t.hasWayOut = false := by
  rw [hasWayOut, h, Bool.false_and]

theorem hasTurn_begun (errand : Errand) : (begun errand).hasTurn = false := by
  cases errand <;> rfl

theorem hasWayOut_begun (errand : Errand) : (begun errand).hasWayOut = false := by
  cases errand <;> rfl

theorem hasTurn_writing {errand : Errand} (h : errand.isSend = true) :
    (⟨errand, .writing, false⟩ : Task).hasTurn = true := by
  rw [hasTurn, h]
  rfl

theorem hasTurn_flushing {errand : Errand} (h : errand.isSend = true) :
    (⟨errand, .flushing, false⟩ : Task).hasTurn = true := by
  rw [hasTurn, h]
  rfl

end Task

namespace Shared

variable {l l' : Shared} {i j : Nat} {t u : Task}

theorem release_eq_some_iff {lock : Option Nat} :
    release lock i = some j ↔ lock = some j ∧ j ≠ i := by
  unfold release
  split
  · rename_i hlock
    simp [hlock, eq_comm]
  · rename_i hlock
    exact ⟨fun h => ⟨h, fun hj => hlock (hj ▸ h)⟩, And.left⟩

/-- Each lock is held by the task that is at a stage which needs it. -/
structure Locked (l : Shared) : Prop where
  turn (i : Nat) : l.turn = some i ↔ ∃ t, l.tasks[i]? = some t ∧ t.hasTurn = true
  writer (i : Nat) : l.writer = some i ↔ ∃ t, l.tasks[i]? = some t ∧ t.hasWayOut = true

namespace Locked

theorem turn_eq (h : Locked l) (htask : l.tasks[i]? = some t) (hturn : t.hasTurn = true) :
    l.turn = some i := (h.turn i).2 ⟨t, htask, hturn⟩

theorem writer_eq (h : Locked l) (htask : l.tasks[i]? = some t) (hwriter : t.hasWayOut = true) :
    l.writer = some i := (h.writer i).2 ⟨t, htask, hwriter⟩

theorem eq_of_hasTurn (h : Locked l) (htask : l.tasks[i]? = some t) (hturn : t.hasTurn = true)
    (htask' : l.tasks[j]? = some u) (hturn' : u.hasTurn = true) : j = i := by
  have hi := h.turn_eq htask hturn
  rw [h.turn_eq htask' hturn', Option.some.injEq] at hi
  exact hi

/-- One task changes its stage, and with it the locks that it has. -/
theorem set (h : Locked l) (htask : l.tasks[i]? = some t) (htasks : l'.tasks = l.tasks.set i u)
    (hturn : ∀ j, l'.turn = some j ↔ if j = i then u.hasTurn = true else l.turn = some j)
    (hwriter : ∀ j, l'.writer = some j ↔ if j = i then u.hasWayOut = true else l.writer = some j) :
    Locked l' := by
  constructor
  · intro j
    rw [hturn, htasks, exists_set_iff Task.hasTurn htask, h.turn j]
  · intro j
    rw [hwriter, htasks, exists_set_iff Task.hasWayOut htask, h.writer j]

theorem turn_iff_ite (h : Locked l) (htask : l.tasks[i]? = some t)
    (hturn : u.hasTurn = t.hasTurn) (j : Nat) :
    l.turn = some j ↔ if j = i then u.hasTurn = true else l.turn = some j := by
  split
  · rename_i hj
    rw [hj, hturn, h.turn i, htask]
    simp
  · rfl

theorem writer_iff_ite (h : Locked l) (htask : l.tasks[i]? = some t)
    (hwriter : u.hasWayOut = t.hasWayOut) (j : Nat) :
    l.writer = some j ↔ if j = i then u.hasWayOut = true else l.writer = some j := by
  split
  · rename_i hj
    rw [hj, hwriter, h.writer i, htask]
    simp
  · rfl

theorem release_iff_ite (lock : Option Nat) {b : Bool} (hb : b = false) (j : Nat) :
    release lock i = some j ↔ if j = i then b = true else lock = some j := by
  rw [release_eq_some_iff, hb]
  split <;> simp_all

theorem grant_iff_ite {b : Bool} (hb : b = true) (j : Nat) :
    some i = some j ↔ if j = i then b = true else (none : Option Nat) = some j := by
  rw [Option.some.injEq, hb, eq_comm]
  split <;> simp_all

/-- A task that goes on keeps its locks. -/
theorem resume (h : Locked l) (htask : l.tasks[i]? = some t)
    (htasks : l'.tasks = l.tasks.set i u) (hlturn : l'.turn = l.turn)
    (hlwriter : l'.writer = l.writer) (hturn : u.hasTurn = t.hasTurn)
    (hwriter : u.hasWayOut = t.hasWayOut) : Locked l' := by
  refine h.set htask htasks ?_ ?_
  · rw [hlturn]
    exact h.turn_iff_ite htask hturn
  · rw [hlwriter]
    exact h.writer_iff_ite htask hwriter

/-- A task that leaves lets go of its locks. -/
theorem leave (h : Locked l) (htask : l.tasks[i]? = some t)
    (htasks : l'.tasks = l.tasks.set i u) (hlturn : l'.turn = release l.turn i)
    (hlwriter : l'.writer = release l.writer i) (hleft : u.isLive = false) : Locked l' := by
  refine h.set htask htasks ?_ ?_
  · rw [hlturn]
    exact release_iff_ite l.turn (Task.hasTurn_of_left hleft)
  · rw [hlwriter]
    exact release_iff_ite l.writer (Task.hasWayOut_of_left hleft)

theorem step {label : Label} (h : Locked l) (hstep : Step l label l') : Locked l' := by
  cases hstep with
  | begin errand =>
      constructor
      · intro j
        rw [exists_concat_iff Task.hasTurn (Task.hasTurn_begun errand), ← h.turn j]
      · intro j
        rw [exists_concat_iff Task.hasWayOut (Task.hasWayOut_begun errand), ← h.writer j]
  | enter htask hturn henter =>
      refine h.set htask rfl ?_ (h.writer_iff_ite htask rfl)
      rw [hturn]
      exact grant_iff_ite rfl
  | bounce htask hturn henter => exact h.leave htask rfl rfl rfl rfl
  | seize htask hwriter =>
      refine h.set htask rfl (h.turn_iff_ite htask rfl) ?_
      rw [hwriter]
      exact grant_iff_ite rfl
  | handOver htask hpayload hwrite => exact h.resume htask rfl rfl rfl rfl rfl
  | hangUp htask hclose => exact h.resume htask rfl rfl rfl rfl rfl
  | hangUpFailed htask hclose => exact h.leave htask rfl rfl rfl rfl
  | refuse fault htask => exact h.leave htask rfl rfl rfl rfl
  | spoil fault htask houtbound => exact h.leave htask rfl rfl rfl rfl
  | written htask =>
      refine h.set htask rfl (h.turn_iff_ite htask rfl) ?_
      intro j
      rw [h.writer_eq htask rfl]
      split <;> simp_all [Task.hasWayOut, Task.isLive, Stage.isWriting, eq_comm]
  | done htask hsend => exact h.leave htask rfl rfl rfl rfl
  | skip htask hqueue hjudge => exact ⟨h.turn, h.writer⟩
  | answered htask hqueue hqueued hjudge => exact h.leave htask rfl rfl rfl rfl
  | failed htask hqueue hjudge => exact h.leave htask rfl rfl rfl rfl
  | stranded htask hqueue hreading => exact h.leave htask rfl rfl rfl rfl
  | drop htask hover => exact h.leave htask rfl rfl rfl rfl
  | receive houtbound => exact ⟨h.turn, h.writer⟩
  | answer payload hbacklog => exact ⟨h.turn, h.writer⟩
  | push payload => exact ⟨h.turn, h.writer⟩
  | signal frame hframe => exact ⟨h.turn, h.writer⟩
  | arrive together hinbound hreading => exact ⟨h.turn, h.writer⟩

end Locked

end Shared

theorem Reachable.locked {conduct : Shared → Label → Prop} {l : Shared}
    (h : Reachable conduct l) : l.Locked := by
  induction h with
  | start => exact ⟨fun i => by simp, fun i => by simp⟩
  | step h hconduct hstep ih => exact ih.step hstep

end JsonRpc.WebSocket
