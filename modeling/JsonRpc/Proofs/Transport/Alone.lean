import JsonRpc.Proofs.Transport.Counting

/-!
# An errand that nobody disturbs

`send` and `publish` do at one go what a shared connection does in steps.  Where
nobody else uses the connection, and the peer says what it has to say before
the send looks for replies, both come to the same end.
-/

namespace JsonRpc.WebSocket

namespace Runs

variable {conduct : Shared → Label → Prop} {l l' l'' : Shared}

theorem refl (conduct : Shared → Label → Prop) (l : Shared) : Runs conduct l l :=
  Relation.ReflTransGen.refl

theorem trans (h : Runs conduct l l') (h' : Runs conduct l' l'') : Runs conduct l l'' :=
  Relation.ReflTransGen.trans h h'

theorem single {label : Label} (hconduct : conduct l label) (hstep : Step l label l')
    (heq : l' = l'') : Runs conduct l l'' :=
  Relation.ReflTransGen.single ⟨label, hconduct, heq ▸ hstep⟩

end Runs

theorem Reachable.runs {conduct : Shared → Label → Prop} {l l' : Shared}
    (h : Reachable conduct l) (hruns : Runs conduct l l') : Reachable conduct l' := by
  induction hruns with
  | refl => exact h
  | tail _ hstep ih =>
      obtain ⟨label, hconduct, hstep⟩ := hstep
      exact ih.step hconduct hstep

namespace Shared

/-- One more task, with the locks as they are then. -/
def joined (l : Shared) (t : Task) (turn writer : Option Nat) : Shared :=
  { l with
    tasks := l.tasks ++ [t]
    turn := turn
    writer := writer }

variable {l l' : Shared} {t : Task} {turn writer : Option Nat}

theorem getElem?_joined : (l.joined t turn writer).tasks[l.tasks.length]? = some t :=
  List.getElem?_concat_length

variable {conduct : Shared → Label → Prop} {destination : String} {payload : Octets} {ws : WebSocket}
  {events : List Event}

theorem runs_begin (hconduct : ∀ l, conduct l .within) (hturn : l.turn = none)
    (hwriter : l.writer = none) (errand : Errand) :
    Runs conduct l (l.joined (.begun errand) none none) := by
  refine .single (hconduct l) (.begin errand) ?_
  simp [joined, hturn, hwriter]

theorem runs_enter (hconduct : ∀ l, conduct l .within) (payload : Octets)
    (henter : l.socket.enter destination = (ws, events, .ok ())) :
    Runs conduct (l.joined ⟨.send destination payload, .queueing, false⟩ none none)
      ((l.discarded ws).joined ⟨.send destination payload, .posting, false⟩
        (some l.tasks.length) none) := by
  refine .single (hconduct _) (.enter getElem?_joined rfl henter) ?_
  simp [discarded, resume, joined]

theorem runs_bounce (hconduct : ∀ l, conduct l .within) (payload : Octets) {fault : TransportFault}
    (henter : l.socket.enter destination = (ws, events, .error fault)) :
    Runs conduct (l.joined ⟨.send destination payload, .queueing, false⟩ none none)
      ((l.discarded ws).joined ⟨.send destination payload, .failed fault, false⟩ none none) := by
  refine .single (hconduct _) (.bounce getElem?_joined rfl henter) ?_
  simp [discarded, leave, release, joined]

theorem runs_seize (hconduct : ∀ l, conduct l .within) (l : Shared) (errand : Errand)
    (turn : Option Nat) :
    Runs conduct (l.joined ⟨errand, .posting, false⟩ turn none)
      (l.joined ⟨errand, .writing, false⟩ turn (some l.tasks.length)) := by
  refine .single (hconduct _) (.seize getElem?_joined rfl) ?_
  simp [resume, joined]

theorem runs_handOver (hconduct : ∀ l, conduct l .within) {errand : Errand} {frame : Sent}
    (hpayload : errand.payload? = some payload) (hwrite : l.socket.write payload = .ok frame)
    (turn writer : Option Nat) :
    Runs conduct (l.joined ⟨errand, .writing, false⟩ turn writer)
      ((l.handed [⟨l.tasks.length, frame, errand.isSend⟩]).joined ⟨errand, .flushing, false⟩
        turn writer) := by
  refine .single (hconduct _) (.handOver getElem?_joined hpayload hwrite) ?_
  simp [resume, handed, joined]

/-- A send gets all that it needs to write. -/
theorem runs_writing (hconduct : ∀ l, conduct l .within) (hturn : l.turn = none)
    (hwriter : l.writer = none) (payload : Octets)
    (henter : l.socket.enter destination = (ws, events, .ok ())) :
    Runs conduct l
      ((l.discarded ws).joined ⟨.send destination payload, .writing, false⟩
        (some l.tasks.length) (some l.tasks.length)) := by
  have hbegun := runs_begin hconduct hturn hwriter (.send destination payload)
  have hentered := runs_enter hconduct payload henter
  have hseized := runs_seize hconduct (l.discarded ws) (.send destination payload)
    (some l.tasks.length)
  exact (hbegun.trans hentered).trans hseized

/-- A send comes as far as waiting for its reply. -/
theorem runs_posted (hconduct : ∀ l, conduct l .within) (hturn : l.turn = none)
    (hwriter : l.writer = none) {frame : Sent}
    (henter : l.socket.enter destination = (ws, events, .ok ()))
    (hwrite : ws.write payload = .ok frame) :
    Runs conduct l
      (((l.discarded ws).handed [⟨l.tasks.length, frame, true⟩]).joined
        ⟨.send destination payload, .awaiting, false⟩ (some l.tasks.length) none) := by
  have hhanded := runs_handOver (l := l.discarded ws) hconduct
    (rfl : (Errand.send destination payload).payload? = _) hwrite (some l.tasks.length)
    (some l.tasks.length)
  refine ((runs_writing hconduct hturn hwriter payload henter).trans hhanded).trans ?_
  refine .single (hconduct _) (.written getElem?_joined) ?_
  simp [resume, handed, discarded, joined, Errand.isSend]

/-- A send whose write fails takes back what it has counted. -/
theorem runs_refused (hconduct : ∀ l, conduct l .within) (hturn : l.turn = none)
    (hwriter : l.writer = none) (payload : Octets)
    (henter : l.socket.enter destination = (ws, events, .ok ())) (fault : TransportFault) :
    Runs conduct l
      ((l.discarded ws.withdraw).joined ⟨.send destination payload, .failed fault, false⟩
        none none) := by
  refine (runs_writing hconduct hturn hwriter payload henter).trans ?_
  refine .single (hconduct _) (.refuse fault getElem?_joined) ?_
  simp [leave, discarded, withdraw, Errand.withdrawn, release, joined]

/-! ## What the peer says -/

def originOf : Frame → Origin
  | .data _ => .unasked
  | _ => .control

def spoken (l : Shared) (frames : List Frame) : Shared :=
  { l with
    socket := { l.socket with gone := l.socket.gone || ends frames }
    inbound := l.inbound ++ frames.map fun frame => (originOf frame, frame) }

theorem runs_spoken (frames : List Frame) :
    Runs Free l (l.spoken frames) := by
  induction frames generalizing l with
  | nil =>
      have hspoken : l.spoken [] = l := by simp [spoken, ends]
      rw [hspoken]
      exact .refl _ l
  | cons frame frames ih =>
      have hframe : Runs Free l (l.spoken [frame]) := by
        cases frame with
        | data payload =>
            refine .single trivial (.push payload) ?_
            simp [spoken, ends, originOf]
        | _ => exact .single trivial (.signal _ (by simp)) rfl
      have hspoken : (l.spoken [frame]).spoken frames = l.spoken (frame :: frames) := by
        simp [spoken, ends, Bool.or_assoc]
      exact hframe.trans (hspoken ▸ ih)

theorem readAll_of_not_reading (frames : List Frame) (h : ws.reading = false) :
    (ws.readAll frames).1 = ws := by
  induction frames with
  | nil => rfl
  | cons frame frames ih => simpa [readAll, receive, h] using ih

/-- The reader reads all that has arrived, or stops at the end of the connection. -/
theorem runs_readAll (frames : List Frame)
    (hinbound : l.socket.reading = true → l.inbound = frames.map fun frame => (originOf frame, frame)) :
    ∃ queued inbound, Runs Free l
      { l with socket := (l.socket.readAll frames).1, queued := queued, inbound := inbound } := by
  induction frames generalizing l with
  | nil => exact ⟨l.queued, l.inbound, .refl _ l⟩
  | cons frame frames ih =>
      cases hreading : l.socket.reading with
      | false =>
          refine ⟨l.queued, l.inbound, ?_⟩
          rw [readAll_of_not_reading _ hreading]
          exact .refl _ l
      | true =>
          have hread : Runs Free l (l.read (l.socket.receive frame frames).1
              (originOf frame) (frames.map fun frame => (originOf frame, frame))) := by
            refine .single trivial (.arrive frames.length (hinbound hreading) hreading) ?_
            simp [Function.comp_def]
          obtain ⟨queued, inbound, hrest⟩ := ih (l := l.read (l.socket.receive frame frames).1
            (originOf frame) (frames.map fun frame => (originOf frame, frame))) fun _ => rfl
          exact ⟨queued, inbound, hread.trans hrest⟩

/-! ## The taking of replies -/

/-- What becomes of a send for which waiting has come to this.  One that would wait for ever is given
up. -/
def Concludes (errand : Errand) : Wait → Task → Prop
  | .reply reply, t => ∃ origin, t = ⟨errand, .answered origin reply, false⟩
  | .failed fault, t => t = ⟨errand, .failed fault, false⟩
  | .pending, t => t = ⟨errand, .awaiting, true⟩

theorem await_of_nil (hqueue : ws.queue = []) :
    ws.await destination = (ws, [], if ws.reading then .pending else .failed readerGone) := by
  obtain ⟨link, gone, stuck, reading, queue, outstanding⟩ := ws
  subst hqueue
  rfl

/-- A reply that is skipped is as good as one that was never queued. -/
theorem await_of_pending (destination : String) {item : Except TransportFault Octets}
    {rest : List (Except TransportFault Octets)} {left : Nat} (hqueue : ws.queue = item :: rest)
    (hjudge : judge ws.outstanding item = (.pending, left)) :
    let later := { ws with queue := rest, outstanding := left }.await destination
    (ws.await destination).1 = later.1 ∧ (ws.await destination).2.2 = later.2.2 := by
  simp only [await, hqueue, collect, hjudge]
  rcases collect destination rest left with ⟨queue, outstanding, events, wait⟩
  cases wait <;> exact ⟨rfl, rfl⟩

theorem await_of_judge {item : Except TransportFault Octets}
    {rest : List (Except TransportFault Octets)} {wait : Wait} {left : Nat}
    (hqueue : ws.queue = item :: rest) (hjudge : judge ws.outstanding item = (wait, left))
    (hwait : wait ≠ .pending) :
    ws.await destination = ({ ws with queue := rest, outstanding := left }, [], wait) := by
  simp only [await, hqueue, collect, hjudge]

/-- A send takes what is queued, until it ends or has to be given up. -/
theorem runs_await (destination : String) (payload : Octets)
    (hlength : l.queued.length = l.socket.queue.length) :
    ∃ queued t,
      Runs Free
        (l.joined ⟨.send destination payload, .awaiting, false⟩ (some l.tasks.length) none)
        ({ l with socket := (l.socket.await destination).1, queued := queued }.joined t none none) ∧
      Concludes (.send destination payload) (l.socket.await destination).2.2 t := by
  induction hqueue : l.socket.queue generalizing l with
  | nil =>
      rw [await_of_nil hqueue]
      refine ⟨l.queued, ?_⟩
      cases hreading : l.socket.reading with
      | true =>
          refine ⟨_, .single trivial (.drop getElem?_joined rfl) ?_, rfl⟩
          simp [leave, release, joined]
      | false =>
          refine ⟨_, .single trivial (.stranded getElem?_joined hqueue hreading) ?_, rfl⟩
          simp [leave, release, joined]
  | cons item rest ih =>
      obtain ⟨origin, origins, hqueued⟩ := List.exists_cons_of_length_eq_add_one
        (hlength.trans (congrArg List.length hqueue))
      rcases hjudge : judge l.socket.outstanding item with ⟨wait, left⟩
      cases wait with
      | pending =>
          obtain ⟨hsocket, hwait⟩ := await_of_pending destination hqueue hjudge
          have hskip : Runs Free
              (l.joined ⟨.send destination payload, .awaiting, false⟩ (some l.tasks.length) none)
              ((l.took rest left).joined ⟨.send destination payload, .awaiting, false⟩
                (some l.tasks.length) none) :=
            .single trivial (.skip getElem?_joined hqueue hjudge) rfl
          obtain ⟨queued, t, hruns, ht⟩ := ih (l := l.took rest left)
            (by simp [Shared.took, hlength, hqueue]) rfl
          rw [hsocket, hwait]
          exact ⟨queued, t, hskip.trans hruns, ht⟩
      | reply reply =>
          rw [await_of_judge hqueue hjudge Wait.noConfusion]
          refine ⟨origins, _,
            .single trivial (.answered getElem?_joined hqueue hqueued hjudge) ?_, origin, rfl⟩
          simp [leave, release, joined, Shared.took, hqueued]
      | failed fault =>
          rw [await_of_judge hqueue hjudge Wait.noConfusion]
          refine ⟨origins, _, .single trivial (.failed getElem?_joined hqueue hjudge) ?_, rfl⟩
          simp [leave, release, joined, Shared.took, hqueued]

theorem Carried.runs (h : Carried l) (hruns : Runs conduct l l') : Carried l' := by
  induction hruns with
  | refl => exact h
  | tail _ hstep ih =>
      obtain ⟨label, -, hstep⟩ := hstep
      exact ih.step hstep

/-- A send to which the peer answers with these frames can do what `send` does. -/
theorem runs_send (hcarried : Carried l) (hturn : l.turn = none) (hwriter : l.writer = none)
    (hinbound : l.socket.reading = true → l.inbound = []) (destination : String) (payload : Octets)
    (replies : List Frame) :
    let (ws, _, sent, wait) := l.socket.send destination payload replies
    ∃ (l' : Shared) (t : Task), Runs Free l (l'.joined t none none) ∧ l'.tasks = l.tasks ∧
      l'.socket = ws ∧ l'.outbound = l.outbound ++ sent.map (⟨l.tasks.length, ·, true⟩) ∧
      Concludes (.send destination payload) wait t := by
  have hconduct : ∀ l, Free l .within := fun _ => trivial
  rcases henter : l.socket.enter destination with ⟨ws, events, fault | _⟩
  · have hruns := (runs_begin hconduct hturn hwriter (.send destination payload)).trans
      (runs_bounce hconduct payload henter)
    simp only [send, post, henter]
    exact ⟨l.discarded ws, _, hruns, rfl, rfl, by simp [discarded], rfl⟩
  · cases hwrite : ws.write payload with
    | error fault =>
        have hruns := runs_refused hconduct hturn hwriter payload henter fault
        simp only [send, post, henter, hwrite]
        exact ⟨l.discarded ws.withdraw, _, hruns, rfl, rfl, by simp [discarded], rfl⟩
    | ok frame =>
        have hposted := runs_posted hconduct hturn hwriter henter hwrite
        have hspoken := hposted.trans (runs_spoken replies)
        have hreading := enter_reading l.socket destination
        rw [henter] at hreading
        obtain ⟨queued, inbound, hread⟩ := runs_readAll
          (l := (((l.discarded ws).handed [⟨l.tasks.length, frame, true⟩]).joined
            ⟨.send destination payload, .awaiting, false⟩ (some l.tasks.length) none).spoken replies)
          replies fun h => by
            have := hinbound (hreading ▸ h)
            simp [spoken, joined, handed, discarded, this]
        have hread := hspoken.trans hread
        have hlength := (hcarried.runs hread).queue.length_eq
        obtain ⟨queued', t, hawait, hconcludes⟩ := runs_await
          (l := { (((l.discarded ws).handed [⟨l.tasks.length, frame, true⟩]).spoken replies) with
            socket := (ws.receiveAll replies).1
            queued := queued
            inbound := inbound }) destination payload hlength.symm
        simp only [send, post, henter, hwrite]
        exact ⟨_, t, hread.trans hawait, rfl, rfl, rfl, hconcludes⟩

/-! ## Errands without a reply -/

def endOf : Except TransportFault Unit → Stage
  | .ok _ => .finished
  | .error fault => .failed fault

/-- A publication can do what `publish` does. -/
theorem runs_publish (hturn : l.turn = none) (hwriter : l.writer = none) (destination : String)
    (payload : Octets) :
    let (_, sent, result) := l.socket.publish destination payload
    Runs Free l
      ((l.handed (sent.map (⟨l.tasks.length, ·, false⟩))).joined
        ⟨.publish destination payload, endOf result, false⟩ none none) := by
  have hconduct : ∀ l, Free l .within := fun _ => trivial
  have hwriting := (runs_begin hconduct hturn hwriter (.publish destination payload)).trans
    (runs_seize hconduct _ _ none)
  cases hwrite : l.socket.write payload with
  | error fault =>
      simp only [publish, hwrite]
      refine hwriting.trans (.single trivial (.refuse fault getElem?_joined) ?_)
      simp [leave, handed, release, joined, Errand.withdrawn, endOf]
  | ok frame =>
      have hhanded := runs_handOver hconduct
        (rfl : (Errand.publish destination payload).payload? = _) hwrite none
        (some l.tasks.length)
      simp only [publish, hwrite]
      refine (hwriting.trans hhanded).trans (.single trivial (.done getElem?_joined rfl) ?_)
      simp [leave, handed, release, joined, endOf, Errand.isSend]

theorem frames_of_hangUp_eq_error {ws' : WebSocket} {frames : List Sent} {fault : TransportFault}
    (h : ws.hangUp = (ws', frames, .error fault)) : frames = [] := by
  unfold hangUp sendClose at h
  cases hlink : ws.link <;> cases hgone : ws.gone <;> simp_all

/-- A closing frame is sent, or fails to be sent. -/
theorem runs_hangUp (hturn : l.turn = none) (hwriter : l.writer = none) {frames : List Sent}
    {result : Except TransportFault Unit} (hclose : l.socket.hangUp = (ws, frames, result)) :
    Runs Free l
      ((({ l with socket := ws } : Shared).handed
        (frames.map (⟨l.tasks.length, ·, false⟩))).joined ⟨.close, endOf result, false⟩ none none) := by
  have hconduct : ∀ l, Free l .within := fun _ => trivial
  have hwriting := (runs_begin hconduct hturn hwriter .close).trans (runs_seize hconduct _ _ none)
  refine hwriting.trans ?_
  cases result with
  | error fault =>
      obtain rfl := frames_of_hangUp_eq_error hclose
      refine .single trivial (.hangUpFailed getElem?_joined hclose) ?_
      simp [leave, handed, release, joined, endOf]
  | ok _ =>
      have hhung : Runs Free (l.joined ⟨.close, .writing, false⟩ none (some l.tasks.length))
          ((({ l with socket := ws } : Shared).handed
            (frames.map (⟨l.tasks.length, ·, false⟩))).joined ⟨.close, .flushing, false⟩ none
              (some l.tasks.length)) := by
        refine .single trivial (.hangUp getElem?_joined hclose) ?_
        simp [resume, handed, joined]
      refine hhung.trans (.single trivial (.done getElem?_joined rfl) ?_)
      simp [leave, handed, release, joined, endOf]

/-- A closing which the peer answers can do what `close` does. -/
theorem runs_close (hturn : l.turn = none) (hwriter : l.writer = none)
    (hinbound : l.socket.reading = true → l.inbound = []) :
    let (ws, _, sent, result) := l.socket.close
    ∃ l' : Shared, Runs Free l (l'.joined ⟨.close, endOf result, false⟩ none none) ∧
      l'.tasks = l.tasks ∧ l'.socket = ws ∧
      l'.outbound = l.outbound ++ sent.map (⟨l.tasks.length, ·, false⟩) := by
  rcases hclose : l.socket.hangUp with ⟨ws, frames, result⟩
  have hruns := runs_hangUp hturn hwriter hclose
  simp only [close_eq_hangUp, hclose]
  split
  · have hspoken := hruns.trans (runs_spoken [.close])
    have hreading := hangUp_reading l.socket
    rw [hclose] at hreading
    obtain ⟨queued, inbound, hread⟩ := runs_readAll
      (l := ((({ l with socket := ws } : Shared).handed
        (frames.map (⟨l.tasks.length, ·, false⟩))).joined ⟨.close, endOf result, false⟩
          none none).spoken [.close]) [.close] fun h => by
        have := hinbound (hreading ▸ h)
        simp [spoken, joined, handed, this]
    refine ⟨{ (({ l with socket := ws } : Shared).handed
      (frames.map (⟨l.tasks.length, ·, false⟩))) with
        socket := (ws.receive .close []).1
        queued := queued
        inbound := inbound }, ?_, rfl, rfl, rfl⟩
    simpa [spoken, joined, handed, readAll, ends] using hspoken.trans hread
  · exact ⟨_, hruns, rfl, rfl, rfl⟩

end Shared

/-- Someone sends, and waits for a reply. -/
theorem Reachable.send {conduct : Shared → Label → Prop} {l : Shared} (h : Reachable conduct l)
    (hconduct : ∀ l, conduct l .within) (destination : String) (payload : Octets)
    (hturn : l.turn = none) (hwriter : l.writer = none) {ws : WebSocket} {events : List Event}
    {frame : Sent} (henter : l.socket.enter destination = (ws, events, .ok ()))
    (hwrite : ws.write payload = .ok frame) :
    Reachable conduct
      (((l.discarded ws).handed [⟨l.tasks.length, frame, true⟩]).joined
        ⟨.send destination payload, .awaiting, false⟩ (some l.tasks.length) none) :=
  h.runs (Shared.runs_posted hconduct hturn hwriter henter hwrite)

end JsonRpc.WebSocket
