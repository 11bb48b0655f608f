import JsonRpc.Proofs.Reply
import JsonRpc.Proofs.Session.Course

/-!
# Where failures come from

An operation can fail before anything is handed to the transport, and it can
fail because of what the transport made of its message.  The error tells which
of the two it was: the errors of the local checks are those of the caller's
input, and none of them comes from outside.

For a call the error says more.  Which ending the request came to, and what the
reply said if there was one, can be read off the result.
-/

namespace JsonRpc

/-- Every error of this result has the property. -/
def Fails {α : Type} (P : RpcError → Prop) (r : Except RpcError α) : Prop :=
  ∀ e, r = .error e → P e

section

variable {α β : Type} {P : RpcError → Prop}

theorem fails_ok (x : α) : Fails P (.ok x) := by
  intro e h
  cases h

theorem fails_error {e : RpcError} (h : P e) : Fails P (.error e : Except RpcError α) := by
  intro e' he
  cases he
  exact h

theorem Fails.bind {r : Except RpcError α} {next : α → Except RpcError β} (h : Fails P r)
    (hnext : ∀ x, Fails P (next x)) : Fails P (r >>= next) := by
  cases r with
  | ok x => exact hnext x
  | error e => exact fails_error (h e rfl)

theorem Fails.map {r : Except RpcError α} (h : Fails P r) (f : α → β) :
    Fails P (r.map f) := by
  cases r with
  | ok x => exact fails_ok (f x)
  | error e => exact fails_error (h e rfl)

theorem fails_mapM {f : α → Except RpcError β} (h : ∀ x, Fails P (f x)) (xs : List α) :
    Fails P (xs.mapM f) := by
  induction xs with
  | nil => exact fails_ok []
  | cons x xs ih =>
      rw [List.mapM_cons]
      exact (h x).bind fun y => ih.bind fun ys => fails_ok (y :: ys)

end

/-! ## Local checks -/

abbrev FailsLocally {α : Type} (r : Except RpcError α) : Prop :=
  Fails (fun e => e.isLocalInput = true) r

theorem TypeTag.failsLocally_ofName (s : String) : FailsLocally (TypeTag.ofName s) := by
  unfold TypeTag.ofName
  split
  · exact fails_ok _
  · exact fails_error rfl

theorem failsLocally_coerceNumber (s : String) : FailsLocally (coerceNumber s) := by
  unfold coerceNumber
  split
  · exact fails_ok _
  split
  · exact fails_error rfl
  split
  · exact fails_ok _
  · exact fails_error rfl

theorem TypeTag.failsLocally_coerce (tag : TypeTag) (s : String) :
    FailsLocally (tag.coerce s) := by
  cases tag with
  | bit => exact fails_ok _
  | num => exact failsLocally_coerceNumber s
  | str => exact fails_ok _
  | nil => exact fails_ok _
  | arr | obj | any =>
      simp only [coerce]
      cases Json.parseText s with
      | ok v => exact fails_ok v
      | error fault => exact fails_error rfl

theorem Procedure.failsLocally_coerceArgs (p : Procedure) (args : List String) :
    FailsLocally (p.coerceArgs args) := by
  unfold Procedure.coerceArgs
  split
  · exact fails_error rfl
  · apply fails_mapM
    rintro ⟨param, arg⟩
    exact (TypeTag.failsLocally_ofName param.type).bind fun tag => tag.failsLocally_coerce arg

theorem Description.failsLocally_get (d : Description) (name : String) (arity : Nat) :
    FailsLocally (d.get name arity) := by
  unfold Description.get
  split
  · exact fails_ok _
  · exact fails_error rfl

namespace Session

theorem failsLocally_positionalRequest (s : Session) (words : List String) :
    FailsLocally (s.positionalRequest words) := by
  cases words with
  | nil => exact fails_error rfl
  | cons method words =>
      rw [positionalRequest]
      cases s.description with
      | none => exact fails_error rfl
      | some d =>
          apply (d.failsLocally_get method words.length).bind
          intro procedure
          apply (procedure.failsLocally_coerceArgs words).bind
          intro params
          exact fails_ok _

theorem failsLocally_request (s : Session) (op : Operation) : FailsLocally (s.request op) := by
  cases op with
  | describe => exact fails_ok _
  | call method params => exact fails_ok _
  | notify method params => exact fails_ok _
  | positional words => exact s.failsLocally_positionalRequest words
  | invoke signature params =>
      simp only [request, invocationRequest]
      split
      · exact fails_error rfl
      · exact fails_ok _

/-! ## Endings -/

/-- The errors that something outside is the origin of. -/
inductive FromOutside : RpcError → Prop where
  | remote (payload : ErrorPayload) : FromOutside (.remote payload)
  | protocolViolation (detail : String) : FromOutside (.protocolViolation detail)
  | malformedDescription (detail : String) : FromOutside (.malformedDescription detail)
  | timeout : FromOutside .timeout
  | io (detail : String) : FromOutside (.io detail)

theorem FromOutside.isLocalInput {e : RpcError} (h : FromOutside e) : e.isLocalInput = false := by
  cases h <;> rfl

theorem isRemote_of_isLocalInput {e : RpcError} (h : e.isLocalInput = true) :
    e.isRemote = false := by
  cases e with
  | remote payload => cases h
  | _ => rfl

theorem fromOutside_toRpcError (fault : TransportFault) : FromOutside fault.toRpcError := by
  cases fault with
  | timeout => exact .timeout
  | shutdown reason => exact .io _
  | io reason => exact .io reason

theorem fails_resultOfOctets (octets : Octets) :
    Fails FromOutside (Reply.resultOfOctets octets) := by
  have hsays := Reply.says_resultOfOctets octets
  generalize Reply.resultOfOctets octets = r at hsays
  cases hsays with
  | refusal => exact fails_error (.remote _)
  | answer => exact fails_ok _
  | nothing detail => exact fails_error (.protocolViolation detail)

theorem fails_callResult (ending : Ending) : Fails FromOutside (callResult ending) := by
  cases ending with
  | delivered reply => exact fails_resultOfOctets reply
  | failed fault => exact fails_error (fromOutside_toRpcError fault)
  | expired => exact fails_error .timeout

theorem fails_publishResult (ending : Ending) : Fails FromOutside (publishResult ending) := by
  cases ending with
  | delivered reply => exact fails_ok ()
  | failed fault => exact fails_error (fromOutside_toRpcError fault)
  | expired => exact fails_error .timeout

theorem fails_description {P : RpcError → Prop} (h : ∀ detail, P (.malformedDescription detail))
    (v : Json) : Fails P (Description.ofJson v) := by
  unfold Description.ofJson
  split
  · exact fails_error (h _)
  split
  · exact fails_ok _
  · exact fails_error (h _)

theorem fails_verdict {P : RpcError → Prop} (op : Operation) (r : Request) {ending : Ending}
    (hcall : Fails P (callResult ending)) (hpublish : Fails P (publishResult ending))
    (hdescription : ∀ detail, P (.malformedDescription detail)) :
    Fails P (verdict op r ending) := by
  by_cases hop : op = .describe
  · subst hop
    exact (hcall.bind (fails_description hdescription)).map Outcome.described
  · cases hreply : r.expectsReply with
    | true =>
        rw [verdict_of_expectsReply hop hreply]
        exact hcall.map Outcome.value
    | false =>
        rw [verdict_of_notification hop hreply]
        exact hpublish.map _

/-- No ending makes an operation look as if it had not been sent. -/
theorem fromOutside_verdict (op : Operation) (r : Request) (ending : Ending) :
    Fails FromOutside (verdict op r ending) :=
  fails_verdict op r (fails_callResult ending) (fails_publishResult ending)
    .malformedDescription

theorem isRemote_toRpcError (fault : TransportFault) : fault.toRpcError.isRemote = false := by
  cases fault <;> rfl

/-- Only a reply can be reported as the peer's error. -/
theorem not_isRemote_verdict (op : Operation) (r : Request) {ending : Ending}
    (h : ∀ reply, ending ≠ .delivered reply) :
    Fails (fun e => e.isRemote = false) (verdict op r ending) := by
  cases ending with
  | delivered reply => exact absurd rfl (h reply)
  | failed fault =>
      have hfault := isRemote_toRpcError fault
      exact fails_verdict op r (fails_error hfault) (fails_error hfault) fun _ => rfl
  | expired => exact fails_verdict op r (fails_error rfl) (fails_error rfl) fun _ => rfl

/-! ## What the result of a call says of its ending -/

section

variable {ending : Ending}

theorem callResult_eq_ok_iff {v : Json} :
    callResult ending = .ok v ↔ ∃ reply written, ending = .delivered reply ∧
      Json.written? reply = some written ∧ Reply.last? "error" written = none ∧
      Reply.last? "result" written = some v := by
  cases ending with
  | delivered reply => simp [callResult, Reply.resultOfOctets_eq_ok_iff]
  | failed fault => simp [callResult]
  | expired => simp [callResult]

theorem callResult_eq_remote_iff {payload : ErrorPayload} :
    callResult ending = .error (.remote payload) ↔
      ∃ reply written, ending = .delivered reply ∧ Json.written? reply = some written ∧
        Reply.last? "error" written = some payload.value := by
  cases ending with
  | delivered reply => simp [callResult, Reply.resultOfOctets_eq_remote_iff]
  | failed fault => cases fault <;> simp [callResult, TransportFault.toRpcError]
  | expired => simp [callResult]

theorem callResult_violation_iff :
    (∃ detail, callResult ending = .error (.protocolViolation detail)) ↔
      ∃ reply, ending = .delivered reply ∧ ∀ written, Json.written? reply = some written →
        Reply.last? "error" written = none ∧ Reply.last? "result" written = none := by
  cases ending with
  | delivered reply => simp [callResult, Reply.resultOfOctets_violation_iff]
  | failed fault => cases fault <;> simp [callResult, TransportFault.toRpcError]
  | expired => simp [callResult]

theorem resultOfOctets_ne_of_not_reply (octets : Octets) :
    Reply.resultOfOctets octets ≠ .error .timeout ∧
      ∀ detail, Reply.resultOfOctets octets ≠ .error (.io detail) := by
  have hsays := Reply.says_resultOfOctets octets
  generalize Reply.resultOfOctets octets = r at hsays
  cases hsays <;> simp

theorem callResult_eq_timeout_iff :
    callResult ending = .error .timeout ↔ ending = .failed .timeout ∨ ending = .expired := by
  cases ending with
  | delivered reply => simp [callResult, resultOfOctets_ne_of_not_reply]
  | failed fault => cases fault <;> simp [callResult, TransportFault.toRpcError]
  | expired => simp [callResult]

theorem callResult_io_iff :
    (∃ detail, callResult ending = .error (.io detail)) ↔
      ∃ reason, ending = .failed (.shutdown reason) ∨ ending = .failed (.io reason) := by
  cases ending with
  | delivered reply => simp [callResult, resultOfOctets_ne_of_not_reply]
  | failed fault => cases fault <;> simp [callResult, TransportFault.toRpcError]
  | expired => simp [callResult]

end

/-! ## Operations -/

theorem map_value_eq_ok_iff {r : Except RpcError Json} {v : Json} :
    r.map Outcome.value = .ok (.value v) ↔ r = .ok v := by
  cases r <;> simp [Except.map]

theorem map_value_eq_error_iff {r : Except RpcError Json} {e : RpcError} :
    r.map Outcome.value = .error e ↔ r = .error e := by
  cases r <;> simp [Except.map]

variable {s : Session} {carry : Carrier} {op : Operation}

theorem handed_eq_none_iff :
    (s.perform carry op).handed = none ↔
      ∃ e, (s.perform carry op).result = some (.error e) ∧ e.isLocalInput = true := by
  have hshape := shape_perform s carry op
  generalize s.perform carry op = c at hshape
  cases hshape with
  | @rejected e report hrequest =>
      have hlocal : e.isLocalInput = true := s.failsLocally_request op e hrequest
      exact ⟨fun _ => ⟨e, rfl, hlocal⟩, fun _ => rfl⟩
  | abandoned => simp
  | @concluded r ending report =>
      -- Something was handed over, so the error would have to be local and from outside.
      constructor
      · intro hhanded
        cases hhanded
      · rintro ⟨e, hresult, hlocal⟩
        have houtside := fromOutside_verdict op r ending e (Option.some.inj hresult)
        rw [houtside.isLocalInput] at hlocal
        cases hlocal

/-- An error of an operation is one of its checks or of the verdict on its ending. -/
theorem fails_perform {P : RpcError → Prop} (hrequest : Fails P (s.request op))
    (hverdict : ∀ r ending, (s.perform carry op).ending = some ending →
      Fails P (verdict op r ending)) {e : RpcError}
    (h : (s.perform carry op).result = some (.error e)) :
    P e := by
  have hshape := shape_perform s carry op
  generalize s.perform carry op = c at hshape h hverdict
  cases hshape with
  | rejected report heq =>
      cases h
      exact hrequest e heq
  | abandoned => cases h
  | @concluded r ending => exact hverdict r ending rfl e (Option.some.inj h)

theorem error_of_perform {e : RpcError} (h : (s.perform carry op).result = some (.error e)) :
    e.isLocalInput = true ∨ FromOutside e := by
  have hrequest : Fails (fun e => e.isLocalInput = true ∨ FromOutside e) (s.request op) :=
    fun e he => .inl (s.failsLocally_request op e he)
  exact fails_perform hrequest
    (fun r ending _ e he => .inr (fromOutside_verdict op r ending e he)) h

theorem delivered_of_isRemote {e : RpcError}
    (h : (s.perform carry op).result = some (.error e)) (hremote : e.isRemote = true) :
    ∃ reply, (s.perform carry op).ending = some (.delivered reply) := by
  -- Were there no reply, no error of the operation could be remote.
  apply Classical.byContradiction
  intro hno
  have hrequest : Fails (fun e => e.isRemote = false) (s.request op) :=
    fun e he => isRemote_of_isLocalInput (s.failsLocally_request op e he)
  have hverdict : ∀ r ending, (s.perform carry op).ending = some ending →
      Fails (fun e => e.isRemote = false) (verdict op r ending) := by
    intro r ending hending
    apply not_isRemote_verdict
    rintro reply rfl
    exact hno ⟨reply, hending⟩
  have hlocal : e.isRemote = false := fails_perform hrequest hverdict h
  rw [hlocal] at hremote
  cases hremote

theorem result_of_expectsReply (hop : op ≠ .describe) {message : Message}
    (hhanded : (s.perform carry op).handed = some message)
    (hreply : message.expectsReply = true) :
    (s.perform carry op).result =
      (s.perform carry op).ending.map fun ending => (callResult ending).map .value := by
  have hshape := shape_perform s carry op
  generalize s.perform carry op = c at hshape hhanded
  cases hshape with
  | rejected => cases hhanded
  | abandoned => rfl
  | concluded =>
      cases hhanded
      rw [verdict_of_expectsReply hop hreply]
      rfl

/-- The origin of every failure can be told from the error. -/
theorem origin_of_failure (s : Session) (carry : Carrier) (op : Operation) :
    let course := s.perform carry op
    (course.handed = none ↔
      ∃ e, course.result = some (.error e) ∧ e.isLocalInput = true) ∧
    (∀ message, course.handed = some message → message.expectsReply = true →
      op ≠ .describe →
      (∀ v, course.result = some (.ok (.value v)) ↔
        ∃ reply written, course.ending = some (.delivered reply) ∧
          Json.written? reply = some written ∧ Reply.last? "error" written = none ∧
          Reply.last? "result" written = some v) ∧
      (∀ payload, course.result = some (.error (.remote payload)) ↔
        ∃ reply written, course.ending = some (.delivered reply) ∧
          Json.written? reply = some written ∧
          Reply.last? "error" written = some payload.value) ∧
      ((∃ detail, course.result = some (.error (.protocolViolation detail))) ↔
        ∃ reply, course.ending = some (.delivered reply) ∧
          ∀ written, Json.written? reply = some written →
            Reply.last? "error" written = none ∧ Reply.last? "result" written = none) ∧
      (course.result = some (.error .timeout) ↔
        course.ending = some (.failed .timeout) ∨ course.ending = some .expired) ∧
      ((∃ detail, course.result = some (.error (.io detail))) ↔
        ∃ reason, course.ending = some (.failed (.shutdown reason)) ∨
          course.ending = some (.failed (.io reason)))) ∧
    (∀ e, course.result = some (.error e) → e.isRemote = true →
      ∃ reply, course.ending = some (.delivered reply)) ∧
    (∀ detail, course.result ≠ some (.error (.serialization detail)) ∧
      course.result ≠ some (.error (.internal detail))) := by
  intro course
  refine ⟨handed_eq_none_iff, ?_, fun _ => delivered_of_isRemote, ?_⟩
  · intro message hhanded hreply hop
    have hresult : course.result =
        course.ending.map fun ending => (callResult ending).map .value :=
      result_of_expectsReply hop hhanded hreply
    rw [hresult]
    cases course.ending with
    | none => simp
    | some ending =>
        simp only [Option.map_some, Option.some.injEq, map_value_eq_ok_iff,
          map_value_eq_error_iff]
        exact ⟨fun _ => callResult_eq_ok_iff, fun _ => callResult_eq_remote_iff,
          callResult_violation_iff, callResult_eq_timeout_iff, callResult_io_iff⟩
  · have hnever : ∀ e : RpcError, e.isLocalInput = false → ¬FromOutside e →
        course.result ≠ some (.error e) := by
      intro e hlocal houtside hresult
      rcases error_of_perform hresult with h | h
      · rw [hlocal] at h
        cases h
      · exact houtside h
    intro detail
    exact ⟨hnever _ rfl nofun, hnever _ rfl nofun⟩

/-- The ways in which a call can come out: with a result, with an error that is null, with a reply
that is neither, and over a transport that was shut down.  A call without a procedure is the
caller's failure. -/
theorem origin_of_replies :
    let s := new "calculator" {} none
    let answer (reply : String) : Carrier := fun _ => some (.delivered (.ofString reply))
    let gone : Carrier := fun _ => some (.failed (.shutdown "gone"))
    let result carry := (s.perform carry (.call "add" [])).result
    result (answer "\x7b\"result\":4,\"result\":5\x7d") = some (.ok (.value (.int 5))) ∧
      result (answer "\x7b\"error\":null,\"result\":5\x7d") =
        some (.error (.remote ⟨.null⟩)) ∧
      (∃ detail, result (answer "\x7b\"id\":1\x7d") =
        some (.error (.protocolViolation detail))) ∧
      (∃ detail, result gone = some (.error (.io detail))) ∧
      (s.perform gone (.positional [])).handed = none := by
  intro s answer gone result
  have hop : Operation.call "add" [] ≠ .describe := by
    intro h
    cases h
  have hvalue := origin_of_failure s (answer "\x7b\"result\":4,\"result\":5\x7d")
    (.call "add" [])
  have hremote := origin_of_failure s (answer "\x7b\"error\":null,\"result\":5\x7d")
    (.call "add" [])
  have hneither := origin_of_failure s (answer "\x7b\"id\":1\x7d") (.call "add" [])
  have hgone := origin_of_failure s gone (.call "add" [])
  have hwords := (origin_of_failure s gone (.positional [])).1
  refine ⟨?_, ?_, ?_, ?_, hwords.mpr ⟨_, rfl, rfl⟩⟩
  · obtain ⟨hvalue, -⟩ := hvalue.2.1 _ rfl rfl hop
    exact (hvalue _).mpr ⟨_, [("result", .int 4), ("result", .int 5)], rfl, rfl, rfl, rfl⟩
  · obtain ⟨-, hremote, -⟩ := hremote.2.1 _ rfl rfl hop
    exact (hremote _).mpr ⟨_, [("error", .null), ("result", .int 5)], rfl, rfl, rfl⟩
  · obtain ⟨-, -, hviolation, -⟩ := hneither.2.1 _ rfl rfl hop
    have hwritten : Json.written? (.ofString "\x7b\"id\":1\x7d") = some [("id", .int 1)] := rfl
    refine hviolation.mpr ⟨_, rfl, fun written h => ?_⟩
    rw [hwritten] at h
    cases h
    exact ⟨rfl, rfl⟩
  · obtain ⟨-, -, -, -, hio⟩ := hgone.2.1 _ rfl rfl hop
    exact hio.mpr ⟨"gone", .inl rfl⟩

end Session

end JsonRpc
