import JsonRpc.Proofs.Coercion
import JsonRpc.Proofs.Description.Lookup

/-!
# Calls by words

A call by words is either rejected before anything is handed to the transport,
or it is a call: the very message of the call goes out, and what comes back is
taken in the same way.  The checks have an order.  A procedure has to be named,
the service has to be described, the procedure has to be found, and only then
are the texts of the arguments looked at, from the first to the last.
-/

namespace JsonRpc

/-- The operation ended with this error before it handed anything to the transport, and it left
the session as it was. -/
structure Course.Rejected (c : Course) (s : Session) (e : RpcError) : Prop where
  session : c.session = s
  handed : c.handed = none
  ending : c.ending = none
  result : c.result = some (.error e)

/-- Two operations with the same traffic and the same result, which leave the same session. -/
structure Course.Agrees (c c' : Course) : Prop where
  session : c.session = c'.session
  handed : c.handed = c'.handed
  ending : c.ending = c'.ending
  result : c.result = c'.result

namespace Session

variable {s : Session} {carry : Carrier} {method : String} {words : List String}

theorem rejected_of_request {op : Operation} {e : RpcError} (h : s.request op = .error e)
    (carry : Carrier) : (s.perform carry op).Rejected s e := by
  obtain ⟨report, hcourse⟩ := perform_rejected carry h
  rw [hcourse]
  exact ⟨rfl, rfl, rfl, rfl⟩

/-- An operation that wants the same request sent as a call is as good as the call. -/
theorem agrees_of_request {op : Operation} {params : List Json} (hop : op ≠ .describe)
    (h : s.request op = .ok ⟨method, params, true⟩) (carry : Carrier) :
    (s.perform carry op).Agrees (s.perform carry (.call method params)) := by
  have hcall : s.request (.call method params) = .ok ⟨method, params, true⟩ := rfl
  obtain ⟨_, hop_course⟩ := perform_request carry h
  obtain ⟨_, hcall_course⟩ := perform_request carry hcall
  rw [hop_course, hcall_course]
  cases carry (s.message ⟨method, params, true⟩) with
  | none => exact ⟨started_of_ne_describe hop, rfl, rfl, rfl⟩
  | some ending =>
      exact ⟨concluded_of_ne_describe hop ending, rfl, rfl,
        congrArg some (verdict_of_expectsReply hop rfl ending)⟩

/-! ## The checks, in their order -/

theorem request_of_undescribed (hdescription : s.description = none) :
    s.request (.positional (method :: words)) = .error .noServiceDescription := by
  simp only [request, positionalRequest, hdescription]

section

variable {d : Description} {p : Procedure}

theorem request_of_unknown (hdescription : s.description = some d)
    (hfind : d.find? method words.length = none) :
    s.request (.positional (method :: words)) =
      .error (.procedureNotFound method words.length) := by
  simp only [request, positionalRequest, hdescription, Description.get, hfind]
  rfl

theorem request_of_found (hdescription : s.description = some d)
    (hfind : d.find? method words.length = some p) :
    s.request (.positional (method :: words)) =
      (p.coerceArgs words).map fun params => ⟨method, params, true⟩ := by
  simp only [request, positionalRequest, hdescription, Description.get, hfind]
  change (p.coerceArgs words >>= fun params => Except.ok (⟨method, params, true⟩ : Request)) = _
  cases p.coerceArgs words <;> rfl

theorem agrees_of_takes (hdescription : s.description = some d)
    (hfind : d.find? method words.length = some p) {vs : List Json} (h : p.Takes words vs)
    (carry : Carrier) :
    (s.perform carry (.positional (method :: words))).Agrees
      (s.perform carry (.call method vs)) := by
  have harity : p.arity = words.length := (Description.answers_of_find? hfind).2
  have hrequest := request_of_found hdescription hfind
  rw [(Procedure.coerceArgs_eq_ok_iff harity).mpr h] at hrequest
  exact agrees_of_request Operation.noConfusion hrequest carry

theorem rejected_of_refuses (hdescription : s.description = some d)
    (hfind : d.find? method words.length = some p) {e : RpcError} (h : p.Refuses words e)
    (carry : Carrier) :
    (s.perform carry (.positional (method :: words))).Rejected s e := by
  have harity : p.arity = words.length := (Description.answers_of_find? hfind).2
  have hrequest := request_of_found hdescription hfind
  rw [(Procedure.coerceArgs_eq_error_iff harity).mpr h] at hrequest
  exact rejected_of_request hrequest carry

theorem takes_or_refuses (hanswers : p.Answers method words.length) :
    (∃ vs, p.Takes words vs) ∨ ∃ e, p.Refuses words e := by
  cases hargs : p.coerceArgs words with
  | ok vs => exact .inl ⟨vs, (Procedure.coerceArgs_eq_ok_iff hanswers.2).mp hargs⟩
  | error e => exact .inr ⟨e, Procedure.refuses_of_coerceArgs hanswers.2 hargs⟩

end

theorem method_of_positional {words : List String} {r : Request}
    (h : s.request (.positional words) = .ok r) : r.method = words.headD "" := by
  cases words with
  | nil => cases h
  | cons method words =>
      cases hdescription : s.description with
      | none =>
          rw [request_of_undescribed hdescription] at h
          cases h
      | some d =>
          cases hfind : d.find? method words.length with
          | none =>
              rw [request_of_unknown hdescription hfind] at h
              cases h
          | some p =>
              rw [request_of_found hdescription hfind] at h
              cases hargs : p.coerceArgs words with
              | error e =>
                  rw [hargs] at h
                  cases h
              | ok params =>
                  rw [hargs] at h
                  cases h
                  rfl

/-- The number of the parameters was checked when the procedure was found. -/
theorem request_ne_invalidParams (s : Session) (words : List String) :
    Fails (fun e => ∀ detail, e ≠ .invalidParams detail) (s.request (.positional words)) := by
  cases words with
  | nil => exact fails_error nofun
  | cons method words =>
      cases hdescription : s.description with
      | none =>
          rw [request_of_undescribed hdescription]
          exact fails_error nofun
      | some d =>
          cases hfind : d.find? method words.length with
          | none =>
              rw [request_of_unknown hdescription hfind]
              exact fails_error nofun
          | some p =>
              rw [request_of_found hdescription hfind]
              refine Fails.map (fun e hargs => ?_) _
              have harity : p.arity = words.length := (Description.answers_of_find? hfind).2
              obtain ⟨i, param, word, -, -, -, hmisfit, -⟩ :=
                Procedure.refuses_of_coerceArgs harity hargs
              cases hmisfit <;> exact nofun

theorem result_ne_invalidParams (s : Session) (carry : Carrier) (words : List String)
    (detail : String) :
    (s.perform carry (.positional words)).result ≠ some (.error (.invalidParams detail)) := by
  intro hresult
  have hverdict : ∀ r ending, (s.perform carry (.positional words)).ending = some ending →
      Fails (fun e => ∀ detail, e ≠ .invalidParams detail)
        (verdict (.positional words) r ending) := by
    intro r ending _ e he detail heq
    cases heq
    cases fromOutside_verdict _ r ending _ he
  exact fails_perform (s.request_ne_invalidParams words) hverdict hresult detail rfl

/-- A call by words agrees with the call of the procedure that was described last with this name
and so many parameters, and it is rejected where there is no such procedure or a text does not
fit. -/
theorem positional_agrees (s : Session) (carry : Carrier) :
    (s.perform carry (.positional [])).Rejected s (.procedureNotFound "" 0) ∧
    ∀ method words,
      let course := s.perform carry (.positional (method :: words))
      (s.description = none → course.Rejected s .noServiceDescription) ∧
      (∀ d, s.description = some d →
        ((∀ p ∈ d.procs, ¬p.Answers method words.length) →
          course.Rejected s (.procedureNotFound method words.length)) ∧
        ∀ before p after, d.procs = before ++ p :: after → p.Answers method words.length →
          (∀ q ∈ after, ¬q.Answers method words.length) →
          (∀ vs, p.Takes words vs → course.Agrees (s.perform carry (.call method vs))) ∧
          (∀ e, p.Refuses words e → course.Rejected s e) ∧
          ((∃ vs, p.Takes words vs) ∨ ∃ e, p.Refuses words e)) ∧
      (∀ (d : Description) p, d.get method words.length = .ok p → words.length = p.arity) ∧
      ∀ detail, course.result ≠ some (.error (.invalidParams detail)) := by
  refine ⟨rejected_of_request rfl carry, ?_⟩
  intro method words course
  refine ⟨?_, ?_, ?_, s.result_ne_invalidParams carry _⟩
  · intro hdescription
    exact rejected_of_request (request_of_undescribed hdescription) carry
  · intro d hdescription
    refine ⟨?_, ?_⟩
    · intro hnone
      have hfind : d.find? method words.length = none := Description.find?_eq_none_iff.mpr hnone
      exact rejected_of_request (request_of_unknown hdescription hfind) carry
    · intro before p after hprocs hanswers hafter
      have hfind : d.find? method words.length = some p :=
        Description.find?_eq_some_iff.mpr ⟨hanswers, before, after, hprocs, hafter⟩
      exact ⟨fun vs hvs => agrees_of_takes hdescription hfind hvs carry,
        fun e he => rejected_of_refuses hdescription hfind he carry, takes_or_refuses hanswers⟩
  · intro d p hget
    have hfind : d.find? method words.length = some p := by
      rw [Description.get] at hget
      split at hget
      · next heq =>
          cases hget
          exact heq
      · cases hget
    exact (Description.answers_of_find? hfind).2.symm

/-- Of two procedures with one name and arity the latter reads the text, and the call that this
comes to is answered. -/
theorem positional_agrees_with_latter :
    let first : Procedure := .ofSignature "add" [⟨"a", "blob"⟩]
    let second : Procedure := .ofSignature "add" [⟨"b", "str"⟩]
    let s : Session := { new "calculator" {} none with
      state := .ready, description := some (.ofProcedures [first, second]) }
    let carry : Carrier := fun _ => some (.delivered (.ofString "\x7b\"result\":true\x7d"))
    let course := s.perform carry (.positional ["add", "x"])
    course.Agrees (s.perform carry (.call "add" [.str "x"])) ∧
      course.result = some (.ok (.value (.bool true))) ∧
      (s.perform carry (.positional ["add"])).Rejected s (.procedureNotFound "add" 0) := by
  intro first second s carry course
  obtain ⟨-, hwords⟩ := positional_agrees s carry
  obtain ⟨-, hfound, -⟩ := hwords "add" ["x"]
  obtain ⟨htakes, -⟩ := (hfound _ rfl).2 [first] second [] rfl ⟨rfl, rfl⟩ nofun
  have hargs : second.Takes ["x"] [.str "x"] :=
    (Procedure.coerceArgs_eq_ok_iff rfl).mp rfl
  obtain ⟨-, hfound, -⟩ := hwords "add" []
  have hnone : ∀ p ∈ [first, second], ¬p.Answers "add" 0 := by decide
  have hagrees := htakes _ hargs
  have hread : Reply.resultOfOctets (.ofString "\x7b\"result\":true\x7d") = .ok (.bool true) :=
    Reply.resultOfOctets_eq_ok_iff.mpr ⟨[("result", .bool true)], rfl, rfl, rfl⟩
  have hanswer : (s.perform carry (.call "add" [.str "x"])).result =
      some (.ok (.value (.bool true))) := by
    have hcall : s.request (.call "add" [.str "x"]) = .ok ⟨"add", [.str "x"], true⟩ := rfl
    obtain ⟨report, hcourse⟩ := perform_request carry hcall
    rw [hcourse, Option.map_some, verdict_of_expectsReply Operation.noConfusion rfl, callResult,
      hread]
    rfl
  exact ⟨hagrees, hagrees.result.trans hanswer, (hfound _ rfl).1 hnone⟩

end Session

end JsonRpc
