import JsonRpc.Proofs.Envelope
import JsonRpc.Proofs.Json.Fields

/-!
# Which values are requests

A request has to name its method.  All else can be left out, but what is there
has to be right: the parameters are a list, the id is an id, the version is a
string.  An id or a version that is null counts as left out, so no request that
is read has a null id.

What is read says nothing that the value does not say, and is said by its own
value again: the requests that are read are exactly those that a value can say.
-/

namespace JsonRpc

open Json (Field)

namespace Id

inductive Written : Json → Prop where
  | string (s : String) : Written (.str s)
  | number {n : Int} (h : Json.FitsSigned n) : Written (.int n)
  | null : Written .null

variable {v : Json} {id : Id}

theorem ofJson_eq_ok_iff : ofJson v = .ok id ↔ id.Fits ∧ id.toJson = v := by
  constructor
  · intro h
    cases v with
    | str s =>
        cases h
        exact ⟨trivial, rfl⟩
    | int n =>
        rw [ofJson] at h
        split at h
        · next hfits =>
            cases h
            exact ⟨hfits, rfl⟩
        · cases h
    | null =>
        cases h
        exact ⟨trivial, rfl⟩
    | _ => cases h
  · rintro ⟨hfits, rfl⟩
    exact hfits.ofJson_toJson

theorem exists_ofJson_iff : (∃ id, ofJson v = .ok id) ↔ Written v := by
  simp only [ofJson_eq_ok_iff]
  constructor
  · rintro ⟨id, hfits, rfl⟩
    cases id with
    | string s => exact .string s
    | number n => exact .number hfits
    | null => exact .null
  · rintro (s | h | _)
    · exact ⟨string s, trivial, rfl⟩
    · exact ⟨number _, h, rfl⟩
    · exact ⟨null, trivial, rfl⟩

theorem written_toJson_iff : Written id.toJson ↔ id.Fits := by
  rw [← exists_ofJson_iff]
  constructor
  · rintro ⟨id', h⟩
    obtain ⟨hfits, hsame⟩ := ofJson_eq_ok_iff.1 h
    rwa [toJson_injective hsame] at hfits
  · exact fun h => ⟨id, h.ofJson_toJson⟩

theorem toJson_eq_null_iff : id.toJson = .null ↔ id = null := by
  cases id <;> simp [toJson]

theorem proper_toJson (id : Id) : id.toJson.Proper := by
  cases id <;> simp [toJson]

end Id

namespace Envelope

/-- The members that make a request: a method, and whatever else is there as it has to be. -/
structure Parts (method params id version : Option Json) : Prop where
  method : ∃ s, method = some (.str s)
  params : params = none ∨ ∃ xs, params = some (.arr xs)
  id : id = none ∨ ∃ v, id = some v ∧ Id.Written v
  version : version = none ∨ version = some .null ∨ ∃ s, version = some (.str s)

/-- A request is an object with such members, or a list of one to four of them in their order. -/
inductive Written : Json → Prop where
  | object {members : Members}
      (h : Parts (members.lookup "method") (members.lookup "params") (members.lookup "id")
        (members.lookup "jsonrpc")) : Written (.obj members)
  | list {items : List Json} (hleast : 1 ≤ items.length) (hmost : items.length ≤ 4)
      (h : Parts items[0]? items[1]? items[2]? items[3]?) : Written (.arr items)

structure StatedBy (v : Json) (e : Envelope) : Prop where
  method : v.field? "method" 0 = some (.str e.method)
  params : v.field? "params" 1 = some (.arr e.params) ∨
    v.field? "params" 1 = none ∧ e.params = []
  id : v.field? "id" 2 = e.id.map Id.toJson ∧ e.id ≠ some .null ∨
    v.field? "id" 2 = some .null ∧ e.id = none
  version : v.field? "jsonrpc" 3 = e.version.map .str ∨
    v.field? "jsonrpc" 3 = some .null ∧ e.version = none

variable {v : Json} {e f : Envelope}

theorem distinct : (record.fields.map Field.name).Nodup := by decide

/-! ## Which values are read -/

theorem written_iff : Written v ↔ record.Fits v ∧
    Parts (v.field? "method" 0) (v.field? "params" 1) (v.field? "id" 2)
      (v.field? "jsonrpc" 3) := by
  constructor
  · rintro (h | ⟨-, hmost, h⟩)
    · exact ⟨trivial, h⟩
    · exact ⟨hmost, h⟩
  · rintro ⟨hfits, h⟩
    cases v with
    | obj members => exact .object h
    | arr items =>
        obtain ⟨s, hs⟩ := h.method
        exact .list (List.getElem?_eq_some_iff.1 hs).1 hfits h
    | _ => cases hfits

theorem admits_params_iff {put : List Json → Envelope → Envelope} {member : Option Json} :
    (Field.of "params" false (.list .any) put).Admits member ↔
      member = none ∨ ∃ xs, member = some (.arr xs) := by
  cases member with
  | none => simp [Field.Admits, Field.of]
  | some v => simp [Field.Admits, Field.ofTree_of_eq_ok_iff, Json.Shape.ofTree_list_any_eq_ok_iff]

theorem admits_id_iff {put : Option Id → Envelope → Envelope} {member : Option Json} :
    (Field.of "id" false (.optional Id.shape) put).Admits member ↔
      member = none ∨ ∃ v, member = some v ∧ Id.Written v := by
  have hshape : ∀ v, (∃ id, Id.shape.ofTree v = .ok id) ↔ Id.Written v :=
    fun v => Id.exists_ofJson_iff
  rw [Field.admits_optional_iff]
  cases member with
  | none => simp
  | some v =>
      simp only [Option.some.injEq, forall_eq', hshape, reduceCtorEq, false_or, exists_eq_left']
      constructor
      · intro h
        by_cases hnull : v = .null
        · rw [hnull]
          exact .null
        · exact h hnull
      · exact fun h _ => h

theorem admits_version_iff {put : Option String → Envelope → Envelope} {member : Option Json} :
    (Field.of "jsonrpc" false (.optional .string) put).Admits member ↔
      member = none ∨ member = some .null ∨ ∃ s, member = some (.str s) := by
  rw [Field.admits_optional_iff]
  cases member with
  | none => simp
  | some v =>
      by_cases hnull : v = .null <;> simp [hnull, Json.Shape.ofTree_string_eq_ok_iff]

theorem exists_ofTree_iff (hv : v.Proper) : (∃ e, shape.ofTree v = .ok e) ↔ Written v := by
  rw [shape, Json.Record.shape, Json.Record.exists_ofTree_iff distinct hv, written_iff]
  refine and_congr_right fun _ => ?_
  simp only [record, Json.forall_getElem?_cons, Json.Field.name_of, Field.admits_string_iff,
    admits_params_iff, admits_id_iff, admits_version_iff, List.getElem?_nil, reduceCtorEq,
    false_implies, implies_true, and_true]
  constructor
  · rintro ⟨hmethod, hparams, hid, hversion⟩
    exact ⟨hmethod, hparams, hid, hversion⟩
  · rintro ⟨hmethod, hparams, hid, hversion⟩
    exact ⟨hmethod, hparams, hid, hversion⟩

/-! ## What is read -/

theorem statedBy_of_ofTree (hv : v.Proper) (h : shape.ofTree v = .ok e) : StatedBy v e where
  method := Json.Record.string_of_ofTree distinct hv h (i := 0) rfl Envelope.method
    (fun _ _ => rfl) (by simp [record])
  params := by
    obtain ⟨x, hmember, hread⟩ | ⟨hmember, -, hblank⟩ := Json.Record.own_of_ofTree distinct hv h
      (i := 1) rfl Envelope.params (fun _ _ => rfl) (by simp [record])
    · rw [Json.Shape.ofTree_list_any_eq_ok_iff.1 hread] at hmember
      exact .inl hmember
    · exact .inr ⟨hmember, hblank⟩
  id := by
    obtain ⟨x, hmember, hread⟩ | ⟨hmember, -, hblank⟩ := Json.Record.own_of_ofTree distinct hv h
      (i := 2) rfl Envelope.id (fun _ _ => rfl) (by simp [record])
    · obtain ⟨rfl, hnone⟩ | ⟨hnull, id, hid, hsome⟩ :=
        Json.Shape.ofTree_optional_eq_ok_iff.1 hread
      · exact .inr ⟨hmember, hnone⟩
      · obtain ⟨-, rfl⟩ := Id.ofJson_eq_ok_iff.1 hid
        rw [← hsome]
        exact .inl ⟨hmember, fun heq => hnull (Id.toJson_eq_null_iff.2 (Option.some.inj heq))⟩
    · rw [show e.id = none from hblank]
      exact .inl ⟨hmember, nofun⟩
  version := by
    obtain ⟨x, hmember, hread⟩ | ⟨hmember, -, hblank⟩ := Json.Record.own_of_ofTree distinct hv h
      (i := 3) rfl Envelope.version (fun _ _ => rfl) (by simp [record])
    · obtain ⟨rfl, hnone⟩ | ⟨-, s, hs, hsome⟩ := Json.Shape.ofTree_optional_eq_ok_iff.1 hread
      · exact .inr ⟨hmember, hnone⟩
      · rw [← hsome, hmember, Json.Shape.ofTree_string_eq_ok_iff.1 hs]
        exact .inl rfl
    · rw [show e.version = none from hblank]
      exact .inl hmember

theorem StatedBy.id_eq_none_iff (h : StatedBy v e) :
    e.id = none ↔ v.field? "id" 2 = none ∨ v.field? "id" 2 = some .null := by
  obtain ⟨hmember, hnull⟩ | ⟨hmember, hnone⟩ := h.id
  · rw [hmember]
    cases hid : e.id with
    | none => simp
    | some id =>
        rw [hid] at hnull
        simpa [Id.toJson_eq_null_iff] using hnull
  · simp [hmember, hnone]

theorem StatedBy.id_ne_null (h : StatedBy v e) : e.id ≠ some .null := by
  obtain ⟨-, hnull⟩ | ⟨-, hnone⟩ := h.id
  · exact hnull
  · rw [hnone]
    exact nofun

theorem map_str_ne_null (version : Option String) : version.map Json.str ≠ some .null := by
  cases version <;> simp

/-- A value says one request at most. -/
theorem StatedBy.unique (h : StatedBy v e) (h' : StatedBy v f) : e = f := by
  have hmethod : e.method = f.method :=
    Json.str.inj (Option.some.inj (h.method.symm.trans h'.method))
  have hparams : e.params = f.params := by
    obtain hlist | ⟨habsent, hnil⟩ := h.params <;> obtain hlist' | ⟨habsent', hnil'⟩ := h'.params
    · exact Json.arr.inj (Option.some.inj (hlist.symm.trans hlist'))
    · cases hlist.symm.trans habsent'
    · cases habsent.symm.trans hlist'
    · rw [hnil, hnil']
  have hid : e.id = f.id := by
    obtain ⟨hmember, -⟩ | ⟨hmember, hnone⟩ := h.id <;>
      obtain ⟨hmember', -⟩ | ⟨hmember', hnone'⟩ := h'.id
    · exact Option.map_injective Id.toJson_injective (hmember.symm.trans hmember')
    · rw [hnone', h.id_eq_none_iff]
      exact .inr hmember'
    · rw [hnone, eq_comm, h'.id_eq_none_iff]
      exact .inr hmember
    · rw [hnone, hnone']
  have hversion : e.version = f.version := by
    obtain hmember | ⟨hmember, hnone⟩ := h.version <;>
      obtain hmember' | ⟨hmember', hnone'⟩ := h'.version
    · exact Option.map_injective (fun _ _ => Json.str.inj) (hmember.symm.trans hmember')
    · exact absurd (hmember.symm.trans hmember') (map_str_ne_null e.version)
    · exact absurd (hmember'.symm.trans hmember) (map_str_ne_null f.version)
    · rw [hnone, hnone']
  obtain ⟨method, params, id, version⟩ := e
  obtain ⟨method', params', id', version'⟩ := f
  cases hmethod
  cases hparams
  cases hid
  cases hversion
  rfl

/-- Reading gives what the value says. -/
theorem ofTree_eq_ok_iff (hv : v.Proper) :
    shape.ofTree v = .ok e ↔ Written v ∧ StatedBy v e := by
  constructor
  · exact fun h => ⟨(exists_ofTree_iff hv).1 ⟨e, h⟩, statedBy_of_ofTree hv h⟩
  · rintro ⟨hwritten, hstated⟩
    obtain ⟨f, hf⟩ := (exists_ofTree_iff hv).2 hwritten
    rw [hf, (statedBy_of_ofTree hv hf).unique hstated]

/-! ## What is written again -/

theorem statedBy_toJson (hid : e.id ≠ some .null) : StatedBy e.toJson e := by
  obtain ⟨hmethod, hparams, hmember, hversion⟩ := e.member?_toJson
  exact ⟨hmethod, .inl hparams, .inl ⟨hmember, hid⟩, .inl hversion⟩

theorem written_toJson (hid : ∀ id, e.id = some id → id.Fits) : Written e.toJson := by
  obtain ⟨hmethod, hparams, hmember, hversion⟩ := e.member?_toJson
  refine .object ⟨⟨_, hmethod⟩, .inr ⟨_, hparams⟩, ?_, ?_⟩
  · cases h : e.id with
    | none => exact .inl (hmember.trans (by rw [h]; rfl))
    | some id =>
        have hwritten : Id.Written id.toJson := Id.written_toJson_iff.2 (hid id h)
        exact .inr ⟨id.toJson, hmember.trans (by rw [h]; rfl), hwritten⟩
  · cases h : e.version with
    | none => exact .inl (hversion.trans (by rw [h]; rfl))
    | some s => exact .inr (.inr ⟨s, hversion.trans (by rw [h]; rfl)⟩)

theorem proper_toJson (h : ∀ p ∈ e.params, p.Proper) : e.toJson.Proper := by
  apply Json.Proper.object
  intro m hm
  simp only [members, List.mem_append, List.mem_cons, List.not_mem_nil, or_false,
    Option.mem_toList, Option.map_eq_some_iff] at hm
  rcases hm with ((rfl | rfl) | ⟨id, -, rfl⟩) | ⟨version, -, rfl⟩
  · exact .str _
  · exact .arr h
  · exact id.proper_toJson
  · exact .str _

theorem StatedBy.proper_params (h : StatedBy v e) (hv : v.Proper) : ∀ p ∈ e.params, p.Proper := by
  obtain hlist | ⟨-, hnil⟩ := h.params
  · exact Json.proper_arr_iff.1 (hv.field? hlist)
  · rw [hnil]
    exact nofun

/-- The id of a request that is read is one that can be written. -/
theorem StatedBy.fits (h : StatedBy v e) (hwritten : Written v) :
    ∀ id, e.id = some id → id.Fits := by
  intro id hid
  obtain ⟨-, hparts⟩ := written_iff.1 hwritten
  obtain ⟨hmember, -⟩ | ⟨-, hnone⟩ := h.id
  · rw [hid, Option.map_some] at hmember
    obtain habsent | ⟨x, hx, hwritten⟩ := hparts.id
    · cases hmember.symm.trans habsent
    · rw [Option.some.inj (hx.symm.trans hmember)] at hwritten
      exact Id.written_toJson_iff.1 hwritten
  · rw [hnone] at hid
    cases hid

/-- A request that was read is read again from its value. -/
theorem ofTree_toJson (hv : v.Proper) (h : shape.ofTree v = .ok e) :
    shape.ofTree e.toJson = .ok e := by
  obtain ⟨hwritten, hstated⟩ := (ofTree_eq_ok_iff hv).1 h
  refine (ofTree_eq_ok_iff (proper_toJson (hstated.proper_params hv))).2 ⟨?_, ?_⟩
  · exact written_toJson (hstated.fits hwritten)
  · exact statedBy_toJson hstated.id_ne_null

theorem parse_octets_of_ofTree (hv : v.Proper) (h : shape.ofTree v = .ok e) (hparams : e.Readable) :
    shape.parse e.octets = .ok e := by
  obtain ⟨hwritten, hstated⟩ := (ofTree_eq_ok_iff hv).1 h
  have hreads := reads_members (hstated.fits hwritten) fun p hp => (hparams p hp).1.readsBack
  rw [unlessNull_eq_iff.2 hstated.id_ne_null] at hreads
  exact hreads.parse hparams.depth_le

/-- A value is read as a request if it is written as one.  What is read is what the value says, and
it is read again from its own value, and from its text as far as texts leave nothing open.  So
reading what was read and written changes nothing.  An id is read from the values that ids have. -/
theorem ofTree_grammar (hv : v.Proper) :
    ((∃ e, shape.ofTree v = .ok e) ↔ Written v) ∧
    (∀ e, shape.ofTree v = .ok e →
      StatedBy v e ∧
      (e.id = none ↔ v.field? "id" 2 = none ∨ v.field? "id" 2 = some .null) ∧
      e.id ≠ some .null ∧
      shape.ofTree e.toJson = .ok e ∧
      (e.Readable → shape.parse e.octets = .ok e)) ∧
    (shape.ofTree v >>= fun e => shape.ofTree e.toJson) = shape.ofTree v ∧
    ((∃ id, Id.shape.ofTree v = .ok id) ↔ Id.Written v) ∧
    ∀ id, Id.shape.ofTree v = .ok id → id.toJson = v := by
  refine ⟨exists_ofTree_iff hv, ?_, ?_, Id.exists_ofJson_iff, ?_⟩
  · intro e h
    have hstated := statedBy_of_ofTree hv h
    exact ⟨hstated, hstated.id_eq_none_iff, hstated.id_ne_null, ofTree_toJson hv h,
      parse_octets_of_ofTree hv h⟩
  · cases h : shape.ofTree v with
    | error fault => rfl
    | ok e => exact ofTree_toJson hv h
  · intro id h
    exact (Id.ofJson_eq_ok_iff.1 h).2

/-- A list that stops before its version, with the least number that an id can be and with a float
among its parameters, and an object with a null id and a member that nobody knows. -/
theorem ofTree_grammar_of_null_id :
    let v : Json := .arr [.str "add", .arr [.float 1.5], .int (-0x8000000000000000)]
    let w : Json := .obj [("id", .null), ("method", .str "log"), ("more", v),
      ("params", .arr [.str "two"])]
    let call : Envelope := ⟨"add", [.float 1.5], some (.number (-0x8000000000000000)), none⟩
    let notification : Envelope := .notification "log" [.str "two"]
    v.Proper ∧ shape.ofTree v = .ok call ∧ shape.ofTree call.toJson = .ok call ∧
      w.Proper ∧ shape.ofTree w = .ok notification ∧ notification.Readable ∧
      shape.ofTree notification.toJson = .ok notification ∧
      shape.parse notification.octets = .ok notification := by
  intro v w call notification
  have hv : v.Proper := by simp [v]
  have hkeys : ["id", "method", "more", "params"].Pairwise (· < ·) := by decide
  have hw : w.Proper := .obj (Members.ascending_of_sublist hkeys (.refl _)) (by simp [v])
  have hreadable : notification.Readable :=
    List.forall_mem_singleton.mpr ⟨.str "two", Nat.zero_le 125⟩
  have hcall : shape.ofTree v = .ok call := rfl
  have hnotification : shape.ofTree w = .ok notification := rfl
  obtain ⟨-, hread, -⟩ := ofTree_grammar hv
  obtain ⟨-, -, -, hagain, -⟩ := hread call hcall
  obtain ⟨-, hread', -⟩ := ofTree_grammar hw
  obtain ⟨-, -, -, hagain', htext⟩ := hread' notification hnotification
  exact ⟨hv, hcall, hagain, hw, hnotification, hreadable, hagain', htext hreadable⟩

end Envelope

end JsonRpc
