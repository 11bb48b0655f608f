import JsonRpc.Envelope
import JsonRpc.Proofs.Json.Record

/-!
# Envelopes and their texts

The text of an envelope is read in two ways: as an envelope, and as the object
that it is.  Read as an envelope it gives the envelope back, but for a null id,
which counts as none.  Read as an object it still has its null id.  So although
two envelopes can read back alike, no two have the same text.

Both hold as long as the parameters leave nothing open and nest no deeper than
125 levels, two below what a reader allows.
-/

namespace JsonRpc

def Id.Fits : Id → Prop
  | .number n => Json.FitsSigned n
  | _ => True

namespace Id

variable {id : Id}

theorem Fits.exact (h : id.Fits) : id.toJson.Exact := by
  cases id with
  | string s => exact .str s
  | number n => exact .int (Json.FitsSigned.holds h)
  | null => exact .null

theorem Fits.ofJson_toJson (h : id.Fits) : ofJson id.toJson = .ok id := by
  cases id with
  | string s => rfl
  | number n => exact if_pos h
  | null => rfl

theorem toJson_injective : Function.Injective toJson := by
  intro a b h
  cases a <;> cases b <;> cases h <;> rfl

/-- The text of an id that is not null does not start like that of null. -/
theorem Fits.head (h : id.Fits) (hnull : id ≠ .null) :
    ∃ b tail, Utf8.encode id.toJson.write = b :: tail ∧ Json.Octet.isBlank b = false ∧
      b ≠ Json.Octet.ofChar 'n' := by
  cases id with
  | null => exact absurd rfl hnull
  | string s =>
      exact ⟨_, _, by rw [toJson, Json.write, Json.encode_quote], by decide, by decide⟩
  | number n =>
      obtain ⟨b, tail, hwrite, hblank, -, hscalar⟩ :=
        Json.scalar?_integer (Json.FitsSigned.holds h) Json.settles_nil
      refine ⟨b, tail, by rw [toJson, Json.write, hwrite], hblank, ?_⟩
      rintro rfl
      -- What starts with this letter is null, if it is anything.
      rw [Json.scalar?, if_pos rfl, List.append_nil] at hscalar
      cases hliteral : Json.literal ['u', 'l', 'l'] tail with
      | ok rest => rw [hliteral] at hscalar; cases hscalar
      | error snag => rw [hliteral] at hscalar; cases hscalar

/-- An id as an envelope reads it back: null is none. -/
def unlessNull (id : Id) : Option Id := if id = .null then none else some id

theorem Fits.reads (h : id.Fits) : (Json.Shape.optional shape).Reads id.toJson id.unlessNull := by
  by_cases hnull : id = .null
  · subst hnull
    exact Json.Shape.reads_optional_null shape
  · rw [unlessNull, if_neg hnull]
    have hshape : shape.Reads id.toJson id :=
      Json.Shape.reads_judged h.exact.readsBack h.ofJson_toJson
    exact Json.Shape.reads_optional hshape (h.head hnull)

end Id

namespace Envelope

inductive Made : Envelope → Prop where
  | call (method : String) (params : List Json) : Made (.call method params)
  | notification (method : String) (params : List Json) : Made (.notification method params)
  | tagged {e : Envelope} (h : Made e) (tagging : Bool) : Made (e.tagged tagging)
  | withId {e : Envelope} (h : Made e) {id : Id} (hid : id.Fits) : Made (e.withId id)
  | versioned {e : Envelope} (h : Made e) : Made e.versioned

/-- The parameters leave nothing open, and a reader can reach them. -/
def Readable (e : Envelope) : Prop := ∀ p ∈ e.params, p.Exact ∧ p.depth ≤ 125

def unlessNull (e : Envelope) : Envelope := { e with id := e.id.bind Id.unlessNull }

variable {e f : Envelope}

theorem Made.fits (h : Made e) : ∀ id, e.id = some id → id.Fits := by
  induction h with
  | call method params =>
      intro id hid
      cases hid
      exact trivial
  | notification method params =>
      intro id hid
      cases hid
  | tagged h tagging ih => cases tagging <;> exact ih
  | withId h hfits ih =>
      intro id hid
      cases hid
      exact hfits
  | versioned h ih => exact ih

theorem depth_members (e : Envelope) :
    (Json.obj e.members).depth = Json.depthItems e.params + 2 := by
  obtain ⟨method, params, id, version⟩ := e
  have hid : ∀ id : Id, id.toJson.depth = 0 := by
    intro id
    cases id <;> rfl
  cases id <;> cases version <;>
    simp [Json.depth, Json.depthMembers, members, hid]

theorem Readable.depth_le (h : e.Readable) : (Json.obj e.members).depth ≤ Json.maxDepth := by
  have hparams : Json.depthItems e.params ≤ 125 :=
    Json.depthItems_le_iff.mpr fun p hp => (h p hp).2
  rw [depth_members]
  exact Nat.add_le_add_right hparams 2

theorem nodup_members (e : Envelope) : (e.members.map Prod.fst).Nodup := by
  obtain ⟨method, params, id, version⟩ := e
  cases id <;> cases version <;> simp [members]

/-! ## Read as an envelope -/

theorem reads_members (hid : ∀ id, e.id = some id → id.Fits)
    (hparams : ∀ p ∈ e.params, p.ReadsBack) : shape.Reads (.obj e.members) e.unlessNull := by
  have hmethod := Json.Field.reads_of "method" true (fun method (e : Envelope) => { e with method })
    (Json.Shape.reads_string e.method)
  have hlist := Json.Field.reads_of "params" false (fun params (e : Envelope) => { e with params })
    (Json.Shape.reads_list_any hparams)
  have hoptional := fun id (h : e.id = some id) => Json.Field.reads_of "id" false
    (fun id (e : Envelope) => { e with id }) (hid id h).reads
  have hversion := fun (v : String) (_ : e.version = some v) => Json.Field.reads_of "jsonrpc" false
    (fun version (e : Envelope) => { e with version })
    (Json.Shape.reads_optional (Json.Shape.reads_string v)
      ⟨_, _, by rw [Json.write, Json.encode_quote], by decide, by decide⟩)
  have hputs : record.Puts Json.Shape.Reads e.members
      ([fun e' => { e' with method := e.method }, fun e' => { e' with params := e.params }] ++
        (e.id.map fun id e' => { e' with id := id.unlessNull }).toList ++
        (e.version.map fun v e' => { e' with version := some v }).toList) := by
    refine Json.Record.puts_append (Json.Record.puts_append ?_ ?_) ?_
    · exact .cons ⟨_, rfl, hmethod⟩ (.cons ⟨_, rfl, hlist⟩ .nil)
    · exact Json.Record.puts_option rfl hoptional
    · exact Json.Record.puts_option rfl hversion
  have hread := Json.Record.reads_of_puts hputs e.nodup_members rfl
  have hwhole : Json.Record.putAll record.blank
      ([fun e' => { e' with method := e.method }, fun e' => { e' with params := e.params }] ++
        (e.id.map fun id e' => { e' with id := id.unlessNull }).toList ++
        (e.version.map fun v e' => { e' with version := some v }).toList) = e.unlessNull := by
    obtain ⟨method, params, id, version⟩ := e
    cases id <;> cases version <;> rfl
  rw [hwhole] at hread
  exact hread

theorem parse_octets (he : Made e) (hparams : e.Readable) :
    shape.parse e.octets = .ok e.unlessNull :=
  (reads_members he.fits fun p hp => (hparams p hp).1.readsBack).parse hparams.depth_le

/-! ## Read as an object -/

theorem member?_toJson (e : Envelope) :
    e.toJson.member? "method" = some (.str e.method) ∧
      e.toJson.member? "params" = some (.arr e.params) ∧
      e.toJson.member? "id" = e.id.map Id.toJson ∧
      e.toJson.member? "jsonrpc" = e.version.map .str := by
  obtain ⟨method, params, id, version⟩ := e
  simp only [toJson, Json.member?_object]
  cases id <;> cases version <;> exact ⟨rfl, rfl, rfl, rfl⟩

/-- The object of an envelope, with its members in the order of their names. -/
theorem toJson_eq (e : Envelope) :
    e.toJson = .obj ((e.id.map fun id => ("id", id.toJson)).toList ++
      (e.version.map fun v => ("jsonrpc", Json.str v)).toList ++
      [("method", .str e.method), ("params", .arr e.params)]) := by
  obtain ⟨method, params, id, version⟩ := e
  have hparams : "method" < "params" := by decide
  have hid : "id" < "method" := by decide
  have hversion : "jsonrpc" < "method" := by decide
  have hversionId : "id" < "jsonrpc" := by decide
  have hbare : Members.ofList [("method", .str method), ("params", .arr params)] =
      [("method", .str method), ("params", .arr params)] :=
    Members.insert_cons_of_gt _ _ _ hparams
  cases id with
  | none =>
      cases version with
      | none => exact congrArg Json.obj hbare
      | some v =>
          change Json.obj (Members.insert "jsonrpc" (.str v)
            (Members.ofList [("method", .str method), ("params", .arr params)])) = _
          rw [hbare, Members.insert_cons_of_lt _ _ _ hversion]
          rfl
  | some id =>
      cases version with
      | none =>
          change Json.obj (Members.insert "id" id.toJson
            (Members.ofList [("method", .str method), ("params", .arr params)])) = _
          rw [hbare, Members.insert_cons_of_lt _ _ _ hid]
          rfl
      | some v =>
          change Json.obj (Members.insert "jsonrpc" (.str v) (Members.insert "id" id.toJson
            (Members.ofList [("method", .str method), ("params", .arr params)]))) = _
          rw [hbare, Members.insert_cons_of_lt _ _ _ hid,
            Members.insert_cons_of_gt _ _ _ hversionId,
            Members.insert_cons_of_lt _ _ _ hversion]
          rfl

theorem toJson_injective : Function.Injective toJson := by
  intro e f h
  obtain ⟨hmethod, hparams, hid, hversion⟩ := e.member?_toJson
  obtain ⟨hmethod', hparams', hid', hversion'⟩ := f.member?_toJson
  rw [h] at hmethod hparams hid hversion
  have hids : e.id = f.id :=
    Option.map_injective Id.toJson_injective (hid.symm.trans hid')
  have hversions : e.version = f.version :=
    Option.map_injective (fun _ _ => Json.str.inj) (hversion.symm.trans hversion')
  have hmethods := Json.str.inj (Option.some.inj (hmethod.symm.trans hmethod'))
  have hlists := Json.arr.inj (Option.some.inj (hparams.symm.trans hparams'))
  obtain ⟨method, params, id, version⟩ := e
  obtain ⟨method', params', id', version'⟩ := f
  cases hmethods
  cases hlists
  cases hids
  cases hversions
  rfl

theorem readsAs_members (he : Made e) (hparams : ∀ p ∈ e.params, p.Exact) :
    Json.ReadsAs (.obj e.members) e.toJson := by
  have hmembers : ∀ m ∈ e.members, m.2.ReadsBack := by
    intro m hm
    simp only [members, List.mem_append, List.mem_cons, List.not_mem_nil, or_false,
      Option.mem_toList, Option.map_eq_some_iff] at hm
    rcases hm with ((rfl | rfl) | ⟨id, hid, rfl⟩) | ⟨version, -, rfl⟩
    · exact Json.readsBack_str e.method
    · exact Json.readsIf_arr fun p hp => (hparams p hp).readsBack
    · exact (he.fits id hid).exact.readsBack
    · exact Json.readsBack_str version
  exact Json.readsIf_object hmembers

theorem parse_octets_object (he : Made e) (hparams : e.Readable) :
    Json.parse e.octets = .ok e.toJson :=
  (readsAs_members he fun p hp => (hparams p hp).1).parse_text.1 hparams.depth_le

/-! ## What a text says of its envelope -/

theorem id_unlessNull (e : Envelope) :
    e.unlessNull.id = if e.id = some .null then none else e.id := by
  obtain ⟨method, params, id, version⟩ := e
  cases id with
  | none => rfl
  | some id => cases id <;> rfl

theorem unlessNull_eq_iff : e.unlessNull = e ↔ e.id ≠ some .null := by
  constructor
  · intro h hnull
    have hid := e.id_unlessNull
    rw [h, hnull, if_pos rfl] at hid
    cases hid
  · intro hnull
    have hid := e.id_unlessNull
    rw [if_neg hnull] at hid
    calc
      e.unlessNull = { e with id := e.unlessNull.id } := rfl
      _ = e := by rw [hid]

theorem isNotification_unlessNull_iff :
    e.unlessNull.isNotification = e.isNotification ↔ e.id ≠ some .null := by
  have hid := e.id_unlessNull
  constructor
  · intro h hnull
    rw [if_pos hnull] at hid
    rw [isNotification, isNotification, hid, hnull] at h
    cases h
  · intro hnull
    rw [unlessNull_eq_iff.mpr hnull]

theorem text_injective (he : Made e) (hparams : e.Readable) (hf : Made f)
    (hparams' : f.Readable) (h : f.text = e.text) : f = e := by
  have hobject := parse_octets_object he hparams
  have hobject' := parse_octets_object hf hparams'
  rw [octets, h, ← octets] at hobject'
  exact toJson_injective (Except.ok.inj (hobject'.symm.trans hobject))

/-- The text of an envelope gives the envelope back, but for a null id, and it is the text of no
other envelope. -/
theorem text_determines (he : Made e) (hparams : e.Readable) :
    (∃ f, shape.parse e.octets = .ok f ∧ f.method = e.method ∧ f.params = e.params ∧
      f.version = e.version ∧ f.id = (if e.id = some .null then none else e.id) ∧
      (f = e ↔ e.id ≠ some .null) ∧
      (f.isNotification = e.isNotification ↔ e.id ≠ some .null)) ∧
    ∀ g, Made g → g.Readable → g.text = e.text → g = e := by
  constructor
  · exact ⟨e.unlessNull, parse_octets he hparams, rfl, rfl, rfl, e.id_unlessNull,
      unlessNull_eq_iff, isNotification_unlessNull_iff⟩
  · intro g hg hparams' htext
    exact text_injective he hparams hg hparams' htext

/-- A call reads back as the notification of the same method, and still their texts differ. -/
theorem text_determines_of_null_id :
    let params := [Json.int 2, .arr [.str "three"]]
    let call := (Envelope.call "add" params).versioned
    let notification := (Envelope.notification "add" params).versioned
    Made call ∧ call.Readable ∧ Made notification ∧ shape.parse call.octets = .ok notification ∧
      notification.text ≠ call.text := by
  intro params call notification
  have hcall : Made call := .versioned (.call "add" params)
  have hnotification : Made notification := .versioned (.notification "add" params)
  have hparams : ∀ p ∈ params, p.Exact ∧ p.depth ≤ 125 := by
    have hlist : (Json.arr [.str "three"]).Exact :=
      .arr (List.forall_mem_singleton.mpr (.str "three"))
    refine List.forall_mem_cons.mpr ⟨⟨.int (by decide), by decide⟩, ?_⟩
    exact List.forall_mem_singleton.mpr ⟨hlist, by simp [Json.depth, Json.depthItems]⟩
  obtain ⟨⟨f, hparse, hmethod, hlist, hversion, hid, -⟩, hunique⟩ :=
    text_determines hcall hparams
  have hf : f = notification := by
    obtain ⟨method, params, id, version⟩ := f
    cases hmethod
    cases hlist
    cases hversion
    cases hid
    rfl
  rw [hf] at hparse
  refine ⟨hcall, hparams, hnotification, hparse, fun htext => ?_⟩
  have hsame : notification = call := hunique notification hnotification hparams htext
  have hid : none = some Id.null := congrArg Envelope.id hsame
  cases hid

end Envelope

end JsonRpc
