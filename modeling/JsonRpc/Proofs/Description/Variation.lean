import JsonRpc.Proofs.Description.Grammar

/-!
# Two descriptions that differ in what is optional

A description may be changed in everything that is optional: such members can
be added, removed or replaced, in the description, in its procedures and in
their parameters, and so can members that nobody knows.  The changed value is
read if the first one was.  A field is read differently only if its own member
is another one.
-/

namespace JsonRpc

open Json (Field)

/-- The members are the same, or lists that are related element by element. -/
inductive Json.ListVariant (R : Json → Json → Prop) : Option Json → Option Json → Prop where
  | same (member : Option Json) : ListVariant R member member
  | list {xs ys : List Json} (h : List.Forall₂ R xs ys) :
      ListVariant R (some (.arr xs)) (some (.arr ys))

namespace Json.ListVariant

variable {R : Json → Json → Prop} {m n : Option Json}

theorem symm (h : ListVariant R m n) (hR : ∀ {x y}, R x y → R y x) : ListVariant R n m := by
  cases h with
  | same => exact .same _
  | list h => exact .list (h.flip.imp fun _ _ hxy => hR hxy)

theorem forall₂ {xs ys : List Json} (h : ListVariant R (some (.arr xs)) (some (.arr ys)))
    (hrefl : ∀ x, R x x) : List.Forall₂ R xs ys := by
  cases h with
  | same => exact List.forall₂_same.2 fun x _ => hrefl x
  | list h => exact h

/-- What is kept by the relation holds of all elements of one list if it does of the other. -/
theorem forall_of_forall (h : ListVariant R m n) {P : Json → Prop}
    (hP : ∀ {x y}, R x y → P x → P y) (hall : ∃ xs, m = some (.arr xs) ∧ ∀ x ∈ xs, P x) :
    ∃ ys, n = some (.arr ys) ∧ ∀ y ∈ ys, P y := by
  cases h with
  | same => exact hall
  | @list xs ys h =>
      obtain ⟨_, ⟨⟩, hxs⟩ := hall
      refine ⟨ys, rfl, ?_⟩
      induction h with
      | nil => exact fun _ hy => absurd hy List.not_mem_nil
      | cons hxy _ ih =>
          obtain ⟨hfirst, hrest⟩ := List.forall_mem_cons.mp hxs
          exact List.forall_mem_cons.mpr ⟨hP hxy hfirst, ih hrest⟩

end Json.ListVariant

/-- Two lists of equal length that were read from two members agree place by place. -/
structure AgreeInPlace {α : Type} (Agree : Json → Json → α → α → Prop) (m n : Option Json)
    (ps qs : List α) : Prop where
  length : ps.length = qs.length
  each : ∀ {xs ys : List Json} {i : Nat} {x y : Json} {p q : α}, m = some (.arr xs) →
    n = some (.arr ys) → xs[i]? = some x → ys[i]? = some y → ps[i]? = some p → qs[i]? = some q →
      Agree x y p q

/-- What is read from related lists agrees if what is read from related elements does. -/
theorem agreeInPlace_of_forall₂ {α : Type} {R : Json → Json → Prop} {S : Json → α → Prop}
    {Agree : Json → Json → α → α → Prop} {m n : Option Json} {xs ys : List Json} {ps qs : List α}
    (h : Json.ListVariant R m n) (hrefl : ∀ x, R x x) (hm : m = some (.arr xs))
    (hn : n = some (.arr ys)) (hps : List.Forall₂ S xs ps) (hqs : List.Forall₂ S ys qs)
    (hagree : ∀ {x y p q}, R x y → S x p → S y q → Agree x y p q) :
    AgreeInPlace Agree m n ps qs := by
  subst hm hn
  have hxy := h.forall₂ hrefl
  constructor
  · rw [← hps.length_eq, ← hqs.length_eq, hxy.length_eq]
  · rintro _ _ i x y p q ⟨⟩ ⟨⟩ hx hy hp hq
    exact hagree (rel_of_getElem? hxy hx hy) (rel_of_getElem? hps hx hp) (rel_of_getElem? hqs hy hq)

/-! ## Parameters -/

namespace Parameter

/-- The two values are both objects, or both lists with at most the two fields. -/
inductive Variant : Json → Json → Prop where
  | same (v : Json) : Variant v v
  | object (ms ns : Members) : Variant (.obj ms) (.obj ns)
  | list {xs ys : List Json} (hxs : xs.length ≤ 2) (hys : ys.length ≤ 2) :
      Variant (.arr xs) (.arr ys)

structure Agree (v w : Json) (p q : Parameter) : Prop where
  name : v.field? "name" 0 = w.field? "name" 0 → p.name = q.name
  type : v.field? "type" 1 = w.field? "type" 1 → p.type = q.type

variable {v w : Json}

theorem Variant.symm (h : Variant v w) : Variant w v := by
  cases h with
  | same => exact .same v
  | object ms ns => exact .object ns ms
  | list hxs hys => exact .list hys hxs

theorem Variant.written (h : Variant v w) (hv : Written v) : Written w := by
  cases h with
  | same => exact hv
  | object ms ns => exact .object ns
  | list hxs hys => exact .list hys

theorem agree_stated (v w : Json) : Agree v w (stated v) (stated w) :=
  ⟨fun h => by simp only [stated, h], fun h => by simp only [stated, h]⟩

end Parameter

/-! ## Procedures -/

namespace Procedure

/-- The two values have the same name and variants of the same parameters, and both are objects or
both lists that are not too long. -/
inductive Variant : Json → Json → Prop where
  | same (v : Json) : Variant v v
  | object {ms ns : Members} (hname : ms.lookup "name" = ns.lookup "name")
      (hparams : Json.ListVariant Parameter.Variant (ms.lookup "params") (ns.lookup "params")) :
      Variant (.obj ms) (.obj ns)
  | list {xs ys : List Json} (hname : xs[0]? = ys[0]?)
      (hparams : Json.ListVariant Parameter.Variant xs[1]? ys[1]?) (hxs : xs.length ≤ 6)
      (hys : ys.length ≤ 6) : Variant (.arr xs) (.arr ys)

/-- The names are the same, and so are other fields with the same member. -/
structure Agree (v w : Json) (p q : Procedure) : Prop where
  name : p.name = q.name
  params : AgreeInPlace Parameter.Agree (v.field? "params" 1) (w.field? "params" 1) p.params
    q.params
  returns : v.field? "return" 2 = w.field? "return" 2 → p.returns = q.returns
  summary : v.field? "summary" 3 = w.field? "summary" 3 → p.summary = q.summary
  help : v.field? "help" 4 = w.field? "help" 4 → p.help = q.help
  idempotent : v.field? "idempotent" 5 = w.field? "idempotent" 5 → p.idempotent = q.idempotent

namespace Variant

variable {v w : Json}

theorem symm (h : Variant v w) : Variant w v := by
  cases h with
  | same => exact .same v
  | object hname hparams => exact .object hname.symm (hparams.symm Parameter.Variant.symm)
  | list hname hparams hxs hys =>
      exact .list hname.symm (hparams.symm Parameter.Variant.symm) hys hxs

theorem name_eq (h : Variant v w) : v.field? "name" 0 = w.field? "name" 0 := by
  cases h with
  | same => rfl
  | object hname => exact hname
  | list hname => exact hname

theorem params (h : Variant v w) :
    Json.ListVariant Parameter.Variant (v.field? "params" 1) (w.field? "params" 1) := by
  cases h with
  | same => exact .same _
  | object _ hparams => exact hparams
  | list _ hparams => exact hparams

theorem fits (h : Variant v w) (hv : record.Fits v) : record.Fits w := by
  cases h with
  | same => exact hv
  | object => trivial
  | list _ _ _ hys => exact hys

theorem written (h : Variant v w) (hv : Written v) : Written w := by
  rw [written_iff] at hv ⊢
  obtain ⟨hfits, hname, hparams⟩ := hv
  rw [h.name_eq] at hname
  exact ⟨h.fits hfits, hname, h.params.forall_of_forall Parameter.Variant.written hparams⟩

end Variant

theorem StatedBy.agree {v w : Json} {p q : Procedure} (hp : StatedBy v p) (hq : StatedBy w q)
    (h : Variant v w) : Agree v w p q where
  name := by
    have hname := h.name_eq
    rw [hp.name, hq.name] at hname
    injection hname with hname
    injection hname
  params := by
    obtain ⟨xs, hxs, hps⟩ := hp.params
    obtain ⟨ys, hys, hqs⟩ := hq.params
    have hstated : ∀ items : List Json,
        List.Forall₂ (fun x a => a = Parameter.stated x) items (items.map Parameter.stated) :=
      fun items => List.forall₂_map_right_iff.2 (List.forall₂_same.2 fun _ _ => rfl)
    rw [hps, hqs]
    refine agreeInPlace_of_forall₂ h.params .same hxs hys (hstated xs) (hstated ys) ?_
    rintro x y _ _ - rfl rfl
    exact Parameter.agree_stated x y
  returns hmember := by rw [hp.returns, hq.returns, hmember]
  summary hmember := by rw [hp.summary, hq.summary, hmember]
  help hmember := by rw [hp.help, hq.help, hmember]
  idempotent hmember := by
    rw [Bool.eq_iff_iff, hp.idempotent, hq.idempotent, hmember]

end Procedure

/-! ## Descriptions -/

namespace Description

inductive Variant : Json → Json → Prop where
  | same (v : Json) : Variant v v
  | object {ms ns : Members}
      (hprocs : Json.ListVariant Procedure.Variant (ms.lookup "procs") (ns.lookup "procs")) :
      Variant (.obj ms) (.obj ns)

/-- There are as many procedures, which agree with each other, and other fields with the same
member are the same. -/
structure Agree (v w : Json) (d e : Description) : Prop where
  sdversion : v.member? "sdversion" = w.member? "sdversion" → d.sdversion = e.sdversion
  name : v.member? "name" = w.member? "name" → d.name = e.name
  id : v.member? "id" = w.member? "id" → d.id = e.id
  version : v.member? "version" = w.member? "version" → d.version = e.version
  summary : v.member? "summary" = w.member? "summary" → d.summary = e.summary
  help : v.member? "help" = w.member? "help" → d.help = e.help
  address : v.member? "address" = w.member? "address" → d.address = e.address
  procs : AgreeInPlace Procedure.Agree (v.member? "procs") (w.member? "procs") d.procs e.procs

variable {v w : Json}

theorem Variant.symm (h : Variant v w) : Variant w v := by
  cases h with
  | same => exact .same v
  | object hprocs => exact .object (hprocs.symm Procedure.Variant.symm)

theorem Variant.written (h : Variant v w) (hv : Written v) : Written w := by
  cases h with
  | same => exact hv
  | object hprocs =>
      rw [written_obj_iff] at hv ⊢
      exact hprocs.forall_of_forall Procedure.Variant.written hv

theorem Variant.procs (h : Variant v w) :
    Json.ListVariant Procedure.Variant (v.member? "procs") (w.member? "procs") := by
  cases h with
  | same => exact .same _
  | object hprocs => exact hprocs

theorem StatedBy.agree {d e : Description} (hd : StatedBy v d) (he : StatedBy w e)
    (h : Variant v w) : Agree v w d e where
  sdversion hmember := by rw [hd.sdversion, he.sdversion, hmember]
  name hmember := by rw [hd.name, he.name, hmember]
  id hmember := by rw [hd.id, he.id, hmember]
  version hmember := by rw [hd.version, he.version, hmember]
  summary hmember := by rw [hd.summary, he.summary, hmember]
  help hmember := by rw [hd.help, he.help, hmember]
  address hmember := by rw [hd.address, he.address, hmember]
  procs := by
    obtain ⟨xs, hxs, hps⟩ := hd.procs
    obtain ⟨ys, hys, hqs⟩ := he.procs
    exact agreeInPlace_of_forall₂ h.procs .same hxs hys hps hqs fun hxy hp hq => hp.agree hq hxy

/-- A value is read as a description if it is written as one, and is malformed otherwise.  Each
field says what its own member says.  A variant is read if the value is, and a field in which they
differ has another member in the one than in the other. -/
theorem ofJson_grammar (hv : v.Proper) :
    ((∃ d, ofJson v = .ok d) ↔ Written v) ∧
      (¬Written v → ∃ detail, ofJson v = .error (.malformedDescription detail)) ∧
      (∀ d, ofJson v = .ok d → StatedBy v d) ∧
      ∀ w, w.Proper → Variant v w →
        ((∃ d, ofJson v = .ok d) ↔ ∃ e, ofJson w = .ok e) ∧
          ∀ d e, ofJson v = .ok d → ofJson w = .ok e → Agree v w d e := by
  refine ⟨exists_ofJson_iff hv, fun hnot => ?_, fun d hd => statedBy_of_ofJson hv hd, ?_⟩
  · exact malformed_of_not_ok (mt (exists_ofJson_iff hv).1 hnot)
  · intro w hw hvariant
    constructor
    · rw [exists_ofJson_iff hv, exists_ofJson_iff hw]
      exact ⟨hvariant.written, hvariant.symm.written⟩
    · intro d e hd he
      exact (statedBy_of_ofJson hv hd).agree (statedBy_of_ofJson hw he) hvariant

/-- A procedure that is given as a list, and one with a word for a truth value, before and after
all that is optional has been changed. -/
theorem ofJson_grammar_of_variant :
    ∃ v w : Json, v.Proper ∧ w.Proper ∧ Variant v w ∧ Written v ∧
      ∃ d e, ofJson v = .ok d ∧ ofJson w = .ok e ∧ StatedBy v d ∧ Agree v w d e := by
  let params : Json := .arr [.arr [.str "a", .str "num"], .obj [("unknown", .null)]]
  let params' : Json := .arr [.arr [.int 1], .obj [("name", .bool true)]]
  let log : Members := [("idempotent", .str "TRUE"), ("name", .str "log"), ("params", .arr [])]
  let log' : Members := [("name", .str "log"), ("params", .arr []), ("return", .str "nil")]
  let v : Members :=
    [("name", .int 7), ("procs", .arr [.arr [.str "add", params, .str "num"], .obj log])]
  let w : Members := [("procs", .arr [.arr [.str "add", params'], .obj log'])]
  have hkeys : ["idempotent", "name", "params", "procs", "return", "unknown"].Pairwise (· < ·) := by
    decide
  have hproper : ∀ ms : Members,
      (ms.map Prod.fst).Sublist ["idempotent", "name", "params", "procs", "return", "unknown"] →
      (∀ m ∈ ms, m.2.Proper) → (Json.obj ms).Proper :=
    fun ms hms => .obj (Members.ascending_of_sublist hkeys hms)
  have hv : (Json.obj v).Proper := by
    have hunknown := hproper [("unknown", .null)] (by decide) (by simp)
    have hlog := hproper log (by decide) (by simp [log])
    exact hproper v (by decide) (by simp only [v, params]; simp [hunknown, hlog])
  have hw : (Json.obj w).Proper := by
    have hname := hproper [("name", .bool true)] (by decide) (by simp)
    have hlog := hproper log' (by decide) (by simp [log'])
    exact hproper w (by decide) (by simp only [w, params']; simp [hname, hlog])
  have hparams : List.Forall₂ Parameter.Variant
      [.arr [.str "a", .str "num"], .obj [("unknown", .null)]]
      [.arr [.int 1], .obj [("name", .bool true)]] :=
    .cons (.list (by decide) (by decide)) (.cons (.object _ _) .nil)
  have hadd : Procedure.Variant (.arr [.str "add", params, .str "num"]) (.arr [.str "add", params']) :=
    .list rfl (.list hparams) (by simp) (by simp)
  have hvariant : Variant (.obj v) (.obj w) :=
    .object (.list (.cons hadd (.cons (.object rfl (.same _)) .nil)))
  have hwritten : Written (.obj v) := by
    have hadd : Procedure.Written (.arr [.str "add", params, .str "num"]) :=
      .list (by simp) (List.forall_mem_cons.mpr
        ⟨.list (by simp), List.forall_mem_singleton.mpr (.object _)⟩)
    have hlog : Procedure.Written (.obj log) := .object rfl rfl nofun
    exact .object rfl (List.forall_mem_cons.mpr ⟨hadd, List.forall_mem_singleton.mpr hlog⟩)
  obtain ⟨hread, -, hstated, hframe⟩ := ofJson_grammar hv
  obtain ⟨d, hd⟩ := hread.2 hwritten
  obtain ⟨hboth, hagree⟩ := hframe _ hw hvariant
  obtain ⟨e, he⟩ := hboth.1 ⟨d, hd⟩
  exact ⟨_, _, hv, hw, hvariant, hwritten, d, e, hd, he, hstated d hd, hagree d e hd he⟩

end Description

end JsonRpc
