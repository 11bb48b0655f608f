import JsonRpc.Description
import JsonRpc.Proofs.Json.Fields

/-!
# Which values are descriptions

A description is an object with a list of procedures, and a procedure has a
name and a list of parameters.  Nothing else has to be there, and nothing else
can be wrong: what a value must be like to be read is said by three small
grammars, which do not mention the optional members.

What is read is said field by field, each time from the member of that field
alone.  So two values that differ only in optional members, or in members that
nobody knows, are both read or both refused, and what is read differs only in
the fields whose own members differ.
-/

namespace JsonRpc

open Json (Field)

/-- The text that an optional member stands for: a string, or a number or truth value by its JSON
text. -/
def statedText : Option Json → Option String
  | some (.str s) => some s
  | some v => if v.kind = "number" ∨ v.kind = "boolean" then some v.text else none
  | none => none

def statedTag : Option Json → String
  | some (.str s) => s
  | _ => "any"

/-- The member is true, or the word for it in letters of any case. -/
def StatedTrue (member : Option Json) : Prop :=
  member = some (.bool true) ∨
    ∃ s, member = some (.str s) ∧ s.toList.map Char.toLower = ['t', 'r', 'u', 'e']

theorem elim_lenientText (member : Option Json) :
    member.elim none lenientText = statedText member := by
  cases member with
  | none => rfl
  | some v => cases v <;> rfl

theorem elim_lenientTag (member : Option Json) : member.elim "any" lenientTag = statedTag member := by
  cases member with
  | none => rfl
  | some v => cases v <;> rfl

theorem elim_lenientFlag (member : Option Json) :
    member.elim false lenientFlag = true ↔ StatedTrue member := by
  cases member with
  | none => simp [StatedTrue]
  | some v => cases v <;> simp [StatedTrue, lenientFlag, sameWord]

/-! ## Parameters -/

namespace Parameter

/-- A parameter is an object, or a list with at most its two fields. -/
inductive Written : Json → Prop where
  | object (members : Members) : Written (.obj members)
  | list {items : List Json} (hlength : items.length ≤ 2) : Written (.arr items)

def stated (v : Json) : Parameter where
  name := (statedText (v.field? "name" 0)).getD ""
  type := statedTag (v.field? "type" 1)

def statedReturn : Option Json → Option Parameter
  | some (.obj members) => some (stated (.obj members))
  | some (.str tag) => some ⟨"", tag⟩
  | _ => none

variable {v : Json} {p : Parameter}

theorem distinct : (record.fields.map Field.name).Nodup := by decide

theorem fits_iff : record.Fits v ↔ Written v := by
  cases v with
  | obj members => exact ⟨fun _ => .object members, fun _ => trivial⟩
  | arr items =>
      constructor
      · exact .list
      · rintro ⟨⟩
        assumption
  | _ => exact ⟨nofun, nofun⟩

theorem exists_ofTree_iff (hv : v.Proper) : (∃ p, record.ofTree v = .ok p) ↔ Written v := by
  rw [Json.Record.exists_ofTree_iff distinct hv, fits_iff]
  simp [record, Json.forall_getElem?_cons, Field.admits_view]

theorem eq_stated (hv : v.Proper) (h : record.ofTree v = .ok p) : p = stated v := by
  have hname : p.name = (statedText (v.field? "name" 0)).getD "" := by
    rw [Json.Record.view_of_ofTree distinct hv h (i := 0) rfl name (fun _ _ => rfl)
      (by simp [record]), ← elim_lenientText]
    cases v.field? "name" 0 <;> rfl
  have htype : p.type = statedTag (v.field? "type" 1) := by
    rw [← elim_lenientTag]
    exact Json.Record.view_of_ofTree distinct hv h (i := 1) rfl type (fun _ _ => rfl)
      (by simp [record])
  rw [stated, ← hname, ← htype]

/-- An object is always read as a parameter. -/
theorem elim_ofReturn {member : Option Json} (hmember : ∀ v, member = some v → v.Proper) :
    member.elim none ofReturn = statedReturn member := by
  cases member with
  | none => rfl
  | some v =>
      cases v with
      | obj members =>
          have hv := hmember _ rfl
          obtain ⟨p, hp⟩ := (exists_ofTree_iff hv).2 (.object members)
          rw [Option.elim_some, ofReturn, hp, eq_stated hv hp]
          rfl
      | _ => rfl

end Parameter

/-! ## Procedures -/

namespace Procedure

/-- A procedure is an object with a name and parameters, or a list that starts with them and has no
more than the six fields. -/
inductive Written : Json → Prop where
  | object {members : Members} {name : String} {params : List Json}
      (hname : members.lookup "name" = some (.str name))
      (hparams : members.lookup "params" = some (.arr params))
      (h : ∀ x ∈ params, Parameter.Written x) : Written (.obj members)
  | list {name : String} {params rest : List Json} (hlength : rest.length ≤ 4)
      (h : ∀ x ∈ params, Parameter.Written x) : Written (.arr (.str name :: .arr params :: rest))

structure StatedBy (v : Json) (p : Procedure) : Prop where
  name : v.field? "name" 0 = some (.str p.name)
  params : ∃ items, v.field? "params" 1 = some (.arr items) ∧
    p.params = items.map Parameter.stated
  returns : p.returns = Parameter.statedReturn (v.field? "return" 2)
  summary : p.summary = statedText (v.field? "summary" 3)
  help : p.help = statedText (v.field? "help" 4)
  idempotent : p.idempotent = true ↔ StatedTrue (v.field? "idempotent" 5)

variable {v : Json} {p : Procedure}

theorem distinct : (record.fields.map Field.name).Nodup := by decide

theorem written_iff : Written v ↔ record.Fits v ∧ (∃ s, v.field? "name" 0 = some (.str s)) ∧
    ∃ xs, v.field? "params" 1 = some (.arr xs) ∧ ∀ x ∈ xs, Parameter.Written x := by
  constructor
  · rintro (⟨hname, hparams, h⟩ | ⟨hlength, h⟩)
    · exact ⟨trivial, ⟨_, hname⟩, _, hparams, h⟩
    · exact ⟨Nat.add_le_add_right hlength 2, ⟨_, rfl⟩, _, rfl, h⟩
  · rintro ⟨hfits, ⟨s, hname⟩, xs, hparams, hxs⟩
    cases v with
    | obj members => exact .object hname hparams hxs
    | arr items =>
        match items, hname, hparams with
        | _ :: _ :: rest, rfl, rfl =>
            have hlength : rest.length + 2 ≤ 4 + 2 := hfits
            exact .list (Nat.le_of_add_le_add_right hlength) hxs
    | _ => cases hfits

theorem exists_ofTree_iff (hv : v.Proper) : (∃ p, record.ofTree v = .ok p) ↔ Written v := by
  rw [Json.Record.exists_ofTree_iff distinct hv, written_iff,
    ← hv.listed_congr "params" 1 Parameter.exists_ofTree_iff]
  simp [record, Json.forall_getElem?_cons, Field.admits_view, Field.admits_string_iff,
    Field.admits_list_iff, Parameter.shape, Json.Record.shape]

theorem statedBy_of_ofTree (hv : v.Proper) (h : record.ofTree v = .ok p) : StatedBy v p where
  name := Json.Record.string_of_ofTree distinct hv h (i := 0) rfl name (fun _ _ => rfl)
    (by simp [record])
  params := by
    obtain ⟨items, hmember, hproper, hitems⟩ := Json.Record.list_of_ofTree distinct hv h (i := 1)
      rfl params (fun _ _ => rfl) (by simp [record])
    have hstated : List.Forall₂ (fun x q => Parameter.stated x = q) items p.params :=
      forall₂_of_mem hitems fun x hx q hq => (Parameter.eq_stated (hproper x hx) hq).symm
    rw [← List.forall₂_map_left_iff, List.forall₂_eq_eq_eq] at hstated
    exact ⟨items, hmember, hstated.symm⟩
  returns := by
    rw [← Parameter.elim_ofReturn fun x hx => hv.field? hx]
    exact Json.Record.view_of_ofTree distinct hv h (i := 2) rfl returns (fun _ _ => rfl)
      (by simp [record])
  summary := by
    rw [← elim_lenientText]
    exact Json.Record.view_of_ofTree distinct hv h (i := 3) rfl summary (fun _ _ => rfl)
      (by simp [record])
  help := by
    rw [← elim_lenientText]
    exact Json.Record.view_of_ofTree distinct hv h (i := 4) rfl help (fun _ _ => rfl)
      (by simp [record])
  idempotent := by
    rw [← elim_lenientFlag, Json.Record.view_of_ofTree distinct hv h (i := 5) rfl idempotent
      (fun _ _ => rfl) (by simp [record])]
    rfl

end Procedure

/-! ## Descriptions -/

namespace Description

inductive Written : Json → Prop where
  | object {members : Members} {procs : List Json}
      (hprocs : members.lookup "procs" = some (.arr procs))
      (h : ∀ x ∈ procs, Procedure.Written x) : Written (.obj members)

structure StatedBy (v : Json) (d : Description) : Prop where
  sdversion : d.sdversion = statedText (v.member? "sdversion")
  name : d.name = statedText (v.member? "name")
  id : d.id = statedText (v.member? "id")
  version : d.version = statedText (v.member? "version")
  summary : d.summary = statedText (v.member? "summary")
  help : d.help = statedText (v.member? "help")
  address : d.address = statedText (v.member? "address")
  procs : ∃ items, v.member? "procs" = some (.arr items) ∧
    List.Forall₂ Procedure.StatedBy items d.procs

variable {v : Json} {d : Description} {members : Members}

theorem distinct : (record.fields.map Field.name).Nodup := by decide

theorem written_obj_iff : Written (.obj members) ↔
    ∃ xs, members.lookup "procs" = some (.arr xs) ∧ ∀ x ∈ xs, Procedure.Written x := by
  constructor
  · rintro ⟨hprocs, hxs⟩
    exact ⟨_, hprocs, hxs⟩
  · rintro ⟨xs, hprocs, hxs⟩
    exact .object hprocs hxs

theorem exists_ofTree_iff (hv : (Json.obj members).Proper) :
    (∃ d, record.ofTree (.obj members) = .ok d) ↔ Written (.obj members) := by
  have hprocs : (∃ xs, members.lookup "procs" = some (.arr xs) ∧
      ∀ x ∈ xs, ∃ p, Procedure.record.ofTree x = .ok p) ↔
        ∃ xs, members.lookup "procs" = some (.arr xs) ∧ ∀ x ∈ xs, Procedure.Written x :=
    hv.listed_congr "procs" 7 Procedure.exists_ofTree_iff
  rw [Json.Record.exists_ofTree_iff distinct hv, written_obj_iff, ← hprocs]
  simp [record, Json.forall_getElem?_cons, Field.admits_view, Field.admits_list_iff,
    Json.Record.Fits, Json.field?, Procedure.shape, Json.Record.shape]

theorem text_of_ofTree (hv : (Json.obj members).Proper)
    (h : record.ofTree (.obj members) = .ok d) (name : String)
    (get : Description → Option String) {i : Nat} {put : Option String → Description → Description}
    (hfield : record.fields[i]? = some (.of name false (.view lenientText) put))
    (hput : ∀ x s, get (put x s) = x) (hblank : get record.blank = none)
    (hkeeps : ∀ g ∈ record.fields, g.name ≠ name → g.Keeps get) :
    get d = statedText (Json.member? name (.obj members)) := by
  rw [← elim_lenientText, ← hblank]
  exact Json.Record.view_of_ofTree distinct hv h hfield get hput hkeeps

theorem statedBy_of_ofTree (hv : (Json.obj members).Proper)
    (h : record.ofTree (.obj members) = .ok d) : StatedBy (.obj members) d where
  sdversion := text_of_ofTree hv h "sdversion" sdversion (i := 0) rfl (fun _ _ => rfl) rfl (by simp [record])
  name := text_of_ofTree hv h "name" name (i := 1) rfl (fun _ _ => rfl) rfl (by simp [record])
  id := text_of_ofTree hv h "id" id (i := 2) rfl (fun _ _ => rfl) rfl (by simp [record])
  version := text_of_ofTree hv h "version" version (i := 3) rfl (fun _ _ => rfl) rfl (by simp [record])
  summary := text_of_ofTree hv h "summary" summary (i := 4) rfl (fun _ _ => rfl) rfl (by simp [record])
  help := text_of_ofTree hv h "help" help (i := 5) rfl (fun _ _ => rfl) rfl (by simp [record])
  address := text_of_ofTree hv h "address" address (i := 6) rfl (fun _ _ => rfl) rfl (by simp [record])
  procs := by
    obtain ⟨items, hmember, hproper, hitems⟩ := Json.Record.list_of_ofTree distinct hv h (i := 7)
      rfl procs (fun _ _ => rfl) (by simp [record])
    exact ⟨items, hmember, forall₂_of_mem hitems fun x hx q hq =>
      Procedure.statedBy_of_ofTree (hproper x hx) hq⟩

theorem ofJson_obj_eq_ok_iff :
    ofJson (.obj members) = .ok d ↔ record.ofTree (.obj members) = .ok d := by
  rw [ofJson, Json.isObject]
  cases record.ofTree (.obj members) <;> simp

theorem ofJson_of_not_isObject (h : v.isObject = false) :
    ofJson v = .error (.malformedDescription ("expected an object, got " ++ v.kind)) := by
  rw [ofJson, h]
  rfl

theorem malformed_of_not_ok (h : ¬∃ d, ofJson v = .ok d) :
    ∃ detail, ofJson v = .error (.malformedDescription detail) := by
  unfold ofJson at h ⊢
  split
  · exact ⟨_, rfl⟩
  · rename_i hobject
    rw [if_neg hobject] at h
    cases hread : record.ofTree v with
    | ok d => exact absurd ⟨d, by rw [hread]⟩ h
    | error fault => exact ⟨_, rfl⟩

theorem exists_ofJson_iff (hv : v.Proper) : (∃ d, ofJson v = .ok d) ↔ Written v := by
  cases v with
  | obj members => simp only [ofJson_obj_eq_ok_iff, exists_ofTree_iff hv]
  | _ =>
      refine ⟨?_, nofun⟩
      rintro ⟨d, hd⟩
      rw [ofJson_of_not_isObject rfl] at hd
      cases hd

theorem statedBy_of_ofJson (hv : v.Proper) (h : ofJson v = .ok d) : StatedBy v d := by
  cases v with
  | obj members => exact statedBy_of_ofTree hv (ofJson_obj_eq_ok_iff.1 h)
  | _ =>
      rw [ofJson_of_not_isObject rfl] at h
      cases h

end Description

end JsonRpc
