import Mathlib.Data.List.Nodup
import JsonRpc.Proofs.Json.Proper
import JsonRpc.Proofs.Json.Record

/-!
# What the fields of a record are read from

A record is read from an object by the names of its fields, or from a list by
their order.  Either way a field has at most one member of its own.  Whether a
value is read at all is a question for each field and its own member, and so
is what a field holds afterwards, as long as no other field writes to it.
-/

namespace JsonRpc.Json

/-- The member of a field: the one with its name in an object, the one in its place in a list. -/
def field? (key : String) (position : Nat) : Json → Option Json
  | .obj members => members.lookup key
  | .arr items => items[position]?
  | _ => none

theorem Proper.field? {v x : Json} {key : String} {position : Nat} (h : v.Proper)
    (hmember : v.field? key position = some x) : x.Proper := by
  cases h with
  | arr hitems => exact hitems x (List.mem_of_getElem? hmember)
  | obj hkeys hmembers => exact hmembers _ ((Members.lookup_eq_some_iff hkeys).1 hmember)
  | _ => cases hmember

/-- A condition on the elements of a member has to be known for proper values only. -/
theorem Proper.listed_congr {v : Json} {P Q : Json → Prop} (h : v.Proper) (key : String)
    (position : Nat) (hPQ : ∀ {x : Json}, x.Proper → (P x ↔ Q x)) :
    (∃ xs, v.field? key position = some (.arr xs) ∧ ∀ x ∈ xs, P x) ↔
      ∃ xs, v.field? key position = some (.arr xs) ∧ ∀ x ∈ xs, Q x := by
  refine exists_congr fun xs => and_congr_right fun hmember => forall₂_congr fun x hx => ?_
  exact hPQ (proper_arr_iff.1 (h.field? hmember) x hx)

variable {σ α β : Type}

namespace Shape

theorem ofTree_string_eq_ok_iff {v : Json} {s : String} :
    string.ofTree v = .ok s ↔ v = .str s := by
  cases v <;> simp [string]

theorem ofTree_integer_eq_ok_iff {name : String} {fits : Int → Bool} {v : Json} {n : Int} :
    (integer name fits).ofTree v = .ok n ↔ v = .int n ∧ fits n = true := by
  cases v with
  | int m =>
      simp only [integer, Json.int.injEq]
      split
      · rename_i hfits
        simp only [Except.ok.injEq]
        exact ⟨fun h => ⟨h, h ▸ hfits⟩, And.left⟩
      · rename_i hfits
        refine ⟨nofun, ?_⟩
        rintro ⟨rfl, h⟩
        exact absurd h hfits
  | _ => simp [integer]

theorem ofTree_list_eq_ok_iff {shape : Shape α} {v : Json} {xs : List α} :
    (list shape).ofTree v = .ok xs ↔
      ∃ items, v = .arr items ∧ List.Forall₂ (fun x y => shape.ofTree x = .ok y) items xs := by
  cases v <;> simp [list, mapM_eq_ok_iff]

theorem ofTree_list_any_eq_ok_iff {v : Json} {xs : List Json} :
    (list any).ofTree v = .ok xs ↔ v = .arr xs := by
  have hsame : (fun x y => any.ofTree x = .ok y) = (Eq : Json → Json → Prop) := by
    funext x y
    simp [any, view]
  simp only [ofTree_list_eq_ok_iff, hsame, List.forall₂_eq_eq_eq, exists_eq_right]

theorem ofTree_optional_eq_ok_iff {shape : Shape α} {v : Json} {y : Option α} :
    shape.optional.ofTree v = .ok y ↔
      v = .null ∧ y = none ∨ v ≠ .null ∧ ∃ x, shape.ofTree v = .ok x ∧ some x = y := by
  cases v with
  | null => simp [optional, eq_comm]
  | _ => simp [optional, map_eq_ok_iff]

end Shape

theorem forall_getElem?_cons {P : Nat → α → Prop} {y : α} {xs : List α} :
    (∀ i x, (y :: xs)[i]? = some x → P i x) ↔ P 0 y ∧ ∀ i x, xs[i]? = some x → P (i + 1) x := by
  constructor
  · exact fun h => ⟨h 0 y rfl, fun i x hx => h (i + 1) x hx⟩
  · rintro ⟨hfirst, hrest⟩ i x hx
    cases i with
    | zero =>
        cases hx
        exact hfirst
    | succ i => exact hrest i x hx

namespace Field

/-- The field can be read from its member, or need not be there. -/
def Admits (f : Field σ) : Option Json → Prop
  | some v => ∃ put, f.shape.ofTree v = .ok put
  | none => f.required = false

/-- The field does not write to what `get` gets. -/
def Keeps (f : Field σ) (get : σ → β) : Prop :=
  ∀ {v put}, f.shape.ofTree v = .ok put → ∀ s, get (put s) = get s

variable {name : String} {required : Bool} {shape : Shape α} {put : α → σ → σ}

@[simp] theorem name_of (name : String) (required : Bool) (shape : Shape α) (put : α → σ → σ) :
    (Field.of name required shape put).name = name := rfl

theorem ofTree_of_eq_ok_iff {v : Json} {change : σ → σ} :
    (Field.of name required shape put).shape.ofTree v = .ok change ↔
      ∃ x, shape.ofTree v = .ok x ∧ put x = change :=
  map_eq_ok_iff

theorem admits_view (name : String) (g : Json → α) (put : α → σ → σ) (member : Option Json) :
    (Field.of name false (.view g) put).Admits member := by
  cases member with
  | none => rfl
  | some v => exact ⟨put (g v), rfl⟩

theorem admits_optional_iff {put : Option α → σ → σ} {member : Option Json} :
    (Field.of name false (.optional shape) put).Admits member ↔
      ∀ x, member = some x → x ≠ .null → ∃ y, shape.ofTree x = .ok y := by
  cases member with
  | none => simp [Admits, Field.of]
  | some v =>
      simp only [Admits, ofTree_of_eq_ok_iff, Shape.ofTree_optional_eq_ok_iff]
      by_cases hnull : v = .null <;> simp [hnull]

theorem admits_string_iff {put : String → σ → σ} {member : Option Json} :
    (Field.of name true .string put).Admits member ↔ ∃ s, member = some (.str s) := by
  cases member with
  | none => simp [Admits, Field.of]
  | some v => simp [Admits, ofTree_of_eq_ok_iff, Shape.ofTree_string_eq_ok_iff]

theorem admits_integer_iff {label : String} {fits : Int → Bool} {put : Int → σ → σ}
    {member : Option Json} :
    (Field.of name true (.integer label fits) put).Admits member ↔
      ∃ n, member = some (.int n) ∧ fits n = true := by
  cases member with
  | none => simp [Admits, Field.of]
  | some v => simp [Admits, ofTree_of_eq_ok_iff, Shape.ofTree_integer_eq_ok_iff]

theorem admits_list_iff {put : List α → σ → σ} {member : Option Json} :
    (Field.of name true (.list shape) put).Admits member ↔
      ∃ xs, member = some (.arr xs) ∧ ∀ x ∈ xs, ∃ y, shape.ofTree x = .ok y := by
  cases member with
  | none => simp [Admits, Field.of]
  | some v =>
      simp only [Admits, ofTree_of_eq_ok_iff, Shape.ofTree_list_eq_ok_iff, ← exists_forall₂_iff,
        Option.some.injEq]
      constructor
      · rintro ⟨_, ys, ⟨items, hv, hread⟩, rfl⟩
        exact ⟨items, hv, ys, hread⟩
      · rintro ⟨items, hv, ys, hread⟩
        exact ⟨put ys, ys, ⟨items, hv, hread⟩, rfl⟩

@[simp] theorem keeps_of {get : σ → β} (h : ∀ x s, get (put x s) = get s) :
    (Field.of name required shape put).Keeps get := by
  intro v change hread s
  obtain ⟨x, -, rfl⟩ := ofTree_of_eq_ok_iff.1 hread
  exact h x s

end Field

/-- One record comes of another when members are put into their fields, one after the other. -/
inductive Filled : List (Field σ × Json) → σ → σ → Prop where
  | nil (s : σ) : Filled [] s s
  | cons {f : Field σ} {v : Json} {put : σ → σ} {rest : List (Field σ × Json)} {s whole : σ}
      (hread : f.shape.ofTree v = .ok put) (h : Filled rest (put s) whole) :
      Filled ((f, v) :: rest) s whole

namespace Filled

variable {members : List (Field σ × Json)} {s whole : σ} {f : Field σ} {v : Json} {get : σ → β}

theorem exists_iff :
    (∃ whole, Filled members s whole) ↔ ∀ m ∈ members, ∃ put, m.1.shape.ofTree m.2 = .ok put := by
  induction members generalizing s with
  | nil => exact ⟨fun _ _ hm => absurd hm List.not_mem_nil, fun _ => ⟨s, .nil s⟩⟩
  | cons m rest ih =>
      rw [List.forall_mem_cons]
      constructor
      · rintro ⟨whole, h⟩
        cases h with
        | cons hread h => exact ⟨⟨_, hread⟩, ih.1 ⟨whole, h⟩⟩
      · rintro ⟨⟨put, hread⟩, hrest⟩
        obtain ⟨whole, h⟩ := ih.2 hrest
        exact ⟨whole, .cons hread h⟩

theorem get_eq (h : Filled members s whole) (hkeeps : ∀ m ∈ members, m.1.Keeps get) :
    get whole = get s := by
  induction h with
  | nil => rfl
  | cons hread _ ih =>
      obtain ⟨hfirst, hrest⟩ := List.forall_mem_cons.mp hkeeps
      exact (ih hrest).trans (hfirst hread _)

/-- A field holds what its own member says, whatever the others say. -/
theorem get_own (h : Filled members s whole) (hmem : (f, v) ∈ members)
    (hnames : (members.map fun m => m.1.name).Nodup)
    (hkeeps : ∀ m ∈ members, m.1.name ≠ f.name → m.1.Keeps get) :
    ∃ put t, f.shape.ofTree v = .ok put ∧ get whole = get (put t) := by
  induction h with
  | nil => cases hmem
  | @cons g w put rest s whole hread h ih =>
      rw [List.map_cons, List.nodup_cons] at hnames
      obtain ⟨hfirst, hrest⟩ := List.forall_mem_cons.mp hkeeps
      rcases List.mem_cons.1 hmem with heq | hmem
      -- No member that comes later has the field's name, and so none writes to it.
      · cases heq
        refine ⟨put, s, hread, h.get_eq fun m hm => hrest m hm fun hname => hnames.1 ?_⟩
        rw [← hname]
        exact List.mem_map_of_mem hm
      · exact ih hmem hnames.2 hrest

end Filled

namespace Record

variable {record : Record σ} {partly whole : σ} {f : Field σ} {i : Nat} {v x : Json}

/-- The members of a value that have a field, each with its field. -/
def assigned (record : Record σ) : Json → List (Field σ × Json)
  | .obj members => members.filterMap fun m => (record.field? m.1).map fun f => (f, m.2)
  | .arr items => record.fields.zip items
  | _ => []

/-- The value is an object, or a list that is not longer than the record. -/
def Fits (record : Record σ) : Json → Prop
  | .obj _ => True
  | .arr items => items.length ≤ record.fields.length
  | _ => False

theorem putMembers_eq_ok_iff {members : Members} :
    record.putMembers partly members = .ok whole ↔
      Filled (record.assigned (.obj members)) partly whole := by
  induction members generalizing partly with
  | nil =>
      constructor
      · rintro ⟨⟩
        exact .nil _
      · rintro ⟨⟩
        rfl
  | cons m rest ih =>
      obtain ⟨key, v⟩ := m
      rw [putMembers, assigned, List.filterMap_cons]
      cases hfield : record.field? key with
      | none => exact ih
      | some f =>
          simp only [bind_eq_ok_iff, ih, Option.map_some]
          constructor
          · rintro ⟨put, hread, h⟩
            exact .cons hread h
          · rintro ⟨⟩
            rename_i put hread h
            exact ⟨put, hread, h⟩

theorem putElements_eq_ok_iff {total n : Nat} {fields : List (Field σ)} {items : List Json} :
    record.putElements total n partly fields items = .ok whole ↔
      items.length ≤ fields.length ∧ (∀ f ∈ fields.drop items.length, f.required = false) ∧
        Filled (fields.zip items) partly whole := by
  induction fields generalizing n partly items with
  | nil =>
      cases items with
      | nil =>
          rw [putElements, Except.ok.injEq]
          constructor
          · rintro rfl
            exact ⟨Nat.le_refl 0, nofun, .nil _⟩
          · rintro ⟨-, -, ⟨⟩⟩
            rfl
      | cons x rest => simp [putElements]
  | cons f fields ih =>
      cases items with
      -- The list is at its end: the fields that are left must not be required.
      | nil =>
          rw [putElements]
          split
          · rename_i hrequired
            simp [hrequired]
          · rename_i hrequired
            rw [ih]
            simp [hrequired]
      | cons x rest =>
          simp only [putElements, bind_eq_ok_iff, ih, List.length_cons, Nat.add_le_add_iff_right,
            List.drop_succ_cons, List.zip_cons_cons]
          constructor
          · rintro ⟨put, hread, hlength, hrequired, h⟩
            exact ⟨hlength, hrequired, .cons hread h⟩
          · rintro ⟨hlength, hrequired, h⟩
            cases h with
            | cons hread h => exact ⟨_, hread, hlength, hrequired, h⟩

theorem field?_eq_some_iff (hnames : (record.fields.map Field.name).Nodup) {key : String} :
    record.field? key = some f ↔ f ∈ record.fields ∧ f.name = key := by
  constructor
  · intro hfield
    exact ⟨List.mem_of_find?_eq_some hfield, name_of_field? hfield⟩
  · rintro ⟨hmem, rfl⟩
    obtain ⟨g, hg⟩ : ∃ g, record.field? f.name = some g := by
      rw [← Option.isSome_iff_exists, field?, List.find?_isSome]
      exact ⟨f, hmem, by simp⟩
    have hsame : g = f :=
      List.inj_on_of_nodup_map hnames (List.mem_of_find?_eq_some hg) hmem (name_of_field? hg)
    rw [hg, hsame]

/-- A member goes into the field whose own member it is. -/
theorem mem_assigned_iff (hnames : (record.fields.map Field.name).Nodup) (hv : v.Proper) :
    (f, x) ∈ record.assigned v ↔
      ∃ i, record.fields[i]? = some f ∧ v.field? f.name i = some x := by
  cases hv with
  | @obj members hkeys _ =>
      have hmember : (f, x) ∈ record.assigned (.obj members) ↔
          f ∈ record.fields ∧ (f.name, x) ∈ members := by
        simp only [assigned, List.mem_filterMap, Option.map_eq_some_iff, Prod.mk.injEq,
          field?_eq_some_iff hnames]
        constructor
        · rintro ⟨m, hm, g, ⟨hg, hname⟩, rfl, rfl⟩
          rw [hname]
          exact ⟨hg, hm⟩
        · rintro ⟨hf, hm⟩
          exact ⟨_, hm, f, ⟨hf, rfl⟩, rfl, rfl⟩
      rw [hmember, ← Members.lookup_eq_some_iff hkeys, List.mem_iff_getElem?]
      simp only [Json.field?, exists_and_right]
  | @arr items _ =>
      simp only [assigned, List.mem_iff_getElem?, List.getElem?_zip_eq_some, Json.field?]
  | _ => simp [assigned, Json.field?]

theorem names_assigned_sublist (members : Members) :
    ((record.assigned (.obj members)).map fun m => m.1.name).Sublist (members.map Prod.fst) := by
  induction members with
  | nil => exact List.nil_sublist _
  | cons m rest ih =>
      rw [assigned, List.filterMap_cons]
      cases hfield : record.field? m.1 with
      | none => exact ih.cons m.1
      | some f =>
          rw [Option.map_some, List.map_cons, List.map_cons, name_of_field? hfield]
          exact ih.cons_cons m.1

theorem map_fst_zip_sublist (xs : List α) (ys : List β) :
    ((xs.zip ys).map Prod.fst).Sublist xs := by
  induction xs generalizing ys with
  | nil => exact List.nil_sublist _
  | cons x xs ih =>
      cases ys with
      | nil => exact List.nil_sublist _
      | cons y ys => exact (ih ys).cons_cons x

theorem nodup_assigned (hnames : (record.fields.map Field.name).Nodup) (hv : v.Proper) :
    ((record.assigned v).map fun m => m.1.name).Nodup := by
  cases hv with
  | obj hkeys _ => exact hkeys.nodup_keys.sublist (names_assigned_sublist _)
  | @arr items _ =>
      have hsub := (map_fst_zip_sublist record.fields items).map Field.name
      rw [List.map_map] at hsub
      exact hnames.sublist hsub
  | _ => exact List.nodup_nil

/-- A record is read from a value of its form that has all that is required, by putting each member
into its field. -/
theorem ofTree_eq_ok_iff :
    record.ofTree v = .ok whole ↔ record.Fits v ∧
      (∀ (i : Nat) (f : Field σ), record.fields[i]? = some f → v.field? f.name i = none →
        f.required = false) ∧
        Filled (record.assigned v) record.blank whole := by
  cases v with
  | obj members =>
      have hmissing : record.missing? (members.map Prod.fst) = none ↔
          ∀ (i : Nat) (f : Field σ), record.fields[i]? = some f →
            members.lookup f.name = none → f.required = false := by
        simp only [missing?_eq_none_iff, Members.mem_keys_iff]
        simp only [List.mem_iff_getElem?]
        constructor
        · intro h i f hfield hlookup
          by_contra hrequired
          exact h f ⟨i, hfield⟩ (by simpa using hrequired) hlookup
        · rintro h f ⟨i, hfield⟩ hrequired hlookup
          rw [h i f hfield hlookup] at hrequired
          cases hrequired
      simp only [ofTree, bind_eq_ok_iff, putMembers_eq_ok_iff, Json.field?, ← hmissing]
      constructor
      · rintro ⟨partly, hfilled, hrest⟩
        split at hrest
        · cases hrest
        · rename_i hnone
          cases hrest
          exact ⟨trivial, hnone, hfilled⟩
      · rintro ⟨-, hnone, hfilled⟩
        exact ⟨whole, hfilled, by rw [hnone]⟩
  | arr items =>
      have hrequired : (∀ f ∈ record.fields.drop items.length, f.required = false) ↔
          ∀ (i : Nat) (f : Field σ), record.fields[i]? = some f → items[i]? = none →
            f.required = false := by
        simp only [List.mem_iff_getElem?, List.getElem?_drop, List.getElem?_eq_none_iff]
        constructor
        · intro h i f hfield hlength
          exact h f ⟨i - items.length, by rwa [Nat.add_sub_cancel' hlength]⟩
        · rintro h f ⟨i, hfield⟩
          exact h _ f hfield (Nat.le_add_right _ _)
      rw [ofTree, putElements_eq_ok_iff, hrequired]
      rfl
  | _ => simp [ofTree, Fits]

theorem exists_ofTree_iff (hnames : (record.fields.map Field.name).Nodup) (hv : v.Proper) :
    (∃ whole, record.ofTree v = .ok whole) ↔ record.Fits v ∧
      ∀ (i : Nat) (f : Field σ), record.fields[i]? = some f → f.Admits (v.field? f.name i) := by
  have hmembers : (∃ whole, Filled (record.assigned v) record.blank whole) ↔
      ∀ (i : Nat) (f : Field σ) (x : Json), record.fields[i]? = some f →
        v.field? f.name i = some x → ∃ put, f.shape.ofTree x = .ok put := by
    rw [Filled.exists_iff]
    constructor
    · intro h i f x hfield hmember
      exact h (f, x) ((mem_assigned_iff hnames hv).2 ⟨i, hfield, hmember⟩)
    · rintro h ⟨f, x⟩ hm
      obtain ⟨i, hfield, hmember⟩ := (mem_assigned_iff hnames hv).1 hm
      exact h i f x hfield hmember
  simp only [ofTree_eq_ok_iff, exists_and_left, hmembers]
  refine and_congr_right fun _ => ?_
  constructor
  · rintro ⟨hrequired, hread⟩ i f hfield
    cases hmember : v.field? f.name i with
    | none => exact hrequired i f hfield hmember
    | some x => exact hread i f x hfield hmember
  · intro h
    constructor
    · intro i f hfield hmember
      have hadmits := h i f hfield
      rw [hmember] at hadmits
      exact hadmits
    · intro i f x hfield hmember
      have hadmits := h i f hfield
      rw [hmember] at hadmits
      exact hadmits

/-- A field holds what its own member says, or what it holds in a blank record. -/
theorem holds_of_ofTree (hnames : (record.fields.map Field.name).Nodup) (hv : v.Proper)
    (h : record.ofTree v = .ok whole) (hfield : record.fields[i]? = some f) (get : σ → β)
    (hkeeps : ∀ g ∈ record.fields, g.name ≠ f.name → g.Keeps get)
    {P : Option Json → β → Prop}
    (hown : ∀ x put s, v.field? f.name i = some x → f.shape.ofTree x = .ok put →
      P (some x) (get (put s)))
    (hblank : f.required = false → P none (get record.blank)) :
    P (v.field? f.name i) (get whole) := by
  obtain ⟨-, hrequired, hfilled⟩ := ofTree_eq_ok_iff.1 h
  have hfields : ∀ {g : Field σ} {x : Json}, (g, x) ∈ record.assigned v → g ∈ record.fields := by
    intro g x hm
    obtain ⟨j, hg, -⟩ := (mem_assigned_iff hnames hv).1 hm
    exact List.mem_of_getElem? hg
  cases hmember : v.field? f.name i with
  | some x =>
      have hm : (f, x) ∈ record.assigned v := (mem_assigned_iff hnames hv).2 ⟨i, hfield, hmember⟩
      obtain ⟨put, s, hread, hget⟩ := hfilled.get_own hm (nodup_assigned hnames hv)
        fun m hm => hkeeps m.1 (hfields hm)
      rw [hget]
      exact hown x put s hmember hread
  | none =>
      have hother : ∀ m ∈ record.assigned v, m.1.name ≠ f.name := by
        rintro ⟨g, x⟩ hm hname
        have hsame : g = f := List.inj_on_of_nodup_map hnames (hfields hm)
          (List.mem_of_getElem? hfield) hname
        obtain ⟨j, hj, hx⟩ := (mem_assigned_iff hnames hv).1 hm
        obtain ⟨hlength, -⟩ := List.getElem?_eq_some_iff.1 hfield
        have hplace : i = j :=
          (List.getElem?_inj hlength (List.Nodup.of_map _ hnames)).1 (by rw [hfield, hj, hsame])
        rw [hname, ← hplace, hmember] at hx
        cases hx
      rw [hfilled.get_eq fun m hm => hkeeps m.1 (hfields hm) (hother m hm)]
      exact hblank (hrequired i f hfield hmember)

/-- An optional field holds what is made of its own member. -/
theorem view_of_ofTree (hnames : (record.fields.map Field.name).Nodup) (hv : v.Proper)
    (h : record.ofTree v = .ok whole) {name : String} {view : Json → α} {put : α → σ → σ}
    (hfield : record.fields[i]? = some (.of name false (.view view) put)) (get : σ → β)
    {made : α → β} (hput : ∀ x s, get (put x s) = made x)
    (hkeeps : ∀ g ∈ record.fields, g.name ≠ name → g.Keeps get) :
    get whole = (v.field? name i).elim (get record.blank) fun x => made (view x) := by
  refine holds_of_ofTree hnames hv h hfield get hkeeps
    (P := fun member y => y = member.elim (get record.blank) fun x => made (view x)) ?_ fun _ => rfl
  intro x change s _ hread
  obtain ⟨y, ⟨⟩, rfl⟩ := Field.ofTree_of_eq_ok_iff.1 hread
  exact hput _ s

/-- A field holds what its own member is read as, and what it holds in a blank record where it has
none. -/
theorem own_of_ofTree (hnames : (record.fields.map Field.name).Nodup) (hv : v.Proper)
    (h : record.ofTree v = .ok whole) {name : String} {required : Bool} {shape : Shape α}
    {put : α → σ → σ} (hfield : record.fields[i]? = some (.of name required shape put))
    (get : σ → α) (hput : ∀ x s, get (put x s) = x)
    (hkeeps : ∀ g ∈ record.fields, g.name ≠ name → g.Keeps get) :
    (∃ x, v.field? name i = some x ∧ shape.ofTree x = .ok (get whole)) ∨
      v.field? name i = none ∧ required = false ∧ get whole = get record.blank := by
  refine holds_of_ofTree hnames hv h hfield get hkeeps
    (P := fun member y => (∃ x, member = some x ∧ shape.ofTree x = .ok y) ∨
      member = none ∧ required = false ∧ y = get record.blank) ?_ fun hrequired => ?_
  · intro x change s _ hread
    obtain ⟨y, hy, rfl⟩ := Field.ofTree_of_eq_ok_iff.1 hread
    rw [hput]
    exact .inl ⟨x, rfl, hy⟩
  · exact .inr ⟨rfl, hrequired, rfl⟩

theorem string_of_ofTree (hnames : (record.fields.map Field.name).Nodup) (hv : v.Proper)
    (h : record.ofTree v = .ok whole) {name : String} {put : String → σ → σ}
    (hfield : record.fields[i]? = some (.of name true .string put)) (get : σ → String)
    (hput : ∀ x s, get (put x s) = x)
    (hkeeps : ∀ g ∈ record.fields, g.name ≠ name → g.Keeps get) :
    v.field? name i = some (.str (get whole)) := by
  obtain ⟨x, hmember, hread⟩ | ⟨-, ⟨⟩, -⟩ := own_of_ofTree hnames hv h hfield get hput hkeeps
  rw [hmember, Shape.ofTree_string_eq_ok_iff.1 hread]

theorem integer_of_ofTree (hnames : (record.fields.map Field.name).Nodup) (hv : v.Proper)
    (h : record.ofTree v = .ok whole) {name label : String} {fits : Int → Bool}
    {put : Int → σ → σ}
    (hfield : record.fields[i]? = some (.of name true (.integer label fits) put))
    (get : σ → Int) (hput : ∀ x s, get (put x s) = x)
    (hkeeps : ∀ g ∈ record.fields, g.name ≠ name → g.Keeps get) :
    v.field? name i = some (.int (get whole)) ∧ fits (get whole) = true := by
  obtain ⟨x, hmember, hread⟩ | ⟨-, ⟨⟩, -⟩ := own_of_ofTree hnames hv h hfield get hput hkeeps
  obtain ⟨rfl, hfits⟩ := Shape.ofTree_integer_eq_ok_iff.1 hread
  exact ⟨hmember, hfits⟩

theorem list_of_ofTree (hnames : (record.fields.map Field.name).Nodup) (hv : v.Proper)
    (h : record.ofTree v = .ok whole) {name : String} {shape : Shape α} {put : List α → σ → σ}
    (hfield : record.fields[i]? = some (.of name true (.list shape) put)) (get : σ → List α)
    (hput : ∀ x s, get (put x s) = x)
    (hkeeps : ∀ g ∈ record.fields, g.name ≠ name → g.Keeps get) :
    ∃ items, v.field? name i = some (.arr items) ∧ (∀ x ∈ items, x.Proper) ∧
      List.Forall₂ (fun x y => shape.ofTree x = .ok y) items (get whole) := by
  obtain ⟨x, hmember, hread⟩ | ⟨-, ⟨⟩, -⟩ := own_of_ofTree hnames hv h hfield get hput hkeeps
  obtain ⟨items, rfl, hitems⟩ := Shape.ofTree_list_eq_ok_iff.1 hread
  exact ⟨items, hmember, proper_arr_iff.1 (hv.field? hmember), hitems⟩

end Record

end JsonRpc.Json
