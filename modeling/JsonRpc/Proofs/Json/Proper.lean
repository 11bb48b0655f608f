import JsonRpc.Json.Reader
import JsonRpc.Proofs.Json.Members
import JsonRpc.Proofs.Traversal

/-!
# Values that list each key once

A value is built with objects whose keys ascend.  What is read from a text is
such a value, whatever the text is: the reader gathers the members of an object
in the order in which they are written and puts each in the place of its key.
-/

namespace JsonRpc

namespace Members

theorem ascending_ofList (written : List (String × Json)) : (ofList written).Ascending := by
  have hfold : ∀ members : Members, members.Ascending →
      Ascending (written.foldl (fun members m => insert m.1 m.2 members) members) := by
    induction written with
    | nil => exact fun _ h => h
    | cons m rest ih => exact fun members h => ih _ (h.insert m.1 m.2)
  exact hfold [] List.Pairwise.nil

theorem forall_ofList {P : String × Json → Prop} {written : List (String × Json)}
    (h : ∀ m ∈ written, P m) : ∀ m ∈ ofList written, P m := by
  have hfold : ∀ members : Members, (∀ m ∈ members, P m) →
      ∀ m ∈ written.foldl (fun members m => insert m.1 m.2 members) members, P m := by
    induction written with
    | nil => exact fun _ hmembers => hmembers
    | cons first rest ih =>
        obtain ⟨hfirst, hrest⟩ := List.forall_mem_cons.mp h
        exact fun members hmembers => ih hrest _ (insert_forall hfirst hmembers)
  exact hfold [] (fun _ hm => absurd hm List.not_mem_nil)

end Members

namespace Json

/-- Every object in the value lists each key once, in ascending order. -/
inductive Proper : Json → Prop where
  | null : Proper .null
  | bool (b : Bool) : Proper (.bool b)
  | int (n : Int) : Proper (.int n)
  | float (x : Float) : Proper (.float x)
  | str (s : String) : Proper (.str s)
  | arr {items : List Json} (h : ∀ x ∈ items, Proper x) : Proper (.arr items)
  | obj {members : Members} (hkeys : members.Ascending)
      (h : ∀ m ∈ members, Proper m.2) : Proper (.obj members)

attribute [simp] Proper.null Proper.bool Proper.int Proper.float Proper.str

@[simp] theorem proper_arr_iff {items : List Json} :
    (arr items).Proper ↔ ∀ x ∈ items, x.Proper := by
  constructor
  · rintro ⟨⟩
    assumption
  · exact .arr

@[simp] theorem proper_obj_iff {members : Members} :
    (obj members).Proper ↔ members.Ascending ∧ ∀ m ∈ members, m.2.Proper := by
  constructor
  · rintro ⟨⟩
    constructor <;> assumption
  · exact fun h => .obj h.1 h.2

theorem Proper.member? {v x : Json} {key : String} (h : v.Proper)
    (hmember : v.member? key = some x) : x.Proper := by
  cases h with
  | obj hkeys hmembers => exact hmembers _ ((Members.lookup_eq_some_iff hkeys).1 hmember)
  | _ => cases hmember

theorem Proper.object {written : List (String × Json)} (h : ∀ m ∈ written, m.2.Proper) :
    (object written).Proper :=
  .obj (Members.ascending_ofList written) (Members.forall_ofList h)

/-! ## What is read -/

variable {α : Type}

def Yields (P : α → Prop) (reader : Reader α) : Prop :=
  ∀ {input x rest}, reader input = .ok (x, rest) → P x

theorem yields_elements {P : α → Prop} {element : Reader α} (h : Yields P element) (bound : Nat)
    (first : Bool) : Yields (fun xs => ∀ x ∈ xs, P x) (elements element bound first) := by
  intro input xs rest hread
  induction bound generalizing first input xs rest with
  | zero => cases hread
  | succ bound ih =>
      rw [elements] at hread
      obtain ⟨step, -, hread⟩ := bind_eq_ok_iff.1 hread
      cases step with
      | closing rest =>
          cases hread
          exact fun _ hx => absurd hx List.not_mem_nil
      | element rest =>
          obtain ⟨⟨x, middle⟩, hx, hread⟩ := bind_eq_ok_iff.1 hread
          obtain ⟨⟨ys, last⟩, hys, hread⟩ := bind_eq_ok_iff.1 hread
          cases hread
          exact List.forall_mem_cons.mpr ⟨h hx, ih _ hys⟩

theorem yields_members {P : α → Prop} {value : Reader α} (h : Yields P value) (bound : Nat)
    (first : Bool) : Yields (fun ms => ∀ m ∈ ms, P m.2) (members value bound first) := by
  intro input ms rest hread
  induction bound generalizing first input ms rest with
  | zero => cases hread
  | succ bound ih =>
      rw [members] at hread
      obtain ⟨step, -, hread⟩ := bind_eq_ok_iff.1 hread
      cases step with
      | closing rest =>
          cases hread
          exact fun _ hm => absurd hm List.not_mem_nil
      | member key rest =>
          obtain ⟨colon, -, hread⟩ := bind_eq_ok_iff.1 hread
          obtain ⟨⟨x, middle⟩, hx, hread⟩ := bind_eq_ok_iff.1 hread
          obtain ⟨⟨later, last⟩, hlater, hread⟩ := bind_eq_ok_iff.1 hread
          cases hread
          exact List.forall_mem_cons.mpr ⟨h hx, ih _ hlater⟩

theorem proper_of_toJson? {negative : Bool} {n : Numeral} {v : Json}
    (h : n.toJson? negative = some v) : v.Proper := by
  cases n with
  | whole n =>
      rw [Numeral.toJson?] at h
      split at h
      · cases h
        exact .int _
      split at h
      · cases h
        exact .int _
      · cases h
        exact .float _
  | scaled significand exponent =>
      obtain ⟨x, -, rfl⟩ := Option.map_eq_some_iff.1 h
      exact .float _
  | vanishing =>
      cases h
      exact .float _

theorem yields_number (negative : Bool) : Yields Proper (number negative) := by
  intro input v rest hread
  obtain ⟨⟨n, middle⟩, -, hread⟩ := bind_eq_ok_iff.1 hread
  cases hn : n.toJson? negative with
  | none =>
      simp only [hn] at hread
      cases hread
  | some w =>
      simp only [hn] at hread
      cases hread
      exact proper_of_toJson? hn

theorem proper_of_scalar? {b : UInt8} {input rest : Octets} {v : Json}
    (h : scalar? b input = some (.ok (v, rest))) : v.Proper := by
  rw [scalar?] at h
  split at h
  · obtain ⟨_, -, hread⟩ := bind_eq_ok_iff.1 (Option.some.inj h)
    cases hread
    exact .null
  split at h
  · obtain ⟨_, -, hread⟩ := bind_eq_ok_iff.1 (Option.some.inj h)
    cases hread
    exact .bool true
  split at h
  · obtain ⟨_, -, hread⟩ := bind_eq_ok_iff.1 (Option.some.inj h)
    cases hread
    exact .bool false
  split at h
  · exact yields_number true (Option.some.inj h)
  split at h
  · exact yields_number false (Option.some.inj h)
  · cases h

theorem yields_value (bound depth : Nat) : Yields Proper (value bound depth) := by
  intro input v rest hread
  -- Lists and objects are read with less depth, and nothing else is read by the reader of values.
  induction depth using Nat.strongRecOn generalizing input v rest with
  | ind depth ih =>
      rw [value.eq_def] at hread
      dsimp only at hread
      split at hread
      · cases hread
      split at hread
      · rename_i hscalar
        exact proper_of_scalar? (hscalar.trans (congrArg some hread))
      split at hread
      · obtain ⟨⟨s, last⟩, -, hread⟩ := bind_eq_ok_iff.1 hread
        cases hread
        exact .str s
      split at hread
      · cases depth with
        | zero => cases hread
        | succ depth =>
            obtain ⟨⟨xs, last⟩, hxs, hread⟩ := bind_eq_ok_iff.1 hread
            cases hread
            exact .arr (yields_elements (ih depth (Nat.lt_succ_self _)) bound true hxs)
      split at hread
      · cases depth with
        | zero => cases hread
        | succ depth =>
            obtain ⟨⟨ms, last⟩, hms, hread⟩ := bind_eq_ok_iff.1 hread
            cases hread
            exact .object (yields_members (ih depth (Nat.lt_succ_self _)) bound true hms)
      · cases hread

theorem proper_of_parse {input : Octets} {v : Json} (h : parse input = .ok v) : v.Proper := by
  rw [parse, readAll] at h
  split at h
  · cases h
  · rename_i read rest hread
    split at h
    · cases h
      exact yields_value _ _ hread
    · cases h

end Json

end JsonRpc
