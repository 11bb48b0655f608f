import Mathlib.Data.List.Forall2
import JsonRpc.Json.Shape
import JsonRpc.Proofs.Json.RoundTrip

/-!
# Records read back

A record is read member by member, off a tree or off a text.  Each member that
names a field does something to the record, and what is read in the end is the
blank record after all that its members do to it.  So a record reads back as
soon as each of its members does and none that is required is left out.

Off a tree the members come in the order of their keys, off a text in the order
in which they are written.  `Record.Puts` lists what the members do, in either
order and for either way of reading.
-/

namespace JsonRpc.Json

open Utf8 (encode)

namespace Shape

variable {α : Type}

/-! ## Off a text -/

/-- The text of a value is read as `x`, wherever it stands and as long as it nests within the
bound. -/
structure Reads (shape : Shape α) (written : Json) (x : α) : Prop where
  ofText : ∀ {bound depth : Nat} {rest : Octets}, (encode (write written)).length < bound →
    Settles rest → written.depth ≤ depth →
    shape.ofText bound depth (encode (write written) ++ rest) = .ok (x, rest)

theorem Reads.parse {shape : Shape α} {written : Json} {x : α} (h : shape.Reads written x)
    (hdepth : written.depth ≤ maxDepth) : shape.parse (.ofString written.text) = .ok x := by
  have hoctets : Octets.ofString written.text = encode (write written) := by
    rw [Octets.ofString, text, String.toList_ofList]
  have hread := h.ofText (Nat.lt_succ_self _) settles_nil hdepth
  rw [List.append_nil] at hread
  simp only [hoctets, Shape.parse, readAll, Nat.add_one, hread]
  rfl

theorem reads_judged {v : Json} {x : α} {f : Json → Except Mismatch α} (h : ReadsBack v)
    (hf : f v = .ok x) : (judged f).Reads v x := by
  constructor
  intro bound depth rest hbound hrest hdepth
  have hvalue := (h.reads hbound hrest).eq_ok hdepth
  simp only [judged, hvalue, ok_bind, hf]

theorem reads_string (s : String) : string.Reads (.str s) s := by
  constructor
  intro bound depth rest hbound _ _
  have hblank : Octet.isBlank Octet.quote = false := by decide
  rw [write] at hbound ⊢
  rw [encode_quote, List.cons_append, List.append_assoc, List.singleton_append]
  simp only [string, skipBlank_cons hblank]
  exact stringBody_escaped s rest hbound

theorem reads_list_any {xs : List Json} (h : ∀ x ∈ xs, ReadsBack x) :
    (list any).Reads (.arr xs) xs := by
  constructor
  intro bound depth rest hbound hrest hdepth
  have hvalue := ((readsIf_arr h).reads hbound hrest).eq_ok hdepth
  obtain ⟨tail, hwrite⟩ :
      ∃ tail, encode (write (.arr xs)) ++ rest = Octet.openBracket :: tail := by
    cases xs <;> exact ⟨_, by rw [write, Utf8.encode_cons]; rfl⟩
  have hblank : Octet.isBlank Octet.openBracket = false := by decide
  have hscalar : scalar? Octet.openBracket tail = none := rfl
  have hquote : Octet.openBracket ≠ Octet.quote := by decide
  cases depth with
  | zero => exact absurd hdepth (by simp [Json.depth])
  | succ depth =>
      have hany : any.ofText bound depth = value bound depth := by
        funext input
        simp only [any, view]
        cases value bound depth input <;> rfl
      rw [hwrite, value, skipBlank_cons hblank] at hvalue
      simp only [hscalar, if_neg hquote, if_true] at hvalue
      rw [hwrite]
      simp only [list, skipBlank_cons hblank, hany]
      -- Both readers go through the same elements and differ in what they make of them.
      cases helements : elements (value bound depth) bound true tail with
      | error snag =>
          rw [helements] at hvalue
          cases hvalue
      | ok read =>
          rw [helements] at hvalue
          cases hvalue
          change settle afterList (elements (value bound depth) bound true tail) = _
          rw [helements]
          rfl

theorem reads_optional_null (shape : Shape α) : shape.optional.Reads .null none := by
  constructor
  intro bound depth rest _ _ _
  rfl

theorem reads_optional {shape : Shape α} {v : Json} {x : α} (h : shape.Reads v x)
    (hhead : ∃ b tail, encode (write v) = b :: tail ∧ Octet.isBlank b = false ∧
      b ≠ Octet.ofChar 'n') : shape.optional.Reads v (some x) := by
  obtain ⟨b, tail, hwrite, hblank, hletter⟩ := hhead
  constructor
  intro bound depth rest hbound hrest hdepth
  have hread := h.ofText hbound hrest hdepth
  rw [hwrite, List.cons_append] at hread ⊢
  simp only [optional, skipBlank_cons hblank, if_neg hletter, hread]
  rfl

/-! ## Off a tree -/

theorem ofTree_list_map {shape : Shape α} {toJson : α → Json}
    (h : ∀ x, shape.ofTree (toJson x) = .ok x) (xs : List α) :
    (list shape).ofTree (.arr (xs.map toJson)) = .ok xs := by
  change (xs.map toJson).mapM shape.ofTree = _
  induction xs with
  | nil => rfl
  | cons x xs ih =>
      rw [List.map_cons, List.mapM_cons, h x, ih]
      rfl

end Shape

theorem Field.ofTree_of {σ α : Type} {shape : Shape α} {v : Json} {x : α} (name : String)
    (required : Bool) (put : α → σ → σ) (h : shape.ofTree v = .ok x) :
    (Field.of name required shape put).shape.ofTree v = .ok (put x) := by
  simp only [Field.of, h]
  rfl

theorem Field.reads_of {σ α : Type} {shape : Shape α} {v : Json} {x : α} (name : String)
    (required : Bool) (put : α → σ → σ) (h : shape.Reads v x) :
    (Field.of name required shape put).shape.Reads v (put x) := by
  constructor
  intro bound depth rest hbound hrest hdepth
  have hread := h.ofText hbound hrest hdepth
  simp only [Field.of, hread]
  rfl

namespace Record

variable {σ : Type} {record : Record σ}

/-- What members do to a record, where `reads` is the way in which a field reads its value. -/
def Puts (record : Record σ) (reads : Shape (σ → σ) → Json → (σ → σ) → Prop) :
    List (String × Json) → List (σ → σ) → Prop :=
  List.Forall₂ fun m put => ∃ f, record.field? m.1 = some f ∧ reads f.shape m.2 put

def putAll (whole : σ) (puts : List (σ → σ)) : σ := puts.foldl (fun whole put => put whole) whole

section

variable {reads : Shape (σ → σ) → Json → (σ → σ) → Prop}

theorem puts_append {ms later : List (String × Json)} {puts laterPuts : List (σ → σ)}
    (h : record.Puts reads ms puts) (hlater : record.Puts reads later laterPuts) :
    record.Puts reads (ms ++ later) (puts ++ laterPuts) :=
  List.rel_append h hlater

/-- A member that need not be there. -/
theorem puts_option {α : Type} {key : String} {toJson : α → Json} {put : α → σ → σ} {f : Field σ}
    {o : Option α} (hfield : record.field? key = some f)
    (h : ∀ x, o = some x → reads f.shape (toJson x) (put x)) :
    record.Puts reads (o.map fun x => (key, toJson x)).toList (o.map put).toList := by
  cases o with
  | none => exact .nil
  | some x => exact .cons ⟨f, hfield, h x rfl⟩ .nil

end

theorem name_of_field? {name : String} {f : Field σ} (h : record.field? name = some f) :
    f.name = name := by
  have hname := List.find?_some h
  exact of_decide_eq_true hname

theorem missing?_eq_none_iff {names : List String} :
    record.missing? names = none ↔ ∀ f ∈ record.fields, f.required = true → f.name ∈ names := by
  rw [missing?, List.find?_eq_none]
  simp

/-! ## Off a tree -/

theorem putMembers_of_puts {ms : List (String × Json)} {puts : List (σ → σ)}
    (h : record.Puts (fun shape v put => shape.ofTree v = .ok put) ms puts) (partly : σ) :
    record.putMembers partly ms = .ok (putAll partly puts) := by
  induction h generalizing partly with
  | nil => rfl
  | @cons m put ms puts hm _ ih =>
      obtain ⟨key, v⟩ := m
      obtain ⟨f, hfield, hread⟩ := hm
      simp only [putMembers, hfield, hread, ok_bind]
      exact ih (put partly)

theorem ofTree_of_puts {ms : List (String × Json)} {puts : List (σ → σ)}
    (h : record.Puts (fun shape v put => shape.ofTree v = .ok put) ms puts)
    (hmissing : record.missing? (ms.map Prod.fst) = none) :
    record.ofTree (.obj ms) = .ok (putAll record.blank puts) := by
  simp only [ofTree, putMembers_of_puts h, ok_bind, hmissing]

/-! ## Off a text -/

/-- A member whose field has not been read yet. -/
theorem readMembers_member {key : String} {v : Json} {ms : List (String × Json)} {f : Field σ}
    {put : σ → σ} (hfield : record.field? key = some f) (hread : f.shape.Reads v put)
    {bound depth steps : Nat} {first : Bool} {names : List String} {partly : σ}
    {input rest : Octets} (hnew : key ∉ names)
    (hstep : ObjectStep.read bound first input = .ok (.member key (afterKey v ms rest)))
    (hbound : (encode (write v)).length < bound) (hdepth : v.depth ≤ depth) :
    record.readMembers bound depth (steps + 1) first names partly input =
      record.readMembers bound depth steps false (key :: names) (put partly)
        (encode (writeMembers ms) ++ rest) := by
  have hcolon : afterColon (afterKey v ms rest) =
      .ok (encode (write v) ++ (encode (writeMembers ms) ++ rest)) := by
    rw [afterKey, afterColon, skipBlank_cons (by decide)]
    simp only [if_true]
  have hname : f.name = key := name_of_field? hfield
  have hvalue := hread.ofText hbound (settles_writeMembers ms rest) hdepth
  rw [readMembers, hstep, ok_bind]
  simp only [hfield, hname, List.contains_eq_mem, hnew, decide_false, Bool.false_eq_true, if_false,
    hcolon, ok_bind, hvalue]

theorem readMembers_of_puts {ms : List (String × Json)} {puts : List (σ → σ)}
    (h : record.Puts Shape.Reads ms puts) {names : List String}
    (hkeys : (ms.map Prod.fst ++ names).Nodup)
    (hrequired : ∀ f ∈ record.fields, f.required = true → f.name ∈ ms.map Prod.fst ++ names)
    {bound depth steps : Nat} {partly : σ} {rest : Octets}
    (hbound : (encode (writeMembers ms)).length < bound)
    (hsteps : (encode (writeMembers ms)).length < steps) (hdepth : depthMembers ms ≤ depth) :
    record.readMembers bound depth steps false names partly (encode (writeMembers ms) ++ rest) =
      .ok (putAll partly puts, Octet.closeBrace :: rest) := by
  -- Every member takes one step and has at least its comma, so the steps do not run out.
  induction h generalizing steps names partly with
  | nil =>
      obtain _ | steps := steps
      · exact absurd hsteps (Nat.not_lt_zero _)
      have hstep : ObjectStep.read bound false (encode (writeMembers []) ++ rest) =
          .ok (.closing (Octet.closeBrace :: rest)) := rfl
      have hmissing : record.missing? names = none := missing?_eq_none_iff.mpr hrequired
      rw [readMembers, hstep, ok_bind]
      simp only [hmissing]
      rfl
  | @cons m put ms puts hm hms ih =>
      obtain ⟨key, v⟩ := m
      obtain ⟨f, hfield, hread⟩ : ∃ f, record.field? key = some f ∧ f.shape.Reads v put := hm
      obtain _ | steps := steps
      · exact absurd hsteps (Nat.not_lt_zero _)
      have hinput : encode (writeMembers ((key, v) :: ms)) = Octet.comma ::
          (encode (quote key) ++ Octet.colon ::
            (encode (write v) ++ encode (writeMembers ms))) := by
        rw [writeMembers, Utf8.encode_cons, Utf8.encode_append, Utf8.encode_cons,
          Utf8.encode_append]
        rfl
      rw [hinput] at hbound hsteps ⊢
      simp only [List.length_cons, List.length_append] at hbound hsteps
      rw [depthMembers, Nat.max_le] at hdepth
      rw [List.map_cons, List.cons_append, List.nodup_cons, List.mem_append, not_or] at hkeys
      have hmiddle : (ms.map Prod.fst ++ key :: names).Perm (key :: (ms.map Prod.fst ++ names)) :=
        List.perm_middle
      have hstep : ObjectStep.read bound false (Octet.comma :: (encode (quote key) ++
          Octet.colon :: (encode (write v) ++ encode (writeMembers ms))) ++ rest) =
          .ok (.member key (afterKey v ms rest)) := by
        rw [List.cons_append, List.append_assoc, List.cons_append, List.append_assoc]
        exact ObjectStep.read_next (by omega) _
      rw [readMembers_member hfield hread hkeys.1.2 hstep (by omega) hdepth.1]
      refine ih ?_ ?_ (by omega) (by omega) hdepth.2
      · rw [hmiddle.nodup_iff, List.nodup_cons, List.mem_append, not_or]
        exact hkeys
      · intro f hf hneeded
        rw [hmiddle.mem_iff]
        exact hrequired f hf hneeded

/-- A record is read from an object whose members are fields that each read back, in any order. -/
theorem reads_of_puts {ms : List (String × Json)} {puts : List (σ → σ)}
    (h : record.Puts Shape.Reads ms puts) (hkeys : (ms.map Prod.fst).Nodup)
    (hmissing : record.missing? (ms.map Prod.fst) = none) :
    record.shape.Reads (.obj ms) (putAll record.blank puts) := by
  constructor
  intro bound depth rest hbound _ hdepth
  have hbrace : Octet.isBlank Octet.openBrace = false := by decide
  obtain _ | depth := depth
  · exact absurd hdepth (by simp [Json.depth])
  rw [Json.depth, Nat.add_le_add_iff_right] at hdepth
  have hinside : ∀ input, record.readMembers bound depth bound true [] record.blank input =
      .ok (putAll record.blank puts, Octet.closeBrace :: rest) →
      record.shape.ofText bound (depth + 1) (Octet.openBrace :: input) =
        .ok (putAll record.blank puts, rest) := by
    intro input hread
    simp only [shape, ofText, skipBlank_cons hbrace]
    change settle afterObject (record.readMembers bound depth bound true [] record.blank input >>=
      _) = _
    rw [hread]
    rfl
  obtain _ | bound := bound
  · exact absurd hbound (Nat.not_lt_zero _)
  cases h with
  | nil =>
      have hinput : encode (write (.obj [])) ++ rest =
          Octet.openBrace :: Octet.closeBrace :: rest := rfl
      have hstep : ObjectStep.read (bound + 1) true (Octet.closeBrace :: rest) =
          .ok (.closing (Octet.closeBrace :: rest)) := rfl
      rw [hinput]
      apply hinside
      rw [readMembers, hstep, ok_bind]
      change record.missing? [] = none at hmissing
      simp only [hmissing]
      rfl
  | @cons m put ms puts hm hms =>
      obtain ⟨key, v⟩ := m
      obtain ⟨f, hfield, hread⟩ : ∃ f, record.field? key = some f ∧ f.shape.Reads v put := hm
      have hinput : encode (write (.obj ((key, v) :: ms))) = Octet.openBrace ::
          (encode (quote key) ++ Octet.colon ::
            (encode (write v) ++ encode (writeMembers ms))) := by
        rw [write, Utf8.encode_cons, Utf8.encode_append, Utf8.encode_cons,
          Utf8.encode_append]
        rfl
      rw [hinput] at hbound ⊢
      simp only [List.length_cons, List.length_append] at hbound
      rw [depthMembers, Nat.max_le] at hdepth
      rw [List.map_cons, List.nodup_cons] at hkeys
      rw [List.cons_append, List.append_assoc, List.cons_append, List.append_assoc]
      apply hinside
      have hstep : ObjectStep.read (bound + 1) true
          (encode (quote key) ++ afterKey v ms rest) = .ok (.member key (afterKey v ms rest)) :=
        ObjectStep.read_first (by omega) _
      rw [← afterKey, readMembers_member hfield hread List.not_mem_nil hstep (by omega) hdepth.1]
      refine readMembers_of_puts hms ?_ ?_ (by omega) (by omega) hdepth.2
      · exact (List.perm_append_singleton key _).nodup_iff.mpr (List.nodup_cons.mpr hkeys)
      · intro f hf hneeded
        rw [(List.perm_append_singleton key _).mem_iff]
        exact missing?_eq_none_iff.mp hmissing f hf hneeded

end Record

end JsonRpc.Json
