import JsonRpc.Proofs.Json.Members
import JsonRpc.Proofs.Json.Numeral

/-!
# Values read back

The text of a value without floats reads back as that value, and it does so
exactly as long as its lists and objects nest no deeper than the reader allows.
A text that nests deeper is not read at all: the reader stops at the first
bracket that is too deep.  With floats in it a text may read as another value,
or fail, but then too it is not read where it nests too deep.

All of this is carried by one statement, `Reads`, about what comes of reading
something that may fit or not, and of which it may be sure or not what is read.
Reading two things after the other fits when both fit, so the statement passes
from the parts of a list to the list.  The members of an object are read in the
order in which they are written, which need not be the order in which the object
keeps them; hence `ReadsAs` speaks of the value that is written and of the value
that is read.
-/

namespace JsonRpc.Json

open Utf8 (encode)

mutual

def depth : Json → Nat
  | .arr items => depthItems items + 1
  | .obj members => depthMembers members + 1
  | _ => 0

def depthItems : List Json → Nat
  | [] => 0
  | x :: xs => max (depth x) (depthItems xs)

def depthMembers : List (String × Json) → Nat
  | [] => 0
  | (_, x) :: xs => max (depth x) (depthMembers xs)

end

theorem depthItems_le_iff {items : List Json} {d : Nat} :
    depthItems items ≤ d ↔ ∀ x ∈ items, x.depth ≤ d := by
  induction items with
  | nil => simp [depthItems]
  | cons x xs ih => rw [depthItems, Nat.max_le, ih, List.forall_mem_cons]

theorem depthMembers_le_iff {members : List (String × Json)} {d : Nat} :
    depthMembers members ≤ d ↔ ∀ m ∈ members, m.2.depth ≤ d := by
  induction members with
  | nil => simp [depthMembers]
  | cons m ms ih => rw [depthMembers, Nat.max_le, ih, List.forall_mem_cons]

/-- Values whose text leaves nothing open: they hold no floats, their integers fit a word, and
their objects list each key once, in ascending order. -/
inductive Exact : Json → Prop where
  | null : Exact .null
  | bool (b : Bool) : Exact (.bool b)
  | int {n : Int} (h : Holds n) : Exact (.int n)
  | str (s : String) : Exact (.str s)
  | arr {items : List Json} (h : ∀ x ∈ items, Exact x) : Exact (.arr items)
  | obj {members : Members} (hkeys : members.Ascending)
      (h : ∀ m ∈ members, Exact m.2) : Exact (.obj members)

/-- What comes of reading something: it is read where it fits, and otherwise nests too deep.  Unless
it is sure that it is `x`, something else may be read, or reading may fail anyhow. -/
inductive Reads {α : Type} (sure fits : Prop) (x : α) (rest : Octets) :
    Except Snag (α × Octets) → Prop where
  | whole {y : α} (h : fits) (hsure : sure → y = x) : Reads sure fits x rest (.ok (y, rest))
  | tooDeep (h : ¬fits) (unread : Nat) :
      Reads sure fits x rest (.error (.placed (.syntaxFault .tooDeep) unread))
  | failed (h : ¬sure) (snag : Snag) : Reads sure fits x rest (.error snag)

section

variable {α β : Type} {sure sure' P Q : Prop} {x x' : α} {y : β} {mid rest : Octets}
  {r : Except Snag (α × Octets)}

theorem Reads.same (x : α) (h : P) : Reads sure P x rest (.ok (x, rest)) := .whole h fun _ => rfl

theorem Reads.congr (h : Reads sure P x rest r) (hiff : P ↔ Q) : Reads sure Q x rest r := by
  cases h with
  | whole hP hsure => exact .whole (hiff.mp hP) hsure
  | tooDeep hP unread => exact .tooDeep (mt hiff.mpr hP) unread
  | failed hsure snag => exact .failed hsure snag

/-- What is sure may be left open. -/
theorem Reads.mono (h : Reads sure P x rest r) (hsure : sure' → sure) :
    Reads sure' P x rest r := by
  cases h with
  | whole hP hx => exact .whole hP (hx ∘ hsure)
  | tooDeep hP unread => exact .tooDeep hP unread
  | failed hnot snag => exact .failed (mt hsure hnot) snag

theorem Reads.of_eq (h : Reads sure P x rest r) (hx : sure → x = x') : Reads sure P x' rest r := by
  cases h with
  | whole hP hsure => exact .whole hP fun hs => (hsure hs).trans (hx hs)
  | tooDeep hP unread => exact .tooDeep hP unread
  | failed hsure snag => exact .failed hsure snag

theorem Reads.eq_ok (h : Reads True P x rest r) (hfits : P) : r = .ok (x, rest) := by
  cases h with
  | whole _ hsure => rw [hsure trivial]
  | tooDeep hdeep => exact absurd hfits hdeep
  | failed hnot => exact absurd trivial hnot

/-- Two things that are read one after the other fit when both do. -/
theorem Reads.bind {next : α × Octets → Except Snag (β × Octets)} (h : Reads sure P x mid r)
    (hnext : ∀ x', (sure → x' = x) → Reads sure Q y rest (next (x', mid))) :
    Reads sure (P ∧ Q) y rest (r >>= next) := by
  cases h with
  | whole hP hsure => exact (hnext _ hsure).congr ⟨fun hQ => ⟨hP, hQ⟩, And.right⟩
  | tooDeep hP unread => exact .tooDeep (fun h => hP h.1) unread
  | failed hsure snag => exact .failed hsure snag

theorem Reads.map (f : α → β) (h : Reads sure P x rest r) :
    Reads sure P (f x) rest (r >>= fun read => return (f read.1, read.2)) := by
  cases h with
  | whole hP hsure => exact .whole hP fun hs => congrArg f (hsure hs)
  | tooDeep hP unread => exact .tooDeep hP unread
  | failed hsure snag => exact .failed hsure snag

end

/-- The text of one value reads as another one, if it is sure what it reads as. -/
structure ReadsIf (sure : Prop) (written v : Json) : Prop where
  head : ∃ b tail, encode (write written) = b :: tail ∧
    Octet.isBlank b = false ∧ b ≠ Octet.closeBracket
  reads : ∀ {bound depth : Nat} {rest : Octets},
    (encode (write written)).length < bound → Settles rest →
      Reads sure (written.depth ≤ depth) v rest
        (value bound depth (encode (write written) ++ rest))

abbrev ReadsAs (written v : Json) : Prop := ReadsIf True written v

abbrev ReadsBack (v : Json) : Prop := ReadsAs v v

theorem ReadsIf.mono {sure sure' : Prop} {written v : Json} (h : ReadsIf sure written v)
    (hsure : sure' → sure) : ReadsIf sure' written v :=
  ⟨h.head, fun hbound hrest => (h.reads hbound hrest).mono hsure⟩

theorem ReadsIf.of_eq {sure : Prop} {written v w : Json} (h : ReadsIf sure written v)
    (hv : sure → v = w) : ReadsIf sure written w :=
  ⟨h.head, fun hbound hrest => (h.reads hbound hrest).of_eq hv⟩

theorem skipBlank_cons {b : UInt8} (h : Octet.isBlank b = false) (rest : Octets) :
    skipBlank (b :: rest) = b :: rest := by
  simp [skipBlank, h]

/-! ## Scalars -/

theorem readsIf_of_scalar {sure : Prop} {v : Json} (hdepth : v.depth = 0)
    (h : ∀ rest, Settles rest → ∃ b tail r, encode (write v) = b :: tail ∧
      Octet.isBlank b = false ∧ b ≠ Octet.closeBracket ∧
      scalar? b (tail ++ rest) = some r ∧ Reads sure True v rest r) :
    ReadsIf sure v v := by
  constructor
  · obtain ⟨b, tail, -, hwrite, hblank, hclose, -⟩ := h [] settles_nil
    exact ⟨b, tail, hwrite, hblank, hclose⟩
  · intro bound depth rest _ hrest
    obtain ⟨b, tail, r, hwrite, hblank, -, hscalar, hreads⟩ := h rest hrest
    rw [hwrite, List.cons_append, value, skipBlank_cons hblank]
    simp only [hscalar]
    exact hreads.congr ⟨fun _ => by omega, fun _ => trivial⟩

theorem readsIf_number {v : Json} (hdepth : v.depth = 0) (h : Decimal.NumberText (write v)) :
    ReadsIf False v v := by
  apply readsIf_of_scalar hdepth
  intro rest hrest
  obtain ⟨b, tail, r, hwrite, hblank, hclose, hscalar, hleaves⟩ := exists_scalar?_number h hrest
  refine ⟨b, tail, r, hwrite, hblank, hclose, hscalar, ?_⟩
  cases r with
  | error snag => exact .failed id snag
  | ok read =>
      obtain ⟨w, left⟩ := read
      rw [hleaves w left rfl]
      exact .whole trivial False.elim

theorem FitsSigned.holds {n : Int} (h : FitsSigned n) : Holds n := by
  unfold FitsSigned at h
  unfold Holds
  omega

theorem readsBack_int {n : Int} (hn : Holds n) : ReadsBack (.int n) := by
  apply readsIf_of_scalar (by simp [depth])
  intro rest hrest
  rw [write]
  obtain ⟨b, tail, hwrite, hblank, hclose, hscalar⟩ := scalar?_integer hn hrest
  exact ⟨b, tail, _, hwrite, hblank, hclose, hscalar, .same _ trivial⟩

theorem readsIf_int (n : Int) : ReadsIf (Holds n) (.int n) (.int n) := by
  by_cases hn : Holds n
  · exact (readsBack_int hn).mono fun _ => trivial
  · refine (readsIf_number (by simp [depth]) ?_).mono hn
    rw [write]
    exact Decimal.numberText_integer n

theorem readsIf_float (x : Float) : ReadsIf False (.float x) (.float x) := by
  refine readsIf_number (by simp [depth]) ?_
  rw [write]
  exact Decimal.numberText_ofFloat x

theorem readsBack_null : ReadsBack .null := by
  apply readsIf_of_scalar (by simp [depth])
  intro rest _
  exact ⟨_, _, _, rfl, by decide, by decide, rfl, .same _ trivial⟩

theorem readsBack_bool (b : Bool) : ReadsBack (.bool b) := by
  apply readsIf_of_scalar (by simp [depth])
  intro rest _
  cases b <;> exact ⟨_, _, _, rfl, by decide, by decide, rfl, .same _ trivial⟩

theorem readsBack_str (s : String) : ReadsBack (.str s) := by
  constructor
  · exact ⟨_, _, by rw [write, encode_quote], by decide, by decide⟩
  · intro bound depth rest hbound _
    rw [write] at hbound ⊢
    rw [encode_quote, List.cons_append, List.append_assoc, List.singleton_append, value,
      skipBlank_cons (by decide)]
    have hscalar : ∀ rest, scalar? Octet.quote rest = none := fun _ => rfl
    simp only [hscalar, if_true, stringBody_escaped s rest hbound, ok_bind]
    exact .same _ (by simp [Json.depth])

/-! ## Lists -/

variable {sure : Prop}

theorem settles_writeItems (xs : List Json) (rest : Octets) :
    Settles (encode (writeItems xs) ++ rest) := by
  cases xs <;> exact settles_cons (by decide) (by decide) (by decide)

theorem ListStep.read_first {b : UInt8} (hblank : Octet.isBlank b = false)
    (hclose : b ≠ Octet.closeBracket) (rest : Octets) :
    ListStep.read true (b :: rest) = .ok (.element (b :: rest)) := by
  rw [ListStep.read, skipBlank_cons hblank]
  simp only [if_neg hclose, if_true]

theorem ListStep.read_next {b : UInt8} (hblank : Octet.isBlank b = false)
    (hclose : b ≠ Octet.closeBracket) (rest : Octets) :
    ListStep.read false (Octet.comma :: b :: rest) = .ok (.element (b :: rest)) := by
  rw [ListStep.read, skipBlank_cons (by decide)]
  have hcomma : Octet.comma ≠ Octet.closeBracket := by decide
  simp only [if_neg hcomma, Bool.false_eq_true, if_false, if_true, skipBlank_cons hblank,
    if_neg hclose]

/-- An element and the further ones fit when the list of all of them does. -/
theorem reads_elements {x : Json} {xs : List Json} (hx : ReadsIf sure x x)
    {bound depth steps : Nat} {first : Bool} {input rest : Octets}
    (hstep : ListStep.read first input =
      .ok (.element (encode (write x) ++ (encode (writeItems xs) ++ rest))))
    (hbound : (encode (write x)).length < bound)
    (hxs : Reads sure (depthItems xs ≤ depth) xs rest
      (elements (value bound depth) steps false (encode (writeItems xs) ++ rest))) :
    Reads sure (depthItems (x :: xs) ≤ depth) (x :: xs) rest
      (elements (value bound depth) (steps + 1) first input) := by
  rw [elements, hstep, ok_bind]
  have hhead : Reads sure (x.depth ≤ depth) x (encode (writeItems xs) ++ rest)
      (value bound depth (encode (write x) ++ (encode (writeItems xs) ++ rest))) :=
    hx.reads hbound (settles_writeItems xs rest)
  have hrest := fun y (hy : sure → y = x) =>
    (hxs.map (y :: ·)).of_eq fun hs => congrArg (· :: xs) (hy hs)
  refine (hhead.bind hrest).congr ?_
  rw [depthItems, Nat.max_le]

theorem reads_writeItems {xs : List Json} (h : ∀ x ∈ xs, ReadsIf sure x x)
    {bound depth steps : Nat} {rest : Octets}
    (hbound : (encode (writeItems xs)).length < bound)
    (hsteps : (encode (writeItems xs)).length < steps) :
    Reads sure (depthItems xs ≤ depth) xs rest
      (elements (value bound depth) steps false (encode (writeItems xs) ++ rest)) := by
  -- Every item takes one step and has at least its comma, so the steps do not run out.
  induction xs generalizing steps with
  | nil =>
      obtain _ | steps := steps
      · exact absurd hsteps (Nat.not_lt_zero _)
      · exact .same _ (Nat.zero_le depth)
  | cons x xs ih =>
      obtain _ | steps := steps
      · exact absurd hsteps (Nat.not_lt_zero _)
      have hx := h x List.mem_cons_self
      obtain ⟨b, tail, hwrite, hblank, hclose⟩ := hx.head
      have hinput : encode (writeItems (x :: xs)) =
          Octet.comma :: (encode (write x) ++ encode (writeItems xs)) := by
        rw [writeItems, Utf8.encode_cons, Utf8.encode_append]
        rfl
      rw [hinput, List.length_cons, List.length_append] at hbound hsteps
      rw [hinput]
      apply reads_elements hx _ (by omega)
        (ih (fun y hy => h y (List.mem_cons_of_mem _ hy)) (by omega) (by omega))
      rw [List.cons_append, List.append_assoc, hwrite, List.cons_append]
      exact ListStep.read_next hblank hclose _

/-- A list fits where one more level may be opened and its elements fit below it. -/
theorem reads_list {xs : List Json} {bound depth : Nat} {input rest : Octets}
    (h : ∀ depth, Reads sure (depthItems xs ≤ depth) xs rest
      (elements (value bound depth) bound true input)) :
    Reads sure ((Json.arr xs).depth ≤ depth) (.arr xs) rest
      (value bound depth (Octet.openBracket :: input)) := by
  have hscalar : scalar? Octet.openBracket input = none := rfl
  have hquote : Octet.openBracket ≠ Octet.quote := by decide
  cases depth with
  | zero =>
      rw [value, skipBlank_cons (by decide)]
      simp only [hscalar, if_neg hquote, if_true]
      exact .tooDeep (by simp [Json.depth]) _
  | succ depth =>
      rw [value, skipBlank_cons (by decide)]
      simp only [hscalar, if_neg hquote, if_true]
      refine ((h depth).map Json.arr).congr ?_
      rw [Json.depth, Nat.add_le_add_iff_right]

theorem readsIf_arr {xs : List Json} (h : ∀ x ∈ xs, ReadsIf sure x x) :
    ReadsIf sure (.arr xs) (.arr xs) := by
  constructor
  · cases xs <;> exact ⟨_, _, by rw [write, Utf8.encode_cons]; rfl, by decide, by decide⟩
  · intro bound depth rest hbound _
    obtain _ | bound := bound
    · exact absurd hbound (Nat.not_lt_zero _)
    cases xs with
    | nil => exact reads_list fun depth => .same _ (Nat.zero_le depth)
    | cons x xs =>
        obtain ⟨hx, hxs⟩ := List.forall_mem_cons.mp h
        obtain ⟨b, tail, hwrite, hblank, hclose⟩ := hx.head
        have hinput : encode (write (.arr (x :: xs))) =
            Octet.openBracket :: (encode (write x) ++ encode (writeItems xs)) := by
          rw [write, Utf8.encode_cons, Utf8.encode_append]
          rfl
        rw [hinput, List.length_cons, List.length_append] at hbound
        rw [hinput, List.cons_append, List.append_assoc]
        refine reads_list fun depth => ?_
        apply reads_elements hx _ (by omega)
          (reads_writeItems hxs (by omega) (by omega))
        rw [hwrite, List.cons_append]
        exact ListStep.read_first hblank hclose _

/-! ## Objects -/

theorem settles_writeMembers (ms : List (String × Json)) (rest : Octets) :
    Settles (encode (writeMembers ms) ++ rest) := by
  cases ms <;> exact settles_cons (by decide) (by decide) (by decide)

theorem ObjectStep.read_first {k : String} {bound : Nat}
    (hbound : (encode (quote k)).length < bound) (rest : Octets) :
    ObjectStep.read bound true (encode (quote k) ++ rest) = .ok (.member k rest) := by
  rw [encode_quote, List.cons_append, List.append_assoc, List.singleton_append,
    ObjectStep.read, skipBlank_cons (by decide)]
  have hbrace : Octet.quote ≠ Octet.closeBrace := by decide
  simp only [if_neg hbrace, if_true, stringBody_escaped k rest hbound, ok_bind]
  rfl

theorem ObjectStep.read_next {k : String} {bound : Nat}
    (hbound : (encode (quote k)).length < bound) (rest : Octets) :
    ObjectStep.read bound false (Octet.comma :: (encode (quote k) ++ rest)) =
      .ok (.member k rest) := by
  rw [encode_quote, List.cons_append, List.append_assoc, List.singleton_append,
    ObjectStep.read, skipBlank_cons (by decide)]
  have hbrace : Octet.comma ≠ Octet.closeBrace := by decide
  simp only [if_neg hbrace, Bool.false_eq_true, if_false, if_true]
  rw [skipBlank_cons (by decide)]
  simp only [if_true, stringBody_escaped k rest hbound, ok_bind]
  rfl

def afterKey (x : Json) (ms : List (String × Json)) (rest : Octets) : Octets :=
  Octet.colon :: (encode (write x) ++ (encode (writeMembers ms) ++ rest))

theorem reads_members {k : String} {x : Json} {ms : List (String × Json)}
    (hx : ReadsIf sure x x) {bound depth steps : Nat} {first : Bool} {input rest : Octets}
    (hstep : ObjectStep.read (steps + 1) first input = .ok (.member k (afterKey x ms rest)))
    (hbound : (encode (write x)).length < bound)
    (hms : Reads sure (depthMembers ms ≤ depth) ms rest
      (members (value bound depth) steps false (encode (writeMembers ms) ++ rest))) :
    Reads sure (depthMembers ((k, x) :: ms) ≤ depth) ((k, x) :: ms) rest
      (members (value bound depth) (steps + 1) first input) := by
  have hcolon : afterColon (afterKey x ms rest) =
      .ok (encode (write x) ++ (encode (writeMembers ms) ++ rest)) := by
    rw [afterKey, afterColon, skipBlank_cons (by decide)]
    simp only [if_true]
  rw [members, hstep, ok_bind]
  simp only [hcolon, ok_bind]
  have hhead : Reads sure (x.depth ≤ depth) x (encode (writeMembers ms) ++ rest)
      (value bound depth (encode (write x) ++ (encode (writeMembers ms) ++ rest))) :=
    hx.reads hbound (settles_writeMembers ms rest)
  have hrest := fun y (hy : sure → y = x) =>
    (hms.map ((k, y) :: ·)).of_eq fun hs => congrArg (fun y => (k, y) :: ms) (hy hs)
  refine (hhead.bind hrest).congr ?_
  rw [depthMembers, Nat.max_le]

theorem reads_writeMembers {ms : List (String × Json)} (h : ∀ m ∈ ms, ReadsIf sure m.2 m.2)
    {bound depth steps : Nat} {rest : Octets}
    (hbound : (encode (writeMembers ms)).length < bound)
    (hsteps : (encode (writeMembers ms)).length < steps) :
    Reads sure (depthMembers ms ≤ depth) ms rest
      (members (value bound depth) steps false (encode (writeMembers ms) ++ rest)) := by
  -- As with the items of a list, the text has an octet for every step.
  induction ms generalizing steps with
  | nil =>
      obtain _ | steps := steps
      · exact absurd hsteps (Nat.not_lt_zero _)
      · exact .same _ (Nat.zero_le depth)
  | cons m ms ih =>
      obtain ⟨k, x⟩ := m
      obtain _ | steps := steps
      · exact absurd hsteps (Nat.not_lt_zero _)
      have hinput : encode (writeMembers ((k, x) :: ms)) = Octet.comma ::
          (encode (quote k) ++ Octet.colon ::
            (encode (write x) ++ encode (writeMembers ms))) := by
        rw [writeMembers, Utf8.encode_cons, Utf8.encode_append, Utf8.encode_cons,
          Utf8.encode_append]
        rfl
      rw [hinput] at hbound hsteps ⊢
      simp only [List.length_cons, List.length_append] at hbound hsteps
      obtain ⟨hx : ReadsIf sure x x, hms⟩ := List.forall_mem_cons.mp h
      apply reads_members hx _ (by omega) (ih hms (by omega) (by omega))
      rw [List.cons_append, List.append_assoc, List.cons_append, List.append_assoc]
      exact ObjectStep.read_next (by omega) _

theorem reads_object {ms : List (String × Json)} {bound depth : Nat} {input rest : Octets}
    (h : ∀ depth, Reads sure (depthMembers ms ≤ depth) ms rest
      (members (value bound depth) bound true input)) :
    Reads sure ((Json.obj ms).depth ≤ depth) (object ms) rest
      (value bound depth (Octet.openBrace :: input)) := by
  have hscalar : scalar? Octet.openBrace input = none := rfl
  have hquote : Octet.openBrace ≠ Octet.quote := by decide
  have hbracket : Octet.openBrace ≠ Octet.openBracket := by decide
  cases depth with
  | zero =>
      rw [value, skipBlank_cons (by decide)]
      simp only [hscalar, if_neg hquote, if_neg hbracket, if_true]
      exact .tooDeep (by simp [Json.depth]) _
  | succ depth =>
      rw [value, skipBlank_cons (by decide)]
      simp only [hscalar, if_neg hquote, if_neg hbracket, if_true]
      refine ((h depth).map object).congr ?_
      rw [Json.depth, Nat.add_le_add_iff_right]

/-- The members of an object may be written in any order. -/
theorem readsIf_object {ms : List (String × Json)} (h : ∀ m ∈ ms, ReadsIf sure m.2 m.2) :
    ReadsIf sure (.obj ms) (object ms) := by
  constructor
  · cases ms <;> exact ⟨_, _, by rw [write, Utf8.encode_cons]; rfl, by decide, by decide⟩
  · intro bound depth rest hbound _
    obtain _ | bound := bound
    · exact absurd hbound (Nat.not_lt_zero _)
    cases ms with
    | nil =>
        have hnone : ∀ depth, Reads sure (depthMembers [] ≤ depth) [] rest
            (members (value (bound + 1) depth) (bound + 1) true
              (Octet.closeBrace :: rest)) :=
          fun depth => .same _ (Nat.zero_le depth)
        exact reads_object hnone
    | cons m ms =>
        obtain ⟨k, x⟩ := m
        obtain ⟨hx : ReadsIf sure x x, hms⟩ := List.forall_mem_cons.mp h
        have hinput : encode (write (.obj ((k, x) :: ms))) = Octet.openBrace ::
            (encode (quote k) ++ Octet.colon ::
              (encode (write x) ++ encode (writeMembers ms))) := by
          rw [write, Utf8.encode_cons, Utf8.encode_append, Utf8.encode_cons,
            Utf8.encode_append]
          rfl
        rw [hinput] at hbound ⊢
        simp only [List.length_cons, List.length_append] at hbound
        rw [List.cons_append, List.append_assoc, List.cons_append, List.append_assoc]
        refine reads_object fun depth => ?_
        apply reads_members hx (ObjectStep.read_first (by omega) _) (by omega)
          (reads_writeMembers hms (by omega) (by omega))

/-! ## All values -/

mutual

/-- Of the text of any value it is sure what is read, if anything, as long as the value is exact. -/
theorem readsIf_exact : (v : Json) → ReadsIf v.Exact v v
  | .null => readsBack_null.mono fun _ => trivial
  | .bool b => (readsBack_bool b).mono fun _ => trivial
  | .int n => (readsIf_int n).mono fun | .int h => h
  | .float x => (readsIf_float x).mono nofun
  | .str s => (readsBack_str s).mono fun _ => trivial
  | .arr xs => readsIf_arr fun x hx => (readsIf_exact_items xs x hx).mono fun | .arr h => h x hx
  | .obj ms => by
      have hms : ∀ m ∈ ms, ReadsIf (Json.obj ms).Exact m.2 m.2 :=
        fun m hm => (readsIf_exact_members ms m hm).mono fun | .obj _ h => h m hm
      exact (readsIf_object hms).of_eq fun | .obj hkeys _ => object_of_ascending hkeys

theorem readsIf_exact_items : (xs : List Json) → ∀ x ∈ xs, ReadsIf x.Exact x x
  | [] => List.forall_mem_nil _
  | x :: xs => List.forall_mem_cons.mpr ⟨readsIf_exact x, readsIf_exact_items xs⟩

theorem readsIf_exact_members : (ms : List (String × Json)) → ∀ m ∈ ms, ReadsIf m.2.Exact m.2 m.2
  | [] => List.forall_mem_nil _
  | (_, x) :: ms => List.forall_mem_cons.mpr ⟨readsIf_exact x, readsIf_exact_members ms⟩

end

theorem Exact.readsBack {v : Json} (h : v.Exact) : ReadsBack v :=
  (readsIf_exact v).mono fun _ => h

/-! ## Whole texts -/

theorem ReadsIf.reads_text {written v : Json} (h : ReadsIf sure written v) :
    Reads sure (written.depth ≤ maxDepth) v []
      (value ((Octets.ofString written.text).length + 1) maxDepth (.ofString written.text)) := by
  have hoctets : Octets.ofString written.text = encode (write written) ++ [] := by
    rw [Octets.ofString, text, String.toList_ofList, List.append_nil]
  rw [hoctets]
  exact h.reads (by simp) settles_nil

/-- A text reads as a value exactly as long as it nests within the limit. -/
theorem ReadsIf.parse_text {written v : Json} (h : ReadsAs written v) :
    (written.depth ≤ maxDepth → parse (.ofString written.text) = .ok v) ∧
    (maxDepth < written.depth →
      ∃ position, parse (.ofString written.text) =
        .error ⟨.syntaxFault .tooDeep, some position⟩) := by
  have hreads := h.reads_text
  rw [parse, readAll]
  generalize value _ maxDepth (.ofString written.text) = r at hreads
  cases hreads with
  | whole hfits hsure =>
      rw [hsure trivial]
      exact ⟨fun _ => rfl, fun hdeep => absurd hfits (Nat.not_le.mpr hdeep)⟩
  | tooDeep hdeep unread => exact ⟨fun hfits => absurd hfits hdeep, fun _ => ⟨_, rfl⟩⟩
  | failed hnot => exact absurd trivial hnot

/-- The text of a value that nests too deep is not read, whatever else is in it. -/
theorem not_parse_text (v : Json) (h : maxDepth < v.depth) :
    ∃ fault, parse (.ofString v.text) = .error fault := by
  have hreads := (readsIf_exact v).reads_text
  rw [parse, readAll]
  generalize value _ maxDepth (.ofString v.text) = r at hreads
  cases hreads with
  | whole hfits => exact absurd hfits (Nat.not_le.mpr h)
  | tooDeep => exact ⟨_, rfl⟩
  | failed => exact ⟨_, rfl⟩

end JsonRpc.Json
