import JsonRpc.Proofs.Decimal.Layout
import JsonRpc.Proofs.Json.Lexeme

/-!
# Numbers are read to their end

The text of a float need not read back as that float, and it may be a number
that is out of range.  Yet the reader goes through all of it and no further.  So
whatever becomes of a number, what stands after it is read from its start.
-/

namespace JsonRpc.Json

open Utf8 (encode encodeChar)
open Decimal (Digits ExponentText MagnitudeText NumberText)

/-- If something is read, `rest` is left. -/
def Leaves {α : Type} (rest : Octets) (r : Except Snag (α × Octets)) : Prop :=
  ∀ x left, r = .ok (x, left) → left = rest

variable {α : Type} {rest : Octets} {ds cs : List Char}

theorem leaves_ok (x : α) (rest : Octets) : Leaves rest (.ok (x, rest)) := by
  rintro y left ⟨⟩
  rfl

theorem leaves_error (snag : Snag) (rest : Octets) :
    Leaves (α := α) rest (.error snag) := nofun

theorem leaves_unless (p : Prop) [Decidable p] (snag : Snag) (x : α) (rest : Octets) :
    Leaves rest (if p then .error snag else .ok (x, rest)) := by
  split
  · exact leaves_error snag rest
  · exact leaves_ok x rest

theorem exists_octet (h : Digits ds) :
    ∃ b tail, encode ds = b :: tail ∧ Octet.isDigit b = true := by
  obtain ⟨hne, hall⟩ := h
  obtain ⟨d, ds, rfl⟩ := List.exists_cons_of_ne_nil hne
  obtain ⟨hoctet, hdigit, -⟩ := octet_of_isDigit (hall d List.mem_cons_self)
  exact ⟨Octet.ofChar d, encode ds, by rw [Utf8.encode_cons, hoctet]; rfl, hdigit⟩

/-- Digits are taken all at once. -/
theorem exists_digits (h : Digits ds) (hrest : EndsDigits rest) :
    ∃ b tail, encode ds ++ rest = b :: tail ∧ Octet.isDigit b = true ∧
      digits (b :: tail) = (ds.map digitValue, rest) := by
  obtain ⟨b, tail, hoctets, hdigit⟩ := exists_octet h
  have hinput : encode ds ++ rest = b :: (tail ++ rest) := by rw [hoctets, List.cons_append]
  exact ⟨b, _, hinput, hdigit, by rw [← hinput]; exact digits_encode h.2 hrest⟩

theorem leaves_exponentPart {sign : Char} (hsign : sign = '+' ∨ sign = '-') (h : Digits ds)
    (hrest : EndsDigits rest) (significand : Nat) (start : Int) :
    Leaves rest (exponentPart significand start (encode (sign :: ds) ++ rest)) := by
  obtain ⟨b, tail, hinput, hdigit, hread⟩ := exists_digits h hrest
  obtain ⟨octet, hoctet, hsign⟩ : ∃ octet, encodeChar sign = [octet] ∧
      (octet = Octet.plus ∨ octet = Octet.minus) := by
    obtain rfl | rfl := hsign
    · exact ⟨_, rfl, .inl rfl⟩
    · exact ⟨_, rfl, .inr rfl⟩
  rw [Utf8.encode_cons, hoctet, List.append_assoc, hinput, List.singleton_append]
  -- The sign decides the value of the exponent, and has no part in where its digits end.
  have hleft : (b :: tail).dropWhile Octet.isDigit = rest := congrArg Prod.snd hread
  obtain rfl | rfl := hsign <;>
    · change Leaves rest (if (!Octet.isDigit b) = true then _ else _)
      rw [hdigit, Bool.not_true, if_neg Bool.false_ne_true, hleft]
      split
      · exact leaves_ok _ _
      · exact leaves_unless _ _ _ _

theorem leaves_exponent? {e : List Char} (he : ExponentText e) (hrest : Settles rest)
    (significand : Nat) (start : Int) :
    Leaves rest (exponent? significand start (encode e ++ rest)) := by
  cases he with
  | none =>
      rw [Utf8.encode_nil, List.nil_append]
      cases rest with
      | nil => exact leaves_ok _ _
      | cons b rest =>
          obtain ⟨-, -, hmark⟩ := hrest b rfl
          simp only [exponent?, hmark, Bool.false_eq_true, if_false]
          exact leaves_ok _ _
  | @some sign ds hsign h =>
      have hinput : encode ('e' :: sign :: ds) ++ rest =
          Octet.ofChar 'e' :: (encode (sign :: ds) ++ rest) := rfl
      have hmark : isExponentMark (Octet.ofChar 'e') = true := by decide
      simp only [hinput, exponent?, hmark, if_true]
      exact leaves_exponentPart hsign h hrest.endsDigits significand start

theorem endsDigits_exponent {e : List Char} (he : ExponentText e) (hrest : Settles rest) :
    EndsDigits (encode e ++ rest) := by
  cases he with
  | none => exact hrest.endsDigits
  | some =>
      intro b hb
      cases hb
      rfl

theorem leaves_fractionPart {fs e : List Char} (hf : Digits fs) (he : ExponentText e)
    (hrest : Settles rest) (significand dropped : Nat) :
    Leaves rest (fractionPart significand dropped (encode (fs ++ e) ++ rest)) := by
  obtain ⟨b, tail, hinput, -, hread⟩ := exists_digits hf (endsDigits_exponent he hrest)
  obtain ⟨d, ds, hds⟩ := List.exists_cons_of_ne_nil hf.1
  rw [Utf8.encode_append, List.append_assoc, hinput]
  simp only [fractionPart, hread, hds, List.map_cons]
  exact leaves_exponent? he hrest _ _

/-- After the digits of a number there is no point, and there is nothing more of it unless there is
the mark of an exponent. -/
theorem after_whole {e : List Char} (he : ExponentText e) (hrest : Settles rest) :
    (∀ left, encode e ++ rest ≠ Octet.point :: left) ∧
      ((encode e ++ rest).head?.any isExponentMark = false → encode e ++ rest = rest) := by
  cases he with
  | none =>
      refine ⟨?_, fun _ => rfl⟩
      rintro left rfl
      exact (hrest Octet.point rfl).2.1 rfl
  | some =>
      refine ⟨fun left h => ?_, fun h => ?_⟩
      · exact absurd (List.cons.inj h).1 (by decide)
      · cases h

theorem leaves_numeral (h : MagnitudeText cs) (hrest : Settles rest) :
    Leaves rest (numeral (encode cs ++ rest)) := by
  cases h with
  | @whole ds e h he =>
      obtain ⟨b, tail, hinput, hdigit, hread⟩ := exists_digits h (endsDigits_exponent he hrest)
      obtain ⟨hpoint, hunmarked⟩ := after_whole he hrest
      have hexponent := leaves_exponent? he hrest
      rw [Utf8.encode_append, List.append_assoc, hinput]
      simp only [numeral, hdigit, hread, Bool.not_true, Bool.false_eq_true, if_false]
      generalize encode e ++ rest = next at hpoint hunmarked hexponent
      split
      · exact leaves_error _ _
      split
      · exact absurd rfl (hpoint _)
      · split
        · next hwhole =>
            rw [hunmarked (by simpa using (Bool.and_eq_true_iff.1 hwhole).2)]
            exact leaves_ok _ _
        · exact hexponent _ _
  | @fraction ds fs e h hf he =>
      have hpoint : EndsDigits (encode ('.' :: (fs ++ e)) ++ rest) := by
        intro b hb
        cases hb
        rfl
      obtain ⟨b, tail, hinput, hdigit, hread⟩ := exists_digits h hpoint
      rw [Utf8.encode_append, List.append_assoc, hinput]
      simp only [numeral, hdigit, hread, Bool.not_true, Bool.false_eq_true, if_false]
      split
      · exact leaves_error _ _
      · exact leaves_fractionPart hf he hrest _ _

theorem leaves_number (negative : Bool) (h : MagnitudeText cs) (hrest : Settles rest) :
    Leaves rest (number negative (encode cs ++ rest)) := by
  intro v left hread
  rw [number] at hread
  cases hnumeral : numeral (encode cs ++ rest) with
  | error snag =>
      rw [hnumeral] at hread
      cases hread
  | ok read =>
      obtain ⟨n, left'⟩ := read
      rw [hnumeral, ok_bind] at hread
      cases hvalue : n.toJson? negative with
      | none =>
          simp only [hvalue] at hread
          cases hread
      | some w =>
          simp only [hvalue] at hread
          cases hread
          exact leaves_numeral h hrest n left hnumeral

/-- A number is looked for where its text starts, and nothing but its text is taken. -/
theorem exists_scalar?_number (h : NumberText cs) (hrest : Settles rest) :
    ∃ b tail r, encode cs = b :: tail ∧ Octet.isBlank b = false ∧ b ≠ Octet.closeBracket ∧
      scalar? b (tail ++ rest) = some r ∧ Leaves rest r := by
  cases h with
  | @minus cs h =>
      exact ⟨Octet.minus, encode cs, _, rfl, by decide, by decide, rfl, leaves_number true h hrest⟩
  | unsigned h =>
      obtain ⟨b, tail, hinput, hdigit⟩ :
          ∃ b tail, encode cs = b :: tail ∧ Octet.isDigit b = true := by
        obtain ⟨ds, more, hdigits, rfl⟩ := h.exists_digits
        obtain ⟨b, tail, hoctets, hdigit⟩ := exists_octet hdigits
        exact ⟨b, tail ++ encode more, by rw [Utf8.encode_append, hoctets]; rfl, hdigit⟩
      have hleaves := leaves_number false h hrest
      rw [hinput, List.cons_append] at hleaves
      exact ⟨b, tail, _, hinput, Octet.isBlank_of_isDigit hdigit,
        Octet.ne_of_isDigit hdigit (by decide), scalar?_of_isDigit hdigit _, hleaves⟩

end JsonRpc.Json
