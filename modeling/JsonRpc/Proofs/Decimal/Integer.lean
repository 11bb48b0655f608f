import Mathlib.Data.List.Induction
import JsonRpc.Decimal.Layout
import JsonRpc.Decimal.Reading

/-!
# Integers as texts

People write integers with a sign or without, and with zeros in front if they
like.  JSON writes each integer in one way only: without a plus sign, and with a
zero in front only where it is the whole number.  Apart from a zero with a minus
sign, an integer that is written in JSON is written as it is printed.
-/

namespace JsonRpc.Decimal

def Digits (ds : List Char) : Prop := ds ≠ [] ∧ ∀ d ∈ ds, d.isDigit = true

/-- Digits, perhaps after one sign, and the integer that they denote. -/
inductive Denotes : List Char → Int → Prop where
  | unsigned {ds : List Char} (h : Digits ds) : Denotes ds (Nat.ofDigitChars 10 ds 0)
  | plus {ds : List Char} (h : Digits ds) : Denotes ('+' :: ds) (Nat.ofDigitChars 10 ds 0)
  | minus {ds : List Char} (h : Digits ds) : Denotes ('-' :: ds) (-Nat.ofDigitChars 10 ds 0)

/-- An integer as it is written in JSON: digits without a needless zero in front, perhaps after a
minus sign. -/
inductive Literal : List Char → Int → Prop where
  | unsigned {ds : List Char} (h : Digits ds) (hzero : ds.head? = some '0' → ds = ['0']) :
      Literal ds (Nat.ofDigitChars 10 ds 0)
  | minus {ds : List Char} (h : Digits ds) (hzero : ds.head? = some '0' → ds = ['0']) :
      Literal ('-' :: ds) (-Nat.ofDigitChars 10 ds 0)

variable {cs ds : List Char} {n : Int}

theorem digits_iff : Digits ds ↔ ¬(ds.isEmpty || !ds.all Char.isDigit) = true := by
  simp [Digits]

instance : Decidable (Digits ds) := decidable_of_iff _ digits_iff.symm

theorem ofDigits_eq (ds : List Char) : Text.ofDigits ds = Nat.ofDigitChars 10 ds 0 := by
  rw [Text.ofDigits, Nat.ofDigitChars_eq_foldl]
  simp only [Nat.mul_comm]

theorem digits_toDigits (n : Nat) : Digits (Nat.toDigits 10 n) :=
  ⟨Nat.toDigits_ne_nil, fun _ hd => Nat.isDigit_of_mem_toDigits (by decide) (by decide) hd⟩

/-! ## Read -/

theorem denotes_iff : Denotes cs n ↔ Digits (splitSign cs).2 ∧
    n = if (splitSign cs).1 then -(Text.ofDigits (splitSign cs).2 : Int)
      else Text.ofDigits (splitSign cs).2 := by
  have hsign : ∀ sign rest, sign.isDigit = false → ¬Digits (sign :: rest) := by
    intro sign rest hsign h
    rw [h.2 sign List.mem_cons_self] at hsign
    cases hsign
  constructor
  · intro h
    cases h with
    | unsigned h =>
        -- A text of digits alone has no sign to be taken off.
        have hsplit : splitSign cs = (false, cs) := by
          unfold splitSign
          split
          · exact absurd h (hsign '-' _ rfl)
          · exact absurd h (hsign '+' _ rfl)
          · rfl
        rw [hsplit, ofDigits_eq]
        exact ⟨h, rfl⟩
    | plus h => exact ⟨h, by rw [splitSign, ofDigits_eq]; rfl⟩
    | minus h => exact ⟨h, by rw [splitSign, ofDigits_eq]; rfl⟩
  · unfold splitSign
    split
    · rintro ⟨h, rfl⟩
      rw [ofDigits_eq]
      exact .minus h
    · rintro ⟨h, rfl⟩
      rw [ofDigits_eq]
      exact .plus h
    · rintro ⟨h, rfl⟩
      rw [ofDigits_eq]
      exact .unsigned h

theorem signed?_eq_some_iff : signed? cs = some n ↔ Denotes cs n ∧ Json.FitsSigned n := by
  rw [denotes_iff, signed?]
  obtain ⟨negative, ds⟩ := splitSign cs
  dsimp only
  by_cases hdigits : Digits ds
  · rw [if_neg (digits_iff.1 hdigits), Option.ite_none_right_eq_some, Option.some.injEq]
    constructor
    · rintro ⟨hfits, rfl⟩
      exact ⟨⟨hdigits, rfl⟩, hfits⟩
    · rintro ⟨⟨-, rfl⟩, hfits⟩
      exact ⟨hfits, rfl⟩
  · rw [if_pos (Classical.not_not.1 (mt digits_iff.2 hdigits))]
    simp [hdigits]

/-! ## Printed -/

theorem denotes_integer (n : Int) : Denotes (integer n) n := by
  rw [integer]
  split
  · have hdenotes := Denotes.minus (digits_toDigits n.natAbs)
    rw [Nat.ofDigitChars_ten_toDigits] at hdenotes
    rwa [show -(n.natAbs : Int) = n by omega] at hdenotes
  · have hdenotes := Denotes.unsigned (digits_toDigits n.natAbs)
    rw [Nat.ofDigitChars_ten_toDigits] at hdenotes
    rwa [show (n.natAbs : Int) = n by omega] at hdenotes

theorem toDigits_digit {d : Char} (h : d.isDigit = true) :
    Nat.toDigits 10 (d.toNat - '0'.toNat) = [d] := by
  have hall : ∀ k < 10, Nat.toDigits 10 k = [Char.ofNat ('0'.toNat + k)] := by decide
  rw [Char.isDigit_iff_toNat] at h
  have hlow : '0'.toNat ≤ d.toNat := h.1
  have hhigh : d.toNat ≤ '9'.toNat := h.2
  rw [hall _ (Nat.sub_lt_left_of_lt_add hlow (Nat.lt_of_le_of_lt hhigh (by decide))),
    Nat.add_sub_cancel' hlow, Char.ofNat_toNat]

/-- Digits that are appended to a number other than zero are printed after it. -/
theorem toDigits_ofDigitChars_of_pos (hds : ∀ d ∈ ds, d.isDigit = true) {k : Nat} (hk : 0 < k) :
    Nat.toDigits 10 (Nat.ofDigitChars 10 ds k) = Nat.toDigits 10 k ++ ds := by
  induction ds generalizing k with
  | nil => rw [Nat.ofDigitChars_nil, List.append_nil]
  | cons d ds ih =>
      obtain ⟨hd, hrest⟩ := List.forall_mem_cons.mp hds
      have hlt : d.toNat - '0'.toNat < 10 := by
        rw [Char.isDigit_iff_toNat] at hd
        exact Nat.sub_lt_left_of_lt_add hd.1 (Nat.lt_of_le_of_lt hd.2 (by decide))
      rw [Nat.ofDigitChars_cons, ih hrest (by omega),
        ← Nat.toDigits_append_toDigits (by decide) hk hlt, toDigits_digit hd, List.append_assoc,
        List.singleton_append]

/-- Digits without a needless zero in front are those that their number is printed with. -/
theorem toDigits_ofDigitChars (h : Digits ds) (hzero : ds.head? = some '0' → ds = ['0']) :
    Nat.toDigits 10 (Nat.ofDigitChars 10 ds 0) = ds := by
  obtain ⟨hne, hall⟩ := h
  cases ds with
  | nil => exact absurd rfl hne
  | cons d ds =>
      obtain ⟨hd, hrest⟩ := List.forall_mem_cons.mp hall
      by_cases hfirst : d = '0'
      · rw [hzero (congrArg some hfirst)]
        rfl
      · have hpos : 0 < d.toNat - '0'.toNat := by
          rw [Char.isDigit_iff_toNat] at hd
          have hne : d.toNat ≠ '0'.toNat := fun heq => hfirst (Char.toNat_inj.mp heq)
          have hlow : '0'.toNat ≤ d.toNat := hd.1
          omega
        rw [Nat.ofDigitChars_cons, Nat.mul_zero, Nat.zero_add,
          toDigits_ofDigitChars_of_pos hrest hpos, toDigits_digit hd, List.singleton_append]

theorem Literal.denotes (h : Literal cs n) : Denotes cs n := by
  cases h with
  | unsigned h => exact .unsigned h
  | minus h => exact .minus h

theorem Literal.eq_integer (h : Literal cs n) (hcs : cs ≠ ['-', '0']) : cs = integer n := by
  cases h with
  | unsigned h hzero =>
      rw [integer, if_neg (by omega), Int.natAbs_natCast, toDigits_ofDigitChars h hzero]
  | @minus ds h hzero =>
      have hprinted := toDigits_ofDigitChars h hzero
      have hpos : 0 < Nat.ofDigitChars 10 ds 0 := by
        apply Nat.pos_of_ne_zero
        intro hvalue
        rw [hvalue, Nat.toDigits_zero] at hprinted
        exact hcs (by rw [← hprinted])
      rw [integer, if_pos (by omega), Int.natAbs_neg, Int.natAbs_natCast, hprinted]

end JsonRpc.Decimal
