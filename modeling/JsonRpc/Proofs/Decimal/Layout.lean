import JsonRpc.Proofs.Decimal.Integer

/-!
# What printed numbers look like

Whatever a number is, its text has one of few forms: digits, perhaps a point
and more digits, perhaps an exponent with its sign, and a minus sign in front of
all where the number is negative.  A reader of numbers needs to know no more of
the text than this to get to its end.
-/

namespace JsonRpc.Decimal

inductive ExponentText : List Char → Prop where
  | none : ExponentText []
  | some {sign : Char} {ds : List Char} (hsign : sign = '+' ∨ sign = '-') (h : Digits ds) :
      ExponentText ('e' :: sign :: ds)

inductive MagnitudeText : List Char → Prop where
  | whole {ds e : List Char} (h : Digits ds) (he : ExponentText e) : MagnitudeText (ds ++ e)
  | fraction {ds fs e : List Char} (h : Digits ds) (hf : Digits fs) (he : ExponentText e) :
      MagnitudeText (ds ++ '.' :: (fs ++ e))

inductive NumberText : List Char → Prop where
  | unsigned {cs : List Char} (h : MagnitudeText cs) : NumberText cs
  | minus {cs : List Char} (h : MagnitudeText cs) : NumberText ('-' :: cs)

variable {cs ds ds' fs : List Char}

theorem Digits.append (h : Digits ds) (h' : ∀ d ∈ ds', d.isDigit = true) : Digits (ds ++ ds') := by
  refine ⟨List.append_ne_nil_of_left_ne_nil h.1 _, fun d hd => ?_⟩
  rcases List.mem_append.1 hd with hd | hd
  · exact h.2 d hd
  · exact h' d hd

theorem isDigit_of_mem_replicate {k : Nat} {d : Char} (h : d ∈ List.replicate k '0') :
    d.isDigit = true := by
  rw [(List.mem_replicate.1 h).2]
  rfl

theorem digits_zero : Digits ['0'] := by decide

theorem magnitudeText_digits (h : Digits ds) : MagnitudeText ds := by
  have hwhole := MagnitudeText.whole h .none
  rwa [List.append_nil] at hwhole

theorem magnitudeText_fraction (h : Digits ds) (hf : Digits fs) :
    MagnitudeText (ds ++ '.' :: fs) := by
  have hfraction := MagnitudeText.fraction h hf .none
  rwa [List.append_nil] at hfraction

theorem MagnitudeText.exists_digits (h : MagnitudeText cs) :
    ∃ ds more, Digits ds ∧ cs = ds ++ more := by
  cases h with
  | whole h => exact ⟨_, _, h, rfl⟩
  | fraction h => exact ⟨_, _, h, rfl⟩

theorem MagnitudeText.signed (h : MagnitudeText cs) (negative : Prop) [Decidable negative] :
    NumberText (if negative then '-' :: cs else cs) := by
  split
  · exact .minus h
  · exact .unsigned h

/-! ## Integers -/

theorem numberText_integer (n : Int) : NumberText (integer n) :=
  (magnitudeText_digits (digits_toDigits n.natAbs)).signed (n < 0)

/-! ## Floats -/

theorem Scientific.digits_ofGrid (n : Nat) (k : Int) : Digits (Scientific.ofGrid n k).digits := by
  rw [Scientific.ofGrid]
  split
  · exact digits_zero
  · next hkept =>
      refine ⟨by simpa using hkept, fun d hd => ?_⟩
      have hmem := (List.dropWhile_suffix _).subset (List.mem_reverse.1 hd)
      exact (digits_toDigits n).2 d (List.mem_reverse.1 hmem)

theorem Binary.digits_shortestFrom (b : Binary) (top : Int) (more n : Nat) :
    Digits (b.shortestFrom top more n).digits := by
  induction more generalizing n with
  | zero => exact Scientific.digits_ofGrid _ _
  | succ more ih =>
      rw [shortestFrom]
      split
      · exact Scientific.digits_ofGrid _ _
      · exact ih (n + 1)

theorem Scientific.magnitudeText_positional {s : Scientific} (h : Digits s.digits) :
    MagnitudeText s.positional := by
  rw [positional]
  split
  · -- Below one there is a zero before the point and zeros after it.
    have hfraction : Digits (List.replicate ((-s.exponent).toNat - 1) '0' ++ s.digits) := by
      refine ⟨List.append_ne_nil_of_right_ne_nil _ h.1, fun d hd => ?_⟩
      rcases List.mem_append.1 hd with hd | hd
      · exact isDigit_of_mem_replicate hd
      · exact h.2 d hd
    exact magnitudeText_fraction digits_zero hfraction
  · have hwhole : Digits (s.digits.take (s.exponent.toNat + 1)) := by
      refine ⟨?_, fun d hd => h.2 d (List.mem_of_mem_take hd)⟩
      rw [ne_eq, List.take_eq_nil_iff]
      exact not_or.2 ⟨Nat.succ_ne_zero _, h.1⟩
    have hfraction : Digits (if (s.digits.drop (s.exponent.toNat + 1)).isEmpty then ['0']
        else s.digits.drop (s.exponent.toNat + 1)) := by
      split
      · exact digits_zero
      · next hdrop => exact ⟨by simpa using hdrop, fun d hd => h.2 d (List.mem_of_mem_drop hd)⟩
    exact magnitudeText_fraction (hwhole.append fun _ => isDigit_of_mem_replicate) hfraction

theorem Scientific.magnitudeText_exponential {s : Scientific} (h : Digits s.digits) :
    MagnitudeText s.exponential := by
  have hexponent : ∀ sign, sign = '+' ∨ sign = '-' →
      ExponentText ('e' :: sign :: Nat.toDigits 10 s.exponent.natAbs) :=
    fun sign hsign => .some hsign (digits_toDigits _)
  have hsign : (if s.exponent < 0 then '-' else '+') = '+' ∨
      (if s.exponent < 0 then '-' else '+') = '-' := by
    split <;> simp
  obtain ⟨digits, exponent⟩ := s
  rw [exponential]
  match digits, h with
  | [d], h => exact .whole h (hexponent _ hsign)
  | d :: d' :: ds, h =>
      obtain ⟨hd, hrest⟩ := List.forall_mem_cons.1 h.2
      have hfirst : Digits [d] := ⟨nofun, List.forall_mem_singleton.2 hd⟩
      exact .fraction hfirst ⟨nofun, hrest⟩ (hexponent _ hsign)

theorem Scientific.magnitudeText {s : Scientific} (h : Digits s.digits) : MagnitudeText s.text := by
  rw [text]
  split
  · exact magnitudeText_positional h
  · exact magnitudeText_exponential h

theorem numberText_ofFloat (x : Float) : NumberText (ofFloat x) := by
  rw [ofFloat]
  apply MagnitudeText.signed
  split
  · exact magnitudeText_fraction digits_zero digits_zero
  · next b _ => exact Scientific.magnitudeText (b.digits_shortestFrom _ _ _)

end JsonRpc.Decimal
