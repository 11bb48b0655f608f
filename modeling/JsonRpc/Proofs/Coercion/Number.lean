import JsonRpc.Proofs.Coercion
import JsonRpc.Proofs.Decimal.Integer
import JsonRpc.Proofs.Json.RoundTrip

/-!
# Texts of numbers

A number that is written as an integer stays one as long as it fits a signed
word.  All other texts are floats or no numbers.  An integer that is written as
JSON writes it has the same value whether it is read as a number or as JSON;
only zero with a minus sign is two different numbers.
-/

namespace JsonRpc

open Decimal (Denotes Literal)

variable {s : String} {n : Int}

theorem coerceNumber_eq_int_iff :
    coerceNumber s = .ok (.int n) ↔ Denotes s.toList n ∧ Json.FitsSigned n := by
  rw [← Decimal.signed?_eq_some_iff, coerceNumber]
  split
  · next m hm => simp [hm]
  · next hnone =>
      simp only [hnone, reduceCtorEq, iff_false]
      split
      · exact nofun
      · split <;> exact nofun

/-- A text that is no integer is a finite float, or the error repeats it. -/
theorem coerceNumber_of_not_int (h : ∀ n, coerceNumber s ≠ .ok (.int n)) :
    (∃ x : Float, x.isFinite = true ∧ coerceNumber s = .ok (.float x)) ∨
      ∃ reason, coerceNumber s = .error (.coercion s "num" reason) := by
  unfold coerceNumber at h ⊢
  split
  · next n hn =>
      rw [hn] at h
      exact absurd rfl (h n)
  · split
    · exact .inr ⟨_, rfl⟩
    · next x _ =>
        split
        · next hfinite => exact .inl ⟨x, hfinite, rfl⟩
        · exact .inr ⟨_, rfl⟩

namespace TypeTag

/-- The tags whose texts are JSON. -/
def Structured (tag : TypeTag) : Prop := tag = .arr ∨ tag = .obj ∨ tag = .any

variable {tag : TypeTag}

theorem Structured.coerce_eq (h : tag.Structured) (s : String) :
    tag.coerce s = (Json.parseText s).mapError fun fault =>
      .coercion s tag.name fault.message := by
  obtain rfl | rfl | rfl := h <;>
    · rw [coerce]
      cases Json.parseText s <;> rfl

theorem Structured.coerce_text (h : tag.Structured) {v : Json} (hv : v.Exact)
    (hdepth : v.depth ≤ 127) : tag.coerce v.text = .ok v := by
  have hparse : Json.parseText v.text = .ok v := hv.readsBack.parse_text.1 hdepth
  rw [h.coerce_eq, hparse]
  rfl

theorem coerce_num_integer (hn : Json.FitsSigned n) :
    num.coerce (Json.int n).text = .ok (.int n) := by
  refine coerceNumber_eq_int_iff.2 ⟨?_, hn⟩
  rw [Json.text, String.toList_ofList, Json.write]
  exact Decimal.denotes_integer n

end TypeTag

/-- A text is an integer exactly if it is written as one that fits a signed word, and it is that
integer.  Any other text is a finite float, or it is repeated in an error of coercion.  What JSON
writes as an integer of a signed word is read alike by the tags whose texts are JSON, but for zero
with a minus sign. -/
theorem coerce_num_exact (s : String) :
    (∀ n, coerce s "num" = .ok (.int n) ↔ Denotes s.toList n ∧ Json.FitsSigned n) ∧
    ((∀ n, ¬(Denotes s.toList n ∧ Json.FitsSigned n)) →
      (∃ x : Float, x.isFinite = true ∧ coerce s "num" = .ok (.float x)) ∨
        ∃ reason, coerce s "num" = .error (.coercion s "num" reason)) ∧
    ∀ n, Literal s.toList n → Json.FitsSigned n → s ≠ "-0" →
      ∀ tag : TypeTag, tag.Structured → coerce s tag.name = coerce s "num" := by
  have hnum : coerce s "num" = coerceNumber s := TypeTag.coerce_name .num s
  rw [hnum]
  refine ⟨fun n => coerceNumber_eq_int_iff, fun hnot => ?_, ?_⟩
  · exact coerceNumber_of_not_int fun n hn => hnot n (coerceNumber_eq_int_iff.1 hn)
  · intro n hliteral hn hzero tag htag
    have hs : s = (Json.int n).text := by
      have hprinted := hliteral.eq_integer fun h => hzero (String.toList_inj.1 h)
      rw [Json.text, Json.write, ← hprinted, String.ofList_toList]
    rw [TypeTag.coerce_name, hs, htag.coerce_text (.int hn.holds) (Nat.zero_le _)]
    exact (TypeTag.coerce_num_integer hn).symm

/-- The least integer of a signed word, and the one beyond the greatest. -/
theorem coerce_num_exact_at_limits :
    Literal "-9223372036854775808".toList (-0x8000000000000000) ∧
      coerce "-9223372036854775808" "num" = .ok (.int (-0x8000000000000000)) ∧
      coerce "-9223372036854775808" "arr" = coerce "-9223372036854775808" "num" ∧
      (∀ n, ¬(Denotes "9223372036854775808".toList n ∧ Json.FitsSigned n)) ∧
      ((∃ x : Float, x.isFinite = true ∧ coerce "9223372036854775808" "num" = .ok (.float x)) ∨
        ∃ reason, coerce "9223372036854775808" "num" =
          .error (.coercion "9223372036854775808" "num" reason)) := by
  have hleast : Literal "-9223372036854775808".toList (-0x8000000000000000) :=
    .minus (by decide) (by decide)
  have hbeyond : ∀ n, ¬(Denotes "9223372036854775808".toList n ∧ Json.FitsSigned n) := by
    intro n hn
    cases Decimal.signed?_eq_some_iff.2 hn
  obtain ⟨hint, -, hliteral⟩ := coerce_num_exact "-9223372036854775808"
  obtain ⟨-, hother, -⟩ := coerce_num_exact "9223372036854775808"
  refine ⟨hleast, (hint _).2 ⟨hleast.denotes, by decide⟩, ?_, hbeyond, hother hbeyond⟩
  exact hliteral _ hleast (by decide) (by decide) .arr (.inl rfl)

end JsonRpc
