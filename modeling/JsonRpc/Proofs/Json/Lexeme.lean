import JsonRpc.Json.Reader
import JsonRpc.Json.Writer
import JsonRpc.Text.Utf8.Lemmas

/-!
# Strings and integers read back

The reader of a string undoes the writer character by character.  A character
that is written as itself may take several octets, none of which is a quote, a
backslash or a control character; an escaped one is a backslash and what it
announces.  Either way the reader takes at most one step for each octet, which
is why a bound beyond the number of octets never stops it.

An integer is a run of digits, so it reads back only where what follows does
not go on with a digit, a point or an exponent.
-/

namespace JsonRpc

@[simp] theorem ok_bind {ε α β : Type} (x : α) (f : α → Except ε β) :
    (Except.ok x >>= f) = f x := rfl

namespace Json

open Utf8 (encode encodeChar)

def prepend (octets : Octets) : Except Snag (Octets × Octets) → Except Snag (Octets × Octets) :=
  Except.map fun read => (octets ++ read.1, read.2)

/-- Octets that stand for themselves inside a string. -/
def Octet.Plain (b : UInt8) : Prop :=
  b ≠ Octet.quote ∧ b ≠ Octet.backslash ∧ ¬b < 0x20

theorem stringOctets_plain {bs : Octets} (hplain : ∀ b ∈ bs, Octet.Plain b)
    (bound : Nat) (input : Octets) :
    stringOctets (bs.length + bound) (bs ++ input) =
      prepend bs (stringOctets bound input) := by
  induction bs with
  | nil =>
      rw [List.length_nil, Nat.zero_add, List.nil_append]
      cases stringOctets bound input <;> rfl
  | cons b bs ih =>
      obtain ⟨hquote, hbackslash, hcontrol⟩ := hplain b List.mem_cons_self
      have hrest := ih fun b hb => hplain b (List.mem_cons_of_mem _ hb)
      rw [show (b :: bs).length + bound = (bs.length + bound) + 1 by
        simp only [List.length_cons]; omega]
      simp only [List.cons_append, stringOctets, if_neg hquote,
        if_neg hbackslash, if_neg hcontrol, hrest]
      cases stringOctets bound input <;> rfl

theorem Octet.plain_ofNat {n : Nat} (hlt : n < 256) (hquote : n ≠ 0x22)
    (hbackslash : n ≠ 0x5C) (hcontrol : 0x20 ≤ n) :
    Octet.Plain (UInt8.ofNat n) := by
  have hn := Utf8.toNat_ofNat_of_lt hlt
  refine ⟨?_, ?_, ?_⟩
  · intro h
    exact hquote (hn.symm.trans (congrArg UInt8.toNat h))
  · intro h
    exact hbackslash (hn.symm.trans (congrArg UInt8.toNat h))
  · rw [UInt8.lt_iff_toNat_lt, hn]
    exact Nat.not_lt.mpr hcontrol

theorem plain_of_mem_encodeChar {c : Char} (hquote : c ≠ '"')
    (hbackslash : c ≠ '\\') (hcontrol : ¬c.toNat < 0x20) :
    ∀ b ∈ encodeChar c, Octet.Plain b := by
  intro b hb
  have hlt := Utf8.toNat_lt c
  -- every octet of a longer sequence is beyond the seven-bit characters
  have hbeyond : ∀ n, 0x80 ≤ n → n < 256 → Octet.Plain (UInt8.ofNat n) :=
    fun n hle hn => Octet.plain_ofNat hn (by omega) (by omega) (by omega)
  simp only [encodeChar] at hb
  split at hb
  · rw [List.mem_singleton] at hb
    subst hb
    have hq : c.toNat ≠ '"'.toNat := fun h => hquote (Char.toNat_inj.mp h)
    have hs : c.toNat ≠ '\\'.toNat := fun h => hbackslash (Char.toNat_inj.mp h)
    exact Octet.plain_ofNat (by omega) hq hs (by omega)
  split at hb
  · simp only [List.mem_cons, List.not_mem_nil, or_false] at hb
    rcases hb with rfl | rfl <;> exact hbeyond _ (by omega) (by omega)
  split at hb
  · simp only [List.mem_cons, List.not_mem_nil, or_false] at hb
    rcases hb with rfl | rfl | rfl <;> exact hbeyond _ (by omega) (by omega)
  · simp only [List.mem_cons, List.not_mem_nil, or_false] at hb
    rcases hb with rfl | rfl | rfl | rfl <;> exact hbeyond _ (by omega) (by omega)

theorem stringOctets_letter {letter c : UInt8} (h : Octet.escaped? letter = some c)
    (bound : Nat) (input : Octets) :
    stringOctets (bound + 1) (Octet.backslash :: letter :: input) =
      prepend [c] (stringOctets bound input) := by
  rw [stringOctets, if_neg (by decide), if_pos rfl]
  simp only [h]
  cases stringOctets bound input <;> rfl

theorem hex?_hexDigit (n : Nat) : Octet.hex? (Octet.ofChar (hexDigit n)) = some (n % 16) := by
  have hall : ∀ d < 16, Octet.hex? (Octet.ofChar (Nat.digitChar d)) = some d := by decide
  exact hall (n % 16) (Nat.mod_lt n (by decide))

theorem unicodeEscape_control {c : Char} (hc : c.toNat < 0x20) (input : Octets) :
    unicodeEscape (Octet.ofChar '0' :: Octet.ofChar '0' ::
        Octet.ofChar (hexDigit (c.toNat / 16)) :: Octet.ofChar (hexDigit c.toNat) :: input) =
      .ok (c, input) := by
  have hzero : Octet.hex? (Octet.ofChar '0') = some 0 := by decide
  have hvalue : ((0 * 16 + 0) * 16 + c.toNat / 16 % 16) * 16 + c.toNat % 16 = c.toNat := by
    omega
  simp only [unicodeEscape, hexQuad, hzero, hex?_hexDigit, hvalue]
  have htrailing : isTrailingSurrogate c.toNat = false := by
    simp only [isTrailingSurrogate, decide_eq_false_iff_not]
    omega
  have hleading : isLeadingSurrogate c.toNat = false := by
    simp only [isLeadingSurrogate, decide_eq_false_iff_not]
    omega
  show (if isTrailingSurrogate c.toNat = true then _ else _) = _
  rw [htrailing, hleading, if_neg Bool.false_ne_true, if_neg Bool.false_ne_true,
    Char.ofNat_toNat]

/-- The written character `c` is read in a number of steps that its octets bound. -/
def EscapeReads (c : Char) : Prop :=
  ∃ steps, steps ≤ (encode (escape c)).length ∧
    ∀ bound input, stringOctets (steps + bound) (encode (escape c) ++ input) =
      prepend (encodeChar c) (stringOctets bound input)

theorem escapeReads_letter {c : Char} {letter octet : UInt8}
    (hescape : encode (escape c) = [Octet.backslash, letter])
    (hchar : encodeChar c = [octet]) (h : Octet.escaped? letter = some octet) :
    EscapeReads c := by
  refine ⟨1, by simp [hescape], ?_⟩
  intro bound input
  rw [hescape, hchar, Nat.add_comm]
  exact stringOctets_letter h bound input

theorem escapeReads_control {c : Char} (hc : c.toNat < 0x20)
    (hescape : escape c =
      ['\\', 'u', '0', '0', hexDigit (c.toNat / 16), hexDigit c.toNat]) :
    EscapeReads c := by
  have hdigit : ∀ n, encodeChar (hexDigit n) = [Octet.ofChar (hexDigit n)] := by
    intro n
    have hall : ∀ d < 16, (Nat.digitChar d).toNat < 0x80 := by decide
    exact Utf8.encodeChar_of_lt (hall (n % 16) (Nat.mod_lt n (by decide)))
  have hoctets : encode (escape c) = [Octet.backslash, Octet.ofChar 'u', Octet.ofChar '0',
      Octet.ofChar '0', Octet.ofChar (hexDigit (c.toNat / 16)),
      Octet.ofChar (hexDigit c.toNat)] := by
    rw [hescape]
    simp only [Utf8.encode_cons, Utf8.encode_nil, hdigit]
    rfl
  refine ⟨1, by simp [hoctets], ?_⟩
  intro bound input
  rw [hoctets, Nat.add_comm]
  simp only [List.cons_append, List.nil_append]
  rw [stringOctets, if_neg (by decide), if_pos rfl]
  have hletter : Octet.escaped? (Octet.ofChar 'u') = none := by decide
  simp only [hletter, if_true, unicodeEscape_control hc, ok_bind]
  cases stringOctets bound input <;> rfl

theorem escapeReads_plain {c : Char} (hescape : escape c = [c]) (hquote : c ≠ '"')
    (hbackslash : c ≠ '\\') (hcontrol : ¬c.toNat < 0x20) :
    EscapeReads c := by
  have hoctets : encode (escape c) = encodeChar c := by
    rw [hescape, Utf8.encode_cons, Utf8.encode_nil, List.append_nil]
  refine ⟨(encodeChar c).length, Nat.le_of_eq (congrArg List.length hoctets).symm, ?_⟩
  intro bound input
  rw [hoctets]
  exact stringOctets_plain (plain_of_mem_encodeChar hquote hbackslash hcontrol) bound input

theorem escapeReads (c : Char) : EscapeReads c := by
  by_cases hquote : c = '"'
  · subst hquote; exact escapeReads_letter rfl rfl (by decide)
  by_cases hbackslash : c = '\\'
  · subst hbackslash; exact escapeReads_letter rfl rfl (by decide)
  by_cases hb : c = '\x08'
  · subst hb; exact escapeReads_letter rfl rfl (by decide)
  by_cases ht : c = '\t'
  · subst ht; exact escapeReads_letter rfl rfl (by decide)
  by_cases hn : c = '\n'
  · subst hn; exact escapeReads_letter rfl rfl (by decide)
  by_cases hf : c = '\x0c'
  · subst hf; exact escapeReads_letter rfl rfl (by decide)
  by_cases hr : c = '\r'
  · subst hr; exact escapeReads_letter rfl rfl (by decide)
  by_cases hcontrol : c.toNat < 0x20
  · apply escapeReads_control hcontrol
    simp only [escape, hquote, hbackslash, hb, ht, hn, hf, hr, hcontrol, if_true, if_false]
  · apply escapeReads_plain _ hquote hbackslash hcontrol
    simp only [escape, hquote, hbackslash, hb, ht, hn, hf, hr, hcontrol, if_false]

theorem stringOctets_escaped (cs : List Char) (rest : Octets) {bound : Nat}
    (h : (encode (cs.flatMap escape)).length < bound) :
    stringOctets bound (encode (cs.flatMap escape) ++ Octet.quote :: rest) =
      .ok (encode cs, rest) := by
  induction cs generalizing bound with
  | nil =>
      obtain _ | bound := bound
      · exact absurd h (Nat.not_lt_zero _)
      · rfl
  | cons c cs ih =>
      obtain ⟨steps, hsteps, hread⟩ := escapeReads c
      rw [List.flatMap_cons, Utf8.encode_append] at h ⊢
      rw [List.length_append] at h
      have hbound : bound = steps + (bound - steps) := by omega
      rw [hbound, List.append_assoc, hread, ih (by omega), Utf8.encode_cons]
      rfl

theorem encode_quote (s : String) :
    encode (quote s) =
      Octet.quote :: (encode (s.toList.flatMap escape) ++ [Octet.quote]) := by
  rw [quote, Utf8.encode_cons, Utf8.encode_append]
  rfl

/-- A string reads back from what stands after its opening quote. -/
theorem stringBody_escaped (s : String) (rest : Octets) {bound : Nat}
    (h : (encode (quote s)).length < bound) :
    stringBody bound (encode (s.toList.flatMap escape) ++ Octet.quote :: rest) =
      .ok (s, rest) := by
  rw [encode_quote, List.length_cons, List.length_append] at h
  unfold stringBody
  rw [stringOctets_escaped s.toList rest (by omega)]
  simp only [ok_bind, Utf8.split_encode, String.ofList_toList]

/-! ## Integers -/

def EndsDigits (rest : Octets) : Prop := ∀ b ∈ rest.head?, Octet.isDigit b = false

/-- What follows a number does not go on with it. -/
def Settles (rest : Octets) : Prop :=
  ∀ b ∈ rest.head?, Octet.isDigit b = false ∧ b ≠ Octet.point ∧ isExponentMark b = false

theorem Settles.endsDigits {rest : Octets} (h : Settles rest) : EndsDigits rest :=
  fun b hb => (h b hb).1

theorem settles_nil : Settles [] := by
  intro b hb
  cases hb

theorem settles_cons {b : UInt8} {rest : Octets} (hdigit : Octet.isDigit b = false)
    (hpoint : b ≠ Octet.point) (hmark : isExponentMark b = false) :
    Settles (b :: rest) := by
  intro c hc
  cases hc
  exact ⟨hdigit, hpoint, hmark⟩

def digitValue (c : Char) : Nat := c.toNat - '0'.toNat

theorem octet_of_isDigit {c : Char} (h : c.isDigit = true) :
    encodeChar c = [Octet.ofChar c] ∧ Octet.isDigit (Octet.ofChar c) = true ∧
      Octet.digit (Octet.ofChar c) = digitValue c := by
  rw [Char.isDigit_iff_toNat] at h
  have hbound : c.toNat < 0x80 := Nat.lt_of_le_of_lt h.2 (by decide)
  have hn : (Octet.ofChar c).toNat = c.toNat := Utf8.toNat_ofNat_of_lt (by omega)
  refine ⟨Utf8.encodeChar_of_lt hbound, ?_, ?_⟩
  · simp only [Octet.isDigit, UInt8.le_iff_toNat_le, hn, decide_eq_true_eq]
    exact h
  · rw [Octet.digit, hn]
    rfl

theorem encode_digits {ds : List Char} (h : ∀ c ∈ ds, c.isDigit = true) :
    encode ds = ds.map Octet.ofChar := by
  induction ds with
  | nil => rfl
  | cons c ds ih =>
      rw [Utf8.encode_cons, ih fun d hd => h d (List.mem_cons_of_mem _ hd),
        (octet_of_isDigit (h c List.mem_cons_self)).1, List.map_cons,
        List.singleton_append]

theorem digits_encode {ds : List Char} (h : ∀ c ∈ ds, c.isDigit = true)
    {rest : Octets} (hrest : EndsDigits rest) :
    digits (encode ds ++ rest) = (ds.map digitValue, rest) := by
  have hall : ∀ b ∈ ds.map Octet.ofChar, Octet.isDigit b = true := by
    intro b hb
    obtain ⟨c, hc, rfl⟩ := List.mem_map.mp hb
    exact (octet_of_isDigit (h c hc)).2.1
  have hstop : rest.takeWhile Octet.isDigit = [] ∧ rest.dropWhile Octet.isDigit = rest := by
    cases rest with
    | nil => exact ⟨rfl, rfl⟩
    | cons b rest =>
        have hb := hrest b rfl
        simp [hb]
  have hvalues : (ds.map Octet.ofChar).map Octet.digit = ds.map digitValue := by
    rw [List.map_map]
    exact List.map_congr_left fun c hc => (octet_of_isDigit (h c hc)).2.2
  rw [digits, encode_digits h, List.takeWhile_append_of_pos hall,
    List.dropWhile_append_of_pos hall, hstop.1, hstop.2, List.append_nil, hvalues]

theorem appendDigits_of_le {limit : Nat} (ds : List Nat) {n : Nat}
    (h : ds.foldl (fun n d => n * 10 + d) n ≤ limit) :
    appendDigits limit n ds = (ds.foldl (fun n d => n * 10 + d) n, []) := by
  have hgrow : ∀ (ds : List Nat) (n : Nat), n ≤ ds.foldl (fun n d => n * 10 + d) n := by
    intro ds
    induction ds with
    | nil => intro n; exact Nat.le_refl n
    | cons d ds ih =>
        intro n
        exact Nat.le_trans (by omega) (ih (n * 10 + d))
  induction ds generalizing n with
  | nil => rfl
  | cons d ds ih =>
      rw [List.foldl_cons] at h
      have hd : ¬limit < n * 10 + d := Nat.not_lt.mpr (Nat.le_trans (hgrow ds _) h)
      rw [appendDigits, if_neg hd, ih h, List.foldl_cons]

theorem foldl_toDigits (n : Nat) :
    ((Nat.toDigits 10 n).map digitValue).foldl (fun n d => n * 10 + d) 0 = n := by
  rw [List.foldl_map]
  refine Eq.trans ?_ (Nat.ofDigitChars_ten_toDigits (n := n))
  rw [Nat.ofDigitChars_eq_foldl]
  simp only [Nat.mul_comm, digitValue]

theorem toDigits_head (n : Nat) (hn : 0 < n) :
    ∃ c cs, Nat.toDigits 10 n = c :: cs ∧ digitValue c ≠ 0 := by
  induction n using Nat.strongRecOn with
  | ind n ih =>
      by_cases hlt : n < 10
      · have hall : ∀ d < 10, 0 < d → digitValue (Nat.digitChar d) ≠ 0 := by decide
        exact ⟨_, [], Nat.toDigits_of_lt_base hlt, hall n hlt hn⟩
      · obtain ⟨c, cs, hcs, hc⟩ := ih (n / 10) (by omega) (by omega)
        refine ⟨c, cs ++ [Nat.digitChar (n % 10)], ?_, hc⟩
        rw [Nat.toDigits_of_base_le (by decide) (by omega), hcs, List.cons_append]

theorem numeral_toDigits {n : Nat} (hn : n ≤ maxWord) {rest : Octets}
    (hrest : Settles rest) :
    numeral (encode (Nat.toDigits 10 n) ++ rest) = .ok (.whole n, rest) := by
  have hall : ∀ c ∈ Nat.toDigits 10 n, c.isDigit = true :=
    fun c hc => Nat.isDigit_of_mem_toDigits (by decide) (by decide) hc
  obtain ⟨c, cs, hcs⟩ := List.exists_cons_of_ne_nil (Nat.toDigits_ne_nil (n := n) (b := 10))
  have hinput : encode (Nat.toDigits 10 n) ++ rest =
      Octet.ofChar c :: (encode cs ++ rest) := by
    rw [hcs, Utf8.encode_cons, (octet_of_isDigit (hall c (by simp [hcs]))).1]
    rfl
  have hfirst : Octet.isDigit (Octet.ofChar c) = true :=
    (octet_of_isDigit (hall c (by simp [hcs]))).2.1
  have hvalue : appendDigits maxWord 0 ((Nat.toDigits 10 n).map digitValue) = (n, []) := by
    rw [appendDigits_of_le _ (by rw [foldl_toDigits]; exact hn), foldl_toDigits]
  have hzero : ∀ d ds, (Nat.toDigits 10 n).map digitValue ≠ 0 :: d :: ds := by
    intro d ds h
    by_cases hpos : 0 < n
    · obtain ⟨e, es, hes, he⟩ := toDigits_head n hpos
      rw [hes, List.map_cons] at h
      exact he (List.cons.inj h).1
    · rw [Nat.eq_zero_of_not_pos hpos, Nat.toDigits_zero] at h
      cases (List.cons.inj h).2
  have hread := digits_encode hall hrest.endsDigits
  rw [hinput] at hread ⊢
  -- no leading zero, so the first alternative of the reader is out
  simp only [numeral, hfirst, hread, Bool.not_true, Bool.false_eq_true, if_false]
  rw [hvalue]
  cases rest with
  | nil => rfl
  | cons b rest =>
      obtain ⟨-, hpoint, hmark⟩ := hrest b rfl
      split
      · rename_i h
        exact absurd (List.cons.inj h).1 hpoint
      · simp only [List.isEmpty_nil, List.head?_cons, Option.any_some, hmark,
          Bool.not_false, Bool.and_true, if_true]

theorem number_toDigits {n : Nat} (hn : n ≤ maxWord) {rest : Octets}
    (hrest : Settles rest) :
    number false (encode (Nat.toDigits 10 n) ++ rest) = .ok (.int n, rest) := by
  rw [number, numeral_toDigits hn hrest]
  rfl

theorem number_toDigits_neg {n : Nat} (hpos : 0 < n) (hn : n ≤ 0x8000000000000000)
    {rest : Octets} (hrest : Settles rest) :
    number true (encode (Nat.toDigits 10 n) ++ rest) = .ok (.int (-n), rest) := by
  rw [number, numeral_toDigits (Nat.le_trans hn (by decide)) hrest, ok_bind]
  simp only [Numeral.toJson?, Bool.not_true, Bool.false_eq_true, if_false,
    if_pos (And.intro hpos hn)]

theorem Octet.ne_of_isDigit {b c : UInt8} (hb : Octet.isDigit b = true)
    (hc : Octet.isDigit c = false) : b ≠ c := by
  rintro rfl
  rw [hb] at hc
  cases hc

theorem Octet.isBlank_of_isDigit {b : UInt8} (hb : Octet.isDigit b = true) :
    Octet.isBlank b = false := by
  have hne := fun c => Octet.ne_of_isDigit (c := c) hb
  simp only [Octet.isBlank, hne 0x20 (by decide), hne 0x0A (by decide),
    hne 0x09 (by decide), hne 0x0D (by decide), or_false, decide_false]

theorem scalar?_of_isDigit {b : UInt8} (h : Octet.isDigit b = true) (rest : Octets) :
    scalar? b rest = some (number false (b :: rest)) := by
  have hne := fun c => Octet.ne_of_isDigit (c := c) h
  rw [scalar?, if_neg (hne _ (by decide)), if_neg (hne _ (by decide)),
    if_neg (hne _ (by decide)), if_neg (hne _ (by decide)), if_pos h]

theorem scalar?_integer {n : Int} (hn : Holds n) {rest : Octets} (hrest : Settles rest) :
    ∃ b tail, encode (Decimal.integer n) = b :: tail ∧
      Octet.isBlank b = false ∧ b ≠ Octet.closeBracket ∧
      scalar? b (tail ++ rest) = some (.ok (.int n, rest)) := by
  obtain ⟨hlow, hhigh⟩ := hn
  by_cases hneg : n < 0
  · refine ⟨Octet.minus, encode (Nat.toDigits 10 n.natAbs), ?_, by decide, by decide, ?_⟩
    · rw [Decimal.integer, if_pos hneg, Utf8.encode_cons]
      rfl
    · show some (number true _) = _
      rw [number_toDigits_neg (by omega) (by omega) hrest,
        Int.ofNat_natAbs_of_nonpos (Int.le_of_lt hneg), Int.neg_neg]
  · obtain ⟨c, cs, hcs⟩ :=
      List.exists_cons_of_ne_nil (Nat.toDigits_ne_nil (n := n.natAbs) (b := 10))
    have hc : c.isDigit = true :=
      Nat.isDigit_of_mem_toDigits (by decide) (by decide) (hcs ▸ List.mem_cons_self)
    obtain ⟨hoctet, hdigit, -⟩ := octet_of_isDigit hc
    have hread := number_toDigits (n := n.natAbs) (by unfold maxWord; omega) hrest
    rw [hcs, Utf8.encode_cons, hoctet, List.singleton_append, List.cons_append,
      Int.natAbs_of_nonneg (by omega)] at hread
    refine ⟨Octet.ofChar c, encode cs, ?_, Octet.isBlank_of_isDigit hdigit,
      Octet.ne_of_isDigit hdigit (by decide), ?_⟩
    · rw [Decimal.integer, if_neg hneg, hcs, Utf8.encode_cons, hoctet]
      rfl
    · rw [scalar?_of_isDigit hdigit, hread]

end Json

end JsonRpc
