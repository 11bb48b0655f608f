import JsonRpc.Text.Utf8
/-!
# Texts and their octets

This file proves that the passage from texts to octets can be undone.  Reading
a character takes exactly the octets that it was written as, whatever follows
them; so splitting the octets of a text leaves nothing over, and decoding them
gives the text back.
-/

namespace JsonRpc.Utf8

theorem toNat_ofNat_of_lt {n : Nat} (h : n < 256) : (UInt8.ofNat n).toNat = n := by
  simp [Nat.mod_eq_of_lt h]

theorem continuation?_ofNat {n : Nat} (h : n < 64) :
    continuation? (.ofNat (0x80 + n)) = some n := by
  have e := toNat_ofNat_of_lt (n := 0x80 + n) (by omega)
  unfold continuation?
  rw [if_pos, e]
  · simp
  · simp only [UInt8.le_iff_toNat_le, UInt8.lt_iff_toNat_lt, e]
    constructor
    · simp
    · simp
      omega

theorem toNat_lt (c : Char) : c.toNat < 0x110000 := by
  rcases c.valid with h | ⟨_, h⟩
  · exact Nat.lt_trans h (by decide)
  · exact h

theorem scalar?_toNat {n : Nat} (c : Char)
    (h : (if n = 2 then 0x80 else if n = 3 then 0x800 else 0x10000) ≤ c.toNat) :
    scalar? n c.toNat = some c := by
  unfold scalar?
  rw [if_pos ⟨h, c.valid⟩, Char.ofNat_toNat]

/-- Reading a character takes exactly its octets. -/
theorem next?_encodeChar_append (c : Char) (rest : Octets) :
    next? (encodeChar c ++ rest) = some (c, rest) := by
  have hlt := toNat_lt c
  unfold encodeChar
  simp only
  by_cases h₁ : c.toNat < 0x80
  · have e := toNat_ofNat_of_lt (n := c.toNat) (by omega)
    rw [if_pos h₁]
    simp only [List.cons_append, List.nil_append, next?]
    rw [if_pos (by simpa [UInt8.lt_iff_toNat_lt, e] using h₁), e, Char.ofNat_toNat]
  rw [if_neg h₁]
  by_cases h₂ : c.toNat < 0x800
  · have e := toNat_ofNat_of_lt (n := 0xC0 + c.toNat / 64) (by omega)
    rw [if_pos h₂]
    simp only [List.cons_append, List.nil_append, next?]
    rw [if_neg (by simp only [UInt8.lt_iff_toNat_lt, e]; simp; omega),
      if_pos (by simp only [UInt8.le_iff_toNat_le, UInt8.lt_iff_toNat_lt, e]; simp; omega),
      continuation?_ofNat (by omega), e]
    have hv : (0xC0 + c.toNat / 64 - 0xC0) * 64 + c.toNat % 64 = c.toNat := by omega
    simp only [Option.bind_eq_bind, Option.bind_some, hv]
    rw [scalar?_toNat c (by simpa using h₁)]
    rfl
  rw [if_neg h₂]
  by_cases h₃ : c.toNat < 0x10000
  · have e := toNat_ofNat_of_lt (n := 0xE0 + c.toNat / 4096) (by omega)
    rw [if_pos h₃]
    simp only [List.cons_append, List.nil_append, next?]
    rw [if_neg (by simp only [UInt8.lt_iff_toNat_lt, e]; simp; omega),
      if_neg (by simp only [UInt8.le_iff_toNat_le, UInt8.lt_iff_toNat_lt, e]; simp),
      if_pos (by simp only [UInt8.le_iff_toNat_le, UInt8.lt_iff_toNat_lt, e]; simp; omega),
      continuation?_ofNat (by omega), continuation?_ofNat (by omega), e]
    have hv : ((0xE0 + c.toNat / 4096 - 0xE0) * 64 + c.toNat / 64 % 64) * 64 + c.toNat % 64 =
        c.toNat := by omega
    simp only [Option.bind_eq_bind, Option.bind_some, hv]
    rw [scalar?_toNat c (by simpa using h₂)]
    rfl
  · have e := toNat_ofNat_of_lt (n := 0xF0 + c.toNat / 262144) (by omega)
    rw [if_neg h₃]
    simp only [List.cons_append, List.nil_append, next?]
    rw [if_neg (by simp only [UInt8.lt_iff_toNat_lt, e]; simp; omega),
      if_neg (by simp only [UInt8.le_iff_toNat_le, UInt8.lt_iff_toNat_lt, e]; simp; omega),
      if_neg (by simp only [UInt8.le_iff_toNat_le, UInt8.lt_iff_toNat_lt, e]; simp),
      if_pos (by simp only [UInt8.le_iff_toNat_le, UInt8.lt_iff_toNat_lt, e]; simp; omega),
      continuation?_ofNat (by omega), continuation?_ofNat (by omega),
      continuation?_ofNat (by omega), e]
    have hv : (((0xF0 + c.toNat / 262144 - 0xF0) * 64 + c.toNat / 4096 % 64) * 64 +
        c.toNat / 64 % 64) * 64 + c.toNat % 64 = c.toNat := by omega
    simp only [Option.bind_eq_bind, Option.bind_some, hv]
    rw [scalar?_toNat c (by simpa using h₃)]
    rfl

@[simp] theorem encode_nil : encode [] = [] := rfl

@[simp] theorem encode_cons (c : Char) (cs : List Char) :
    encode (c :: cs) = encodeChar c ++ encode cs :=
  List.flatMap_cons

@[simp] theorem encode_append (cs ds : List Char) :
    encode (cs ++ ds) = encode cs ++ encode ds :=
  List.flatMap_append

theorem encodeChar_of_lt {c : Char} (h : c.toNat < 0x80) :
    encodeChar c = [UInt8.ofNat c.toNat] := by
  simp only [encodeChar, if_pos h]

theorem encodeChar_ne_nil (c : Char) : encodeChar c ≠ [] := by
  unfold encodeChar
  simp only
  split
  · simp
  split
  · simp
  split <;> simp

theorem splitWithin_encode (cs : List Char) {bound : Nat} (h : cs.length ≤ bound) :
    splitWithin bound (encode cs) = (cs, []) := by
  induction cs generalizing bound with
  | nil => cases bound <;> rfl
  | cons c cs ih =>
    obtain _ | bound := bound
    · simp at h
    · rw [encode_cons]
      simp only [splitWithin, next?_encodeChar_append]
      rw [ih (by simpa using h)]

theorem length_le_length_encode (cs : List Char) : cs.length ≤ (encode cs).length := by
  induction cs with
  | nil => simp
  | cons c cs ih =>
    have h := List.length_pos_iff.2 (encodeChar_ne_nil c)
    rw [encode_cons]
    simp only [List.length_cons, List.length_append]
    omega

theorem split_encode (cs : List Char) : split (encode cs) = (cs, []) :=
  splitWithin_encode cs (length_le_length_encode cs)

/-- A text is what its octets decode to. -/
theorem decode?_ofString (s : String) : decode? (Octets.ofString s) = some s := by
  simp [decode?, Octets.ofString, split_encode]

end JsonRpc.Utf8
