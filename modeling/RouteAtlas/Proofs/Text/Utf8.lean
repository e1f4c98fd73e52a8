import RouteAtlas.Proofs.Text.CodeText
import RouteAtlas.Text.Utf8
import Mathlib.Data.List.Basic

/-!
# UTF-8 read back

Decoding undoes encoding: `decode_encode`. The first byte of a character says how many bytes follow
it and holds the uppermost bits, and each of the others holds six more (`decodeTail_tailByte`), so
that one case per length of a character puts the number of the character together again
(`decodeHead_encodeChar`).
-/

namespace RouteAtlas.Utf8

theorem toNat_tailByte (bits : Nat) : (tailByte bits).toNat = 0x80 + bits % 64 := by
  rw [tailByte, UInt8.toNat_ofNat']
  omega

theorem toNat_ofNat_of_lt {n : Nat} (h : n < 0x100) : (UInt8.ofNat n).toNat = n := by
  rw [UInt8.toNat_ofNat']
  omega

/-- A tail byte in the range that is asked for hands on its six bits. -/
theorem decodeTail_tailByte {owed value taken bits : Nat} {range : Nat × Nat} {rest : Bytes}
    (h : range.1 ≤ 0x80 + bits % 64 ∧ 0x80 + bits % 64 ≤ range.2) :
    decodeTail (owed + 1) range value taken (tailByte bits :: rest) =
      decodeTail owed (0x80, 0xBF) (value * 64 + bits % 64) (taken + 1) rest := by
  have hbits : (0x80 + bits % 64) % 64 = bits % 64 := by omega
  simp only [decodeTail, toNat_tailByte, hbits]
  exact if_pos h

/-- Every tail byte lies in the range of all continuation bytes. -/
theorem tailByte_range (bits : Nat) :
    (0x80, 0xBF).1 ≤ 0x80 + bits % 64 ∧ 0x80 + bits % 64 ≤ (0x80, 0xBF).2 := by
  constructor <;> simp only <;> omega

/-- The bytes of a character are read as that character, whatever follows them. -/
theorem decodeHead_encodeChar (c : Char) (rest : Bytes) :
    ∃ b tail, encodeChar c = b :: tail ∧ decodeHead b (tail ++ rest) = .char c rest := by
  have hvalid : c.toNat < 0xD800 ∨ 0xDFFF < c.toNat ∧ c.toNat < 0x110000 := c.valid
  have hchar {n : Nat} (h : n = c.toNat) : Char.ofNat n = c := by rw [h, Char.ofNat_toNat]
  -- The second byte is checked against the range that the first one sets, since not every
  -- sequence of three or four bytes is a character.
  have hsecond {first bits : Nat} (h : 0xC0 ≤ first ∧ first < 0xE0 ∨
      c.toNat / 4096 + 0xE0 = first ∧ c.toNat / 64 = bits ∧ 0x800 ≤ c.toNat ∧ c.toNat < 0x10000 ∨
      c.toNat / 262144 + 0xF0 = first ∧ c.toNat / 4096 = bits ∧ 0x10000 ≤ c.toNat) :
      (secondRange first).1 ≤ 0x80 + bits % 64 ∧ 0x80 + bits % 64 ≤ (secondRange first).2 := by
    unfold secondRange
    split_ifs <;> simp only <;> omega
  -- One case for each length, from one byte to four.
  unfold encodeChar
  simp only
  split_ifs with h1 h2 h3
  · refine ⟨_, _, rfl, ?_⟩
    rw [decodeHead, toNat_ofNat_of_lt (by omega), if_pos h1, hchar rfl]
    rfl
  · refine ⟨_, _, rfl, ?_⟩
    rw [decodeHead, toNat_ofNat_of_lt (by omega), if_neg (by omega), if_neg (by omega),
      if_pos (by omega), List.cons_append, decodeTail_tailByte (hsecond (by omega)), decodeTail,
      hchar (by omega)]
    rfl
  · refine ⟨_, _, rfl, ?_⟩
    rw [decodeHead, toNat_ofNat_of_lt (by omega), if_neg (by omega), if_neg (by omega),
      if_neg (by omega), if_pos (by omega), List.cons_append,
      decodeTail_tailByte (hsecond (by omega)), List.cons_append,
      decodeTail_tailByte (tailByte_range _), decodeTail, hchar (by omega)]
    rfl
  · refine ⟨_, _, rfl, ?_⟩
    rw [decodeHead, toNat_ofNat_of_lt (by omega), if_neg (by omega), if_neg (by omega),
      if_neg (by omega), if_neg (by omega), if_pos (by omega), List.cons_append,
      decodeTail_tailByte (hsecond (by omega)), List.cons_append,
      decodeTail_tailByte (tailByte_range _), List.cons_append,
      decodeTail_tailByte (tailByte_range _), decodeTail, hchar (by omega)]
    rfl

/-- **What was encoded is decoded**, character by character. The induction is on the text, with any
place for messages and more fuel than is needed. -/
theorem decodeFrom_encode (s : Text) {fuel : Nat} (place : Nat) (hfuel : s.length ≤ fuel) :
    decodeFrom fuel place (encode s) = .ok s := by
  induction s generalizing fuel place with
  | nil => cases fuel <;> rfl
  | cons c s ih =>
    obtain ⟨fuel, rfl⟩ : ∃ n, fuel = n + 1 := Nat.exists_eq_add_one.mpr (by
      rw [List.length_cons] at hfuel
      omega)
    obtain ⟨b, tail, hbytes, hhead⟩ := decodeHead_encodeChar c (encode s)
    have hencode : encode (c :: s) = b :: (tail ++ encode s) := by
      rw [encode, List.flatMap_cons, hbytes]
      rfl
    rw [hencode, decodeFrom, hhead]
    simp only [ih _ (Nat.le_of_succ_le_succ hfuel)]
    rfl

theorem encode_append (s rest : Text) : encode (s ++ rest) = encode s ++ encode rest :=
  List.flatMap_append

theorem length_le_length_encode (s : Text) : s.length ≤ (encode s).length := by
  induction s with
  | nil => exact Nat.le_refl 0
  | cons c s ih =>
    obtain ⟨b, tail, hbytes, -⟩ := decodeHead_encodeChar c []
    rw [encode, List.flatMap_cons, hbytes, List.length_append, List.length_cons, List.length_cons]
    rw [encode] at ih
    omega

/-- Decoding undoes encoding. -/
theorem decode_encode (s : Text) : decode (encode s) = .ok s :=
  decodeFrom_encode s 0 (length_le_length_encode s)

/-- Different texts have different bytes. -/
theorem encode_injective : Function.Injective encode := by
  intro s t h
  have hdecode := decode_encode s
  rw [h, decode_encode] at hdecode
  exact (Except.ok.inj hdecode).symm

/-- Code points can be encoded if they are text. -/
theorem encodeCode_eq_ok_iff {s : CodeText} {bytes : Bytes} :
    encodeCode s = .ok bytes ↔ ∃ text, s = CodeText.ofText text ∧ bytes = encode text := by
  rw [encodeCode]
  constructor
  · intro h
    split at h
    next text htext => exact ⟨text, CodeText.toText?_eq_some_iff.mp htext, (Except.ok.inj h).symm⟩
    next => cases h
  · rintro ⟨text, rfl, rfl⟩
    rw [CodeText.toText?_ofText]

/-- Different code points have different bytes, where they have any. -/
theorem encodeCode_inj {s t : CodeText} {bytes : Bytes} (hs : encodeCode s = .ok bytes)
    (ht : encodeCode t = .ok bytes) : s = t := by
  obtain ⟨text, rfl, rfl⟩ := encodeCode_eq_ok_iff.mp hs
  obtain ⟨other, rfl, hbytes⟩ := encodeCode_eq_ok_iff.mp ht
  rw [encode_injective hbytes]

/-- A text that begins with an ASCII character does not look marked. -/
theorem decodeMarked_encode {c : Char} (h : c.toNat < 0x80) (s : Text) :
    decodeMarked (encode (c :: s)) = .ok (c :: s) := by
  have hencode : encode (c :: s) = UInt8.ofNat c.toNat :: encode s := by
    rw [encode, List.flatMap_cons, encodeChar, if_pos h]
    rfl
  have hne : UInt8.ofNat c.toNat ≠ 0xEF := by
    intro heq
    have hbyte := congrArg UInt8.toNat heq
    rw [toNat_ofNat_of_lt (by omega)] at hbyte
    have hmark : (0xEF : UInt8).toNat = 239 := rfl
    omega
  have hshort : (encode (c :: s)).isPrefixOf byteOrderMark = false := by
    rw [hencode, byteOrderMark, List.isPrefixOf_cons_cons, beq_eq_false_iff_ne.mpr hne, Bool.false_and]
  have hmark : byteOrderMark.isPrefixOf? (encode (c :: s)) = none := by
    rw [hencode, byteOrderMark, List.isPrefixOf?, beq_eq_false_iff_ne.mpr hne.symm]
    rfl
  rw [decodeMarked, hshort, if_neg (by simp), hmark]
  exact decode_encode (c :: s)

end RouteAtlas.Utf8
