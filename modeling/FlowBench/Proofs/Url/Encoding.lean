/-
  FlowBench.Proofs.Url.Encoding
  ─────────────────────────────
  **Decoding undoes encoding.**

  A percent sign that stands for itself would be read with the two
  characters behind it; so a text that is encoded with a set that has the
  percent sign in it decodes to its own UTF-8 bytes (`decode_encode`), and
  these are that text again (`text?_decode_encode`).
-/
import FlowBench.Url.Encoding

namespace FlowBench.Url

/-! ## §1. Bytes. -/

theorem hexValue?_hexDigit : ∀ n < 16, hexValue? (hexDigit n) = some n := by
  decide

/-- The two digits of a byte write that byte. -/
theorem byte?_digits (b : UInt8) :
    byte? (hexDigit (b.toNat / 16)) (hexDigit (b.toNat % 16)) = some b := by
  have hb : b.toNat < 256 := b.toNat_lt
  have hhigh : hexValue? (hexDigit (b.toNat / 16)) = some (b.toNat / 16) :=
    hexValue?_hexDigit _ (by omega)
  have hlow : hexValue? (hexDigit (b.toNat % 16)) = some (b.toNat % 16) :=
    hexValue?_hexDigit _ (by omega)
  have hsum : b.toNat / 16 * 16 + b.toNat % 16 = b.toNat := by omega
  simp only [byte?, hhigh, hlow, hsum, UInt8.ofNat_toNat]

theorem decode_encodeByte (b : UInt8) (rest : List Char) :
    decode (encodeByte b ++ rest) = b :: decode rest := by
  show decode ('%' :: hexDigit (b.toNat / 16) :: hexDigit (b.toNat % 16) :: rest) = _
  rw [decode, byte?_digits]

theorem decode_encodeBytes (bytes : List UInt8) (rest : List Char) :
    decode (bytes.flatMap encodeByte ++ rest) = bytes ++ decode rest := by
  induction bytes with
  | nil => rfl
  | cons b bytes ih =>
    rw [List.flatMap_cons, List.append_assoc, decode_encodeByte, ih, List.cons_append]

/-! ## §2. Texts. -/

/-- What is no percent sign stands for itself, whatever follows. -/
theorem decode_cons_of_ne {c : Char} (h : c ≠ '%') (rest : List Char) :
    decode (c :: rest) = String.utf8EncodeChar c ++ decode rest := by
  rw [decode]
  intro a b tail hc
  exact absurd hc h

/-- An encoded text decodes to the bytes of the text. -/
theorem decode_encode {set : Char → Bool} (h : set '%' = true) (cs : List Char) :
    decode (encode set cs) = cs.flatMap String.utf8EncodeChar := by
  unfold encode
  -- Character by character: decoding looks at most two characters ahead, and
  -- only behind a percent sign, which is always an encoded byte here.
  induction cs with
  | nil => rfl
  | cons c rest ih =>
    rw [List.flatMap_cons, List.flatMap_cons]
    by_cases hc : set c = true
    · rw [if_pos hc, encodeChar, decode_encodeBytes, ih]
    · -- A character that is left as it is is no percent sign.
      have hne : c ≠ '%' := by
        intro heq
        exact hc (heq ▸ h)
      rw [if_neg hc, List.singleton_append, decode_cons_of_ne hne, ih]

/-- The UTF-8 bytes of a text are that text. -/
theorem text?_utf8 (cs : List Char) :
    text? (cs.flatMap String.utf8EncodeChar) = some cs := by
  have hbytes : (⟨(cs.flatMap String.utf8EncodeChar).toArray⟩ : ByteArray) = cs.utf8Encode := by
    rw [List.utf8Encode, ByteArray.ext_iff, List.data_toByteArray]
  have hvalid : cs.utf8Encode.IsValidUTF8 := ByteArray.isValidUTF8_utf8Encode
  have htext : String.fromUTF8 cs.utf8Encode hvalid = String.ofList cs := by
    rw [← String.toByteArray_inj, String.toByteArray_ofList]
    rfl
  rw [text?, hbytes, String.fromUTF8?, dif_pos hvalid, htext, Option.map_some, String.toList_ofList]

theorem text?_decode_encode {set : Char → Bool} (h : set '%' = true) (cs : List Char) :
    text? (decode (encode set cs)) = some cs := by
  rw [decode_encode h, text?_utf8]

end FlowBench.Url
