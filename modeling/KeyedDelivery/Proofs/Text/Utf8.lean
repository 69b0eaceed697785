import KeyedDelivery.Text.Utf8

/-!
# Characters come back from their bytes

Decoding replaces what is malformed, and never fails. What was encoded is not malformed: decoding it
gives the characters again, and nothing is replaced.

* **`decodeFrom_utf8Char`** — the bytes of one character are read as this character; one case for
  each of the four lengths.
* **`decodeLossy_utf8`**, **`textOf_bytesOf`** — so are those of a whole text.
-/

namespace KeyedDelivery.Text

/-- What fits into a byte is kept. -/
theorem toNat_toUInt8 {n : Nat} (h : n < 256) : n.toUInt8.toNat = n := Nat.mod_eq_of_lt h

/-! ## Bytes of a sequence -/

section Sequence

variable {missing bits low high k n : Nat} {s : OpenSequence}

theorem decodeFrom_opens (h : FirstByte.ofByte n.toUInt8 = .opens s) (rest : List UInt8) :
    decodeFrom none (n.toUInt8 :: rest) = decodeFrom (some s) rest := by
  rw [decodeFrom, h]

/-- A byte that continues a sequence, with more to come. -/
theorem decodeFrom_more (hlow : low ≤ 0x80 + k) (hhigh : 0x80 + k ≤ high) (hk : k < 64)
    (rest : List UInt8) :
    decodeFrom (some ⟨missing + 2, bits, low, high⟩) ((0x80 + k).toUInt8 :: rest) =
      decodeFrom (some ⟨missing + 1, bits * 64 + k, 0x80, 0xbf⟩) rest := by
  have hbits : (0x80 + k) % 64 = k := by omega
  rw [decodeFrom, toNat_toUInt8 (by omega), if_pos ⟨hlow, hhigh⟩, hbits]
  exact if_neg (by simp)

/-- A byte that ends a sequence. -/
theorem decodeFrom_last (hlow : low ≤ 0x80 + k) (hhigh : 0x80 + k ≤ high) (hk : k < 64)
    (rest : List UInt8) :
    decodeFrom (some ⟨1, bits, low, high⟩) ((0x80 + k).toUInt8 :: rest) =
      Char.ofNat (bits * 64 + k) :: decodeFrom none rest := by
  have hbits : (0x80 + k) % 64 = k := by omega
  rw [decodeFrom, toNat_toUInt8 (by omega), if_pos ⟨hlow, hhigh⟩, hbits]
  exact if_pos (Nat.le_refl 1)

/-- The first of three bytes leaves room for the second of a code point that is no surrogate. -/
theorem ofByte_three (hlow : 0x800 ≤ n) (hhigh : n < 0x10000)
    (hvalid : n < 0xd800 ∨ 0xe000 ≤ n) :
    ∃ low high, FirstByte.ofByte (0xe0 + n / 4096).toUInt8 = .opens ⟨2, n / 4096, low, high⟩ ∧
      low ≤ 0x80 + n / 64 % 64 ∧ 0x80 + n / 64 % 64 ≤ high := by
  have hfirst : (0xe0 + n / 4096).toUInt8.toNat = 0xe0 + n / 4096 := toNat_toUInt8 (by omega)
  unfold FirstByte.ofByte
  rw [hfirst, if_neg (by omega), if_neg (by omega), if_neg (by omega)]
  split
  · -- below lies what two bytes are enough for
    next h => exact ⟨0xa0, 0xbf, by congr 2; omega, by omega, by omega⟩
  split
  · -- above lie the surrogates
    next h => exact ⟨0x80, 0x9f, by congr 2; omega, by omega, by omega⟩
  · rw [if_pos (by omega), Nat.add_sub_cancel_left]
    exact ⟨0x80, 0xbf, rfl, by omega, by omega⟩

/-- The first of four bytes leaves room for the second. -/
theorem ofByte_four (hlow : 0x10000 ≤ n) (hhigh : n < 0x110000) :
    ∃ low high, FirstByte.ofByte (0xf0 + n / 262144).toUInt8 = .opens ⟨3, n / 262144, low, high⟩ ∧
      low ≤ 0x80 + n / 4096 % 64 ∧ 0x80 + n / 4096 % 64 ≤ high := by
  have hfirst : (0xf0 + n / 262144).toUInt8.toNat = 0xf0 + n / 262144 := toNat_toUInt8 (by omega)
  unfold FirstByte.ofByte
  rw [hfirst, if_neg (by omega), if_neg (by omega), if_neg (by omega), if_neg (by omega),
    if_neg (by omega), if_neg (by omega)]
  split
  · -- below lies what three bytes are enough for
    next h => exact ⟨0x90, 0xbf, by congr 2; omega, by omega, by omega⟩
  split
  · rw [Nat.add_sub_cancel_left]
    exact ⟨0x80, 0xbf, rfl, by omega, by omega⟩
  · -- above lies what is beyond the last code point
    rw [if_pos (by omega)]
    exact ⟨0x80, 0x8f, by congr 2; omega, by omega, by omega⟩

end Sequence

/-! ## Characters and texts -/

/-- No character is a surrogate. -/
theorem toNat_not_surrogate (c : Char) :
    c.toNat < 0xd800 ∨ 0xe000 ≤ c.toNat ∧ c.toNat < 0x110000 := by
  have hvalid : c.toNat.isValidChar := c.valid
  unfold Nat.isValidChar at hvalid
  omega

/-- **The bytes of a character are read as this character.** -/
theorem decodeFrom_utf8Char (c : Char) (rest : List UInt8) :
    decodeFrom none (utf8Char c ++ rest) = c :: decodeFrom none rest := by
  have hvalid := toNat_not_surrogate c
  have hchar {n : Nat} (h : n = c.toNat) : Char.ofNat n = c := by rw [h, Char.ofNat_toNat]
  unfold utf8Char
  generalize c.toNat = n at hvalid hchar
  dsimp only
  -- one case for each number of bytes
  split
  · have hfirst : FirstByte.ofByte n.toUInt8 = .whole c := by
      rw [FirstByte.ofByte, toNat_toUInt8 (by omega), if_pos (by omega), hchar rfl]
    rw [List.singleton_append, decodeFrom, hfirst]
  split
  · have hfirst : FirstByte.ofByte (0xc0 + n / 64).toUInt8 = .opens ⟨1, n / 64, 0x80, 0xbf⟩ := by
      rw [FirstByte.ofByte, toNat_toUInt8 (by omega), if_neg (by omega), if_neg (by omega),
        if_pos (by omega), Nat.add_sub_cancel_left]
    rw [List.cons_append, List.singleton_append, decodeFrom_opens hfirst,
      decodeFrom_last (by omega) (by omega) (by omega), hchar (by omega)]
  split
  · obtain ⟨low, high, hfirst, hlow, hhigh⟩ := ofByte_three (n := n) (by omega) (by omega) (by omega)
    rw [List.cons_append, List.cons_append, List.singleton_append, decodeFrom_opens hfirst,
      decodeFrom_more hlow hhigh (by omega), decodeFrom_last (by omega) (by omega) (by omega),
      hchar (by omega)]
  · obtain ⟨low, high, hfirst, hlow, hhigh⟩ := ofByte_four (n := n) (by omega) (by omega)
    rw [List.cons_append, List.cons_append, List.cons_append, List.singleton_append,
      decodeFrom_opens hfirst, decodeFrom_more hlow hhigh (by omega),
      decodeFrom_more (by omega) (by omega) (by omega),
      decodeFrom_last (by omega) (by omega) (by omega), hchar (by omega)]

/-- **Decoding what was encoded** gives the characters again. -/
theorem decodeLossy_utf8 (cs : List Char) : decodeLossy (utf8 cs) = cs := by
  unfold decodeLossy utf8
  induction cs with
  | nil => rfl
  | cons c cs ih => rw [List.flatMap_cons, decodeFrom_utf8Char, ih]

/-- **The bytes of a text stand for this text.** -/
theorem textOf_bytesOf (s : String) : textOf (bytesOf s) = s := by
  rw [textOf, bytesOf, decodeLossy_utf8, String.ofList_toList]

end KeyedDelivery.Text
