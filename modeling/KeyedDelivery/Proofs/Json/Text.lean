import KeyedDelivery.Json.Writer
import KeyedDelivery.Proofs.Json.Grammar

/-!
# Strings of JSON are read as what they spell

A string may be spelled in many ways: any character may be escaped by its number, and some by a letter.
Reading undoes this escape by escape. What is written is one of the spellings, so that every text comes
back, whatever it holds.

* **`readText_spells`** — a string is read as the characters that it spells.
* **`spells_written`** — a text that is written spells its characters.
-/

namespace KeyedDelivery.Json

/-- A character before what was read. -/
def before (c : Char) : Except Fault (List Char × List Char) → Except Fault (List Char × List Char)
  | .error e => .error e
  | .ok (cs, r) => .ok (c :: cs, r)

/-- An escape is read as the character it stands for. -/
theorem readText_escape {c : Char} {r t : List Char} (h : readEscape r = .ok (c, t)) :
    readText ('\\' :: r) = before c (readText t) := by
  rw [readText]
  split
  · next he => cases he.symm.trans h
  · next he =>
    cases he.symm.trans h
    rcases readText t with e | ⟨cs, u⟩ <;> rfl

/-- Any other character stands for itself. -/
theorem readText_plain {c : Char} (h : Plain c) (t : List Char) :
    readText (c :: t) = before c (readText t) := by
  obtain ⟨hquote, hescape, hspace⟩ := h
  rw [readText]
  · rw [if_neg hspace]
    rcases readText t with e | ⟨cs, u⟩ <;> rfl
  · exact hquote
  · exact hescape

/-! ## Escapes -/

/-- Four hexadecimal digits are read as their number, whatever follows. -/
theorem hexQuad_append {q : List Char} {n : Nat} (h : Quad q n) (t : List Char) :
    hexQuad (q ++ t) = .ok (n, t) := by
  obtain ⟨a, b, c, d, i, j, k, l, rfl, ha, hb, hc, hd, rfl⟩ := h
  simp only [List.cons_append, List.nil_append, hexQuad, ha, hb, hc, hd]

/-- The letter of a short escape is not that of an escape by number. -/
theorem readEscape_short {c d : Char} (h : shortEscape? c = some d) (t : List Char) :
    readEscape (c :: t) = .ok (d, t) := by
  unfold readEscape
  split
  · next heq => cases heq
  · next heq =>
    cases (List.cons.inj heq).1
    cases h
  · next heq =>
    obtain ⟨rfl, rfl⟩ := List.cons.inj heq
    rw [h]

/-- A unit that is no surrogate is read as the character of its number. -/
theorem readEscape_unit {q : List Char} {n : Nat} (quad : Quad q n)
    (character : n < 0xd800 ∨ 0xdfff < n) (t : List Char) :
    readEscape ('u' :: (q ++ t)) = .ok (Char.ofNat n, t) := by
  rw [readEscape, hexQuad_append quad]
  dsimp only
  rw [if_neg (by omega), if_neg (by omega)]

/-- Two surrogates are read together. -/
theorem readEscape_pair {q q' : List Char} {n m : Nat} (quad : Quad q n) (quad' : Quad q' m)
    (leading : 0xd800 ≤ n ∧ n ≤ 0xdbff) (trailing : 0xdc00 ≤ m ∧ m ≤ 0xdfff) (t : List Char) :
    readEscape ('u' :: (q ++ '\\' :: 'u' :: (q' ++ t))) = .ok (Text.pairSurrogates n m, t) := by
  rw [readEscape, hexQuad_append quad]
  dsimp only
  rw [if_neg (by omega), if_pos leading, trailingSurrogate, hexQuad_append quad']
  dsimp only
  rw [if_pos trailing]

/-- **A string is read as what it spells**, up to its closing quote. -/
theorem readText_spells {s cs : List Char} (h : Spells s cs) (t : List Char) :
    readText (s ++ '"' :: t) = .ok (cs, t) := by
  induction h with
  | nil => rw [List.nil_append, readText]
  | plain plain _ ih => rw [List.cons_append, readText_plain plain, ih, before]
  | escape short _ ih =>
    rw [List.cons_append, List.cons_append, readText_escape (readEscape_short short _), ih, before]
  | unit quad character _ ih =>
    rw [List.cons_append, List.cons_append, List.append_assoc,
      readText_escape (readEscape_unit quad character _), ih, before]
  -- a character outside the first plane takes two escapes, which are read as one
  | @pair q q' s cs n m quad quad' leading trailing _ ih =>
    have happend : '\\' :: 'u' :: (q ++ '\\' :: 'u' :: (q' ++ s)) ++ '"' :: t =
        '\\' :: 'u' :: (q ++ '\\' :: 'u' :: (q' ++ (s ++ '"' :: t))) := by
      simp only [List.cons_append, List.append_assoc]
    rw [happend, readText_escape (readEscape_pair quad quad' leading trailing _), ih, before]

/-! ## What is written -/

/-- A hexadecimal digit is read as it was written. -/
theorem hexValue?_hexDigitChar {d : Nat} (h : d < 16) :
    Text.hexValue? (Text.hexDigitChar d) = some d := by
  have hall : ∀ d < 16, Text.hexValue? (Text.hexDigitChar d) = some d := by decide
  exact hall d h

/-- The escape of a control character names it by its number. -/
theorem quad_control {c : Char} (h : c.toNat < 0x20) :
    Quad ['0', '0', Text.hexDigitChar (c.toNat / 16), Text.hexDigitChar (c.toNat % 16)] c.toNat :=
  ⟨_, _, _, _, 0, 0, c.toNat / 16, c.toNat % 16, rfl, rfl, rfl, hexValue?_hexDigitChar (by omega),
    hexValue?_hexDigitChar (by omega), by omega⟩

/-- A character that is written spells itself. -/
theorem spells_writtenChar (c : Char) {s cs : List Char} (h : Spells s cs) :
    Spells (writtenChar c ++ s) (c :: cs) := by
  unfold writtenChar
  split
  · exact .escape rfl h
  · exact .escape rfl h
  · exact .escape rfl h
  · exact .escape rfl h
  · exact .escape rfl h
  · exact .escape rfl h
  · exact .escape rfl h
  · next hquote hescape _ _ _ _ _ =>
    split
    · -- the other control characters are written by their number
      next hcontrol =>
      have hunit := Spells.unit (quad_control hcontrol) (by omega) h
      rwa [Char.ofNat_toNat] at hunit
    · next hplain => exact .plain ⟨hquote, hescape, hplain⟩ h

/-- **A text that is written spells its characters.** -/
theorem spells_written (cs : List Char) : Spells (cs.flatMap writtenChar) cs := by
  induction cs with
  | nil => exact .nil
  | cons c cs ih =>
    rw [List.flatMap_cons]
    exact spells_writtenChar c ih

/-- The text of a string, spelled in any way. -/
def Spelled (s : String) (v : List Char) : Prop := ∃ body, Spells body s.toList ∧ v = quote body

/-- **A text that is written spells itself.** -/
theorem spelled_writeString (s : String) : Spelled s (writeString s) := ⟨_, spells_written _, rfl⟩

/-- What spells a text is JSON. -/
theorem Spelled.wellFormed {s : String} {v : List Char} (h : Spelled s v) : WellFormed .value v := by
  obtain ⟨body, hbody, rfl⟩ := h
  exact .string hbody.inside

end KeyedDelivery.Json
