import KeyedDelivery.Proofs.Json.Passing

/-!
# Values are read where they would be passed over

A value that is asked for may be spelled in many ways and may have white space before it. A reader that
takes it leaves the same rest as if it had been passed over.

* **`ValueReader.Takes`** — what a reader makes of the text of a value.
* **`ValueReader.Passes`** — a reader that takes a value ends where the value ends.
-/

namespace KeyedDelivery.Json

open Text (isDigit)

/-! ## What a reader takes -/

namespace ValueReader

variable {α β : Type} {reader : ValueReader α}

/-- A reader takes the text of a value, after any white space and up to what does not continue it. -/
def Takes (reader : ValueReader α) (v : List Char) (a : α) : Prop :=
  ∀ b t, Spaces b → Unextended t → reader.read (b ++ (v ++ t)) = .ok (a, t)

/-- A reader that refines the values of another takes the same texts. -/
theorem Takes.refine {v : List Char} {a : α} {b : β} {f : α → Except String β}
    (h : reader.Takes v a) (hf : f a = .ok b) : (reader.refine f).Takes v b := by
  intro s t hs ht
  simp only [ValueReader.refine, h s t hs ht, hf]

theorem Takes.map {v : List Char} {a : α} (h : reader.Takes v a) (f : α → β) :
    (reader.map f).Takes v (f a) := h.refine rfl

end ValueReader

/-- A string is taken as what it spells. -/
theorem string_takes {s : String} {v : List Char} (h : Spelled s v) : string.Takes v s := by
  obtain ⟨body, hbody, rfl⟩ := h
  intro b t hb _
  have hread := readText_spells hbody t
  have hquote : quote body ++ t = '"' :: (body ++ '"' :: t) := by
    rw [quote, List.cons_append, List.append_assoc, List.singleton_append]
  show readString (b ++ (quote body ++ t)) = _
  rw [readString, skipBlanks_append hb, hquote, skipBlanks_cons rfl]
  simp only [hread, String.ofList_toList]

/-- Integers have one spelling. -/
theorem integer_takes (expected : String) (low high : Int) {i : Int} (hlow : low ≤ i)
    (hhigh : i ≤ high) (h64 : -9223372036854775808 ≤ i ∧ i < 9223372036854775808) :
    (integer expected low high).Takes (writeInteger i) i := by
  intro b t hb ht
  show readInteger _ _ _ (b ++ (writeInteger i ++ t)) = _
  rw [readInteger, skipBlanks_append hb, ← readInteger]
  exact readInteger_written hlow hhigh h64 expected ht

/-- A number of 32 bits, with a sign or without, and a byte are within their bounds as they are
written. -/
theorem int32_takes (n : Int32) : int32.Takes (writeInteger n.toInt) n := by
  have hlow := n.le_toInt
  have hhigh := n.toInt_lt
  have htakes := integer_takes "i32" (-2147483648) 2147483647 (i := n.toInt) (by omega) (by omega)
    (by omega)
  have hmap := htakes.map Int32.ofInt
  rwa [Int32.ofInt_toInt] at hmap

theorem word32_takes (n : UInt32) : word32.Takes (writeNatural n.toNat) n := by
  have hlt := n.toNat_lt
  have htakes := integer_takes "u32" 0 4294967295 (i := n.toNat) (by omega) (by omega) (by omega)
  have hmap := htakes.map fun i => UInt32.ofNat i.toNat
  rwa [Int.toNat_natCast, UInt32.ofNat_toNat] at hmap

theorem byte_takes (n : UInt8) : byte.Takes (writeNatural n.toNat) n := by
  have hlt := n.toNat_lt
  have htakes := integer_takes "u8" 0 255 (i := n.toNat) (by omega) (by omega) (by omega)
  have hmap := htakes.map fun i => UInt8.ofNat i.toNat
  rwa [Int.toNat_natCast, UInt8.ofNat_toNat] at hmap

/-! ## Where a reader ends -/

/-- The second of two surrogates is passed as an escape of its own. -/
theorem skipText_of_trailingSurrogate {lead : Nat} {s t : List Char} {c : Char}
    (h : trailingSurrogate lead s = .ok (c, t)) : skipText s = skipText t := by
  unfold trailingSurrogate at h
  split at h
  · cases h
  · cases h
  · split at h
    · cases h
    · -- the second unit is four digits, as every unit is
      next hq =>
      rw [skipText_unit hq]
      split at h
      · rw [(Prod.mk.inj (Except.ok.inj h)).2]
      · cases h
  · cases h

/-- An escape that was read is passed. -/
theorem skipText_of_readEscape {r t : List Char} {c : Char} (h : readEscape r = .ok (c, t)) :
    skipText ('\\' :: r) = skipText t := by
  unfold readEscape at h
  split at h
  · cases h
  · split at h
    · cases h
    · next hq =>
      rw [skipText_unit hq]
      split at h
      · cases h
      · split at h
        · exact skipText_of_trailingSurrogate h
        · rw [(Prod.mk.inj (Except.ok.inj h)).2]
  · split at h
    · -- an escape by a letter
      next hshort =>
      cases h
      exact skipText_backslash (skipEscape_short hshort _)
    · cases h

/-- **A string that was read is passed.** -/
theorem skipText_of_readText {s cs r : List Char} (h : readText s = .ok (cs, r)) :
    skipText s = .ok r := by
  fun_induction readText s generalizing cs r with
  | case1 => cases h
  | case2 =>
    cases h
    rw [skipText]
  | case3 => cases h
  | case4 => cases h
  -- an escape, and the text behind it
  | case5 r c t he _ cs u hu ih =>
    cases h
    rw [skipText_of_readEscape he, ih hu]
  | case6 => cases h
  | case7 => cases h
  -- a plain character, and the text behind it
  | case8 c r hquote hescape hspace cs u hu ih =>
    cases h
    rw [skipText_plain ⟨hquote, hescape, hspace⟩, ih hu]

/-- A first digit is enough for digits to be passed over. -/
theorem skipDigits_of_some {s : List Char} (h : (s.takeWhile isDigit).isEmpty = false) :
    skipDigits s = .ok (s.dropWhile isDigit) := by
  rw [skipDigits, h]
  rfl

/-- An exponent that is read ends behind its digits, whatever becomes of the number. -/
theorem skipDigits_of_readExponent {negative : Bool} {v : Nat} {e : Int} {s r : List Char}
    {n : Numeral} (h : readExponent negative v e s = .ok (n, r)) :
    skipDigits (exponentSign s).2 = .ok r := by
  unfold readExponent at h
  split at h
  next down t ht =>
  rw [ht]
  split at h
  · cases h
  · next c u =>
    split at h
    · cases h
    · next hdigit =>
      -- the number is rounded or refused, and the rest is the same
      rw [eq_of_withRest h]
      refine skipDigits_of_some ?_
      rw [List.takeWhile_cons_of_pos (by simpa using hdigit)]
      rfl

/-- A rest that begins with no exponent has none. -/
theorem skipExponent_none {t : List Char} (he : ∀ u, t ≠ 'e' :: u) (hE : ∀ u, t ≠ 'E' :: u) :
    skipExponent t = .ok t := by
  unfold skipExponent
  split
  · exact absurd rfl (he _)
  · exact absurd rfl (hE _)
  · rfl

/-- So does a fraction, and behind it there may be an exponent. -/
theorem skipExponent_of_readFraction {negative : Bool} {v k : Nat} {s r : List Char} {n : Numeral}
    (h : readFraction negative v k s = .ok (n, r)) :
    ∃ t, skipDigits s = .ok t ∧ skipExponent t = .ok r := by
  unfold readFraction at h
  dsimp only at h
  split at h
  · cases h
  · next hdigits =>
    refine ⟨_, skipDigits_of_some (by simpa using hdigits), ?_⟩
    split at h
    · next ht =>
      rw [ht]
      exact skipDigits_of_readExponent h
    · next ht =>
      rw [ht]
      exact skipDigits_of_readExponent h
    · next he hE =>
      rw [eq_of_withRest h]
      exact skipExponent_none he hE

/-- **A number that was read is passed.** -/
theorem skipNumber_of_readNumber {negative : Bool} {s r : List Char} {n : Numeral}
    (h : readNumber negative s = .ok (n, r)) : skipNumber s = .ok r := by
  unfold readNumber at h
  split at h
  · cases h
  · next c s =>
    dsimp only at h
    split at h
    · cases h
    · next hdigits =>
      split at h
      · cases h
      · next hzero =>
        have hlength := congrArg List.length
          (List.takeWhile_append_dropWhile (p := isDigit) (l := c :: s))
        rw [List.length_append] at hlength
        -- a zero that leads other digits was refused
        have hlead : ¬((c :: s).head? = some '0' ∧
            ((c :: s).dropWhile isDigit).length + 1 < (c :: s).length) := by
          rintro ⟨hhead, hlong⟩
          exact hzero ⟨Option.some.inj hhead, by omega⟩
        rw [skipNumber, skipDigits_of_some (by simpa using hdigits)]
        dsimp only
        rw [if_neg hlead]
        split at h
        · next ht =>
          obtain ⟨t, hdigits, hexponent⟩ := skipExponent_of_readFraction h
          rw [ht]
          simp only [hdigits, hexponent]
        · next ht =>
          rw [ht]
          exact skipDigits_of_readExponent h
        · next ht =>
          rw [ht]
          exact skipDigits_of_readExponent h
        · -- nothing follows the digits
          next hpoint he hE =>
          have hrest : r = (c :: s).dropWhile isDigit := by
            split at h
            · exact eq_of_withRest h
            · exact eq_of_withRest h
          rw [hrest]
          split
          · next ht => exact absurd ht (hpoint _)
          · exact skipExponent_none he hE

namespace ValueReader

variable {α β : Type} {reader : ValueReader α}

/-- A reader that takes a value leaves what follows the value. -/
def Passes (reader : ValueReader α) : Prop :=
  ∀ ⦃s : List Char⦄ ⦃a : α⦄ ⦃r : List Char⦄, reader.read s = .ok (a, r) → skipValue s = .ok r

/-- Refining a value moves no end. -/
theorem Passes.refine (h : reader.Passes) (f : α → Except String β) : (reader.refine f).Passes := by
  intro s b r hread
  simp only [ValueReader.refine] at hread
  split at hread
  · cases hread
  · next hs =>
    split at hread
    · cases hread
    · cases hread
      exact h hs

theorem Passes.map (h : reader.Passes) (f : α → β) : (reader.map f).Passes := h.refine _

end ValueReader

/-- A scalar is passed over after white space. -/
theorem skipValue_scalar {s r t : List Char} {c : Char} (hs : skipBlanks s = c :: r) (hlist : c ≠ '[')
    (hobject : c ≠ '\x7b') (hscalar : skipScalar (c :: r) = .ok t) : skipValue s = .ok t := by
  rw [skipValue, skipFrom_scalar hs hlist hobject hscalar, skipFrom]

/-- **A string that is read ends where it would be passed over.** -/
theorem string_passes : string.Passes := by
  intro s a r h
  change readString s = _ at h
  unfold readString at h
  split at h
  · cases h
  · next hs =>
    split at h
    · cases h
    · next ht =>
      cases h
      exact skipValue_scalar hs (by decide) (by decide) (skipText_of_readText ht)
  · cases h

/-- **So does an integer**, also one that was written with a fraction or an exponent and is
refused. -/
theorem integer_passes (expected : String) (low high : Int) :
    (integer expected low high).Passes := by
  intro s i r h
  -- what is taken was read as a number first
  have htaken {negative : Bool} {t : List Char}
      (h : readInteger.taken expected low high (readNumber negative t) = .ok (i, r)) :
      skipNumber t = .ok r := by
    unfold readInteger.taken at h
    split at h
    · cases h
    · next hn =>
      split at h
      · cases h
      · cases h
        exact skipNumber_of_readNumber hn
  change readInteger expected low high s = _ at h
  unfold readInteger at h
  split at h
  · cases h
  · next hs => exact skipValue_scalar hs (by decide) (by decide) (htaken h)
  · next c t _ hs =>
    split at h
    · next hdigit =>
      -- a digit opens neither a list nor an object
      refine skipValue_scalar hs ?_ ?_ ((skipScalar_digit hdigit t).trans (htaken h))
      · rintro rfl
        cases hdigit
      · rintro rfl
        cases hdigit
    · cases h

theorem int32_passes : int32.Passes := (integer_passes _ _ _).map _

end KeyedDelivery.Json
