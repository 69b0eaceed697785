import KeyedDelivery.Proofs.Json.Number
import KeyedDelivery.Proofs.Json.Text

/-!
# Well-formed values are passed over

Passing a value over ends exactly where the value ends, whatever it holds and however deep it is nested.
Only a number needs to know what follows: this must not continue it.

* **`skipText_inside`**, **`skipNumber_unsigned`** — strings and numbers.
* **`skipFrom_scalar`** and those after it — one step of the scan, by what stands at its front.
* **`passed_of_wellFormed`** — every value, and what it encloses; induction on the grammar, the frames
  that are open outside being any.
-/

namespace KeyedDelivery.Json

open Text (isDigit)

/-! ## White space -/

/-- White space in front is skipped. -/
theorem skipBlanks_append {b : List Char} (h : Spaces b) (t : List Char) :
    skipBlanks (b ++ t) = skipBlanks t := by
  rw [skipBlanks, skipBlanks, List.dropWhile_append_of_pos h]

/-- What begins with none of the characters that continue a number. -/
theorem unextended_cons {c : Char} (h : isDigit c = false ∧ c ≠ '.' ∧ c ≠ 'e' ∧ c ≠ 'E')
    (t : List Char) : Unextended (c :: t) := by
  intro d hd
  cases hd
  exact h

/-- White space may stand between. -/
theorem unextended_append {b t : List Char} (hb : Spaces b) (ht : Unextended t) :
    Unextended (b ++ t) := by
  cases b with
  | nil => exact ht
  | cons c b =>
    have hc : isSpace c = true := hb c List.mem_cons_self
    simp only [isSpace, Bool.or_eq_true, beq_iff_eq] at hc
    refine unextended_cons ?_ _
    rcases hc with ((rfl | rfl) | rfl) | rfl <;> decide

/-! ## Numbers -/

/-- A run of digits ends where no digit follows. -/
theorem skipDigits_append {ds t : List Char} (hds : Digits ds) (ht : t.dropWhile isDigit = t) :
    skipDigits (ds ++ t) = .ok t := by
  have hsome : ((ds ++ t).takeWhile isDigit).isEmpty = false := by
    rw [List.takeWhile_append_of_pos hds.2]
    cases ds with
    | nil => exact absurd rfl hds.1
    | cons d ds => rfl
  rw [skipDigits, hsome, List.dropWhile_append_of_pos hds.2, ht]
  rfl

/-- An exponent is passed over as a whole, or there is none. -/
theorem skipExponent_append {e t : List Char} (he : ExponentPart e) (ht : Unextended t) :
    skipExponent (e ++ t) = .ok t := by
  cases he with
  | none =>
    rw [List.nil_append]
    unfold skipExponent
    split
    · exact absurd rfl (ht 'e' rfl).2.2.1
    · exact absurd rfl (ht 'E' rfl).2.2.2
    · rfl
  | @some mark sign ds mark_eq sign_eq digits =>
    have hsign : (exponentSign (sign ++ ds ++ t)).2 = ds ++ t := by
      rcases sign_eq with rfl | rfl | rfl
      · -- the first digit is no sign
        cases hds : ds with
        | nil => exact absurd hds digits.1
        | cons d ds =>
          have hd : isDigit d = true := digits.2 d (hds ▸ List.mem_cons_self)
          rw [List.nil_append, List.cons_append]
          unfold exponentSign
          split
          · next h =>
            cases (List.cons.inj h).1
            cases hd
          · next h =>
            cases (List.cons.inj h).1
            cases hd
          · rfl
      · rfl
      · rfl
    have hdigits := skipDigits_append digits (dropWhile_unextended ht)
    rcases mark_eq with rfl | rfl
    · rw [List.cons_append, skipExponent, hsign, hdigits]
    · rw [List.cons_append, skipExponent, hsign, hdigits]

/-- **A number is passed** up to what does not continue it. -/
theorem skipNumber_unsigned {s t : List Char} (hs : Unsigned s) (ht : Unextended t) :
    skipNumber (s ++ t) = .ok t := by
  obtain ⟨whole, fraction, exponent, ⟨hwhole, hzero⟩, hfraction, hexponent, rfl⟩ := hs
  have hexp : skipExponent (exponent ++ t) = .ok t := skipExponent_append hexponent ht
  -- what follows the whole part, and what follows the fraction, begins with no digit
  have hafter : (exponent ++ t).dropWhile isDigit = exponent ++ t := by
    cases hexponent with
    | none => exact dropWhile_unextended ht
    | some mark_eq => rcases mark_eq with rfl | rfl <;> rfl
  have hrest : (fraction ++ (exponent ++ t)).dropWhile isDigit = fraction ++ (exponent ++ t) := by
    cases hfraction with
    | none => exact hafter
    | some digits => rfl
  have hlead : ¬((whole ++ (fraction ++ (exponent ++ t))).head? = some '0' ∧
      (fraction ++ (exponent ++ t)).length + 1 <
        (whole ++ (fraction ++ (exponent ++ t))).length) := by
    rintro ⟨hhead, hlong⟩
    obtain ⟨d, ds, rfl⟩ := List.exists_cons_of_ne_nil hwhole.1
    have hsingle : d :: ds = ['0'] := hzero hhead
    rw [(List.cons.inj hsingle).2] at hlong
    exact Nat.lt_irrefl _ hlong
  rw [List.append_assoc, List.append_assoc, skipNumber, skipDigits_append hwhole hrest]
  dsimp only
  rw [if_neg hlead]
  cases hfraction with
  | none =>
    rw [List.nil_append]
    split
    · next h =>
      -- neither an exponent nor what follows the number begins with a point
      exfalso
      cases hexponent with
      | none => exact absurd rfl (ht '.' (by rw [← List.nil_append t, h]; rfl)).2.1
      | some mark_eq => rcases mark_eq with rfl | rfl <;> cases h
    · exact hexp
  | some digits =>
    rw [List.cons_append]
    simp only [skipDigits_append digits hafter, hexp]

/-! ## Strings -/

/-- What follows a backslash is passed, and then the rest. -/
theorem skipText_backslash {r t : List Char} (h : skipEscape r = .ok t) :
    skipText ('\\' :: r) = skipText t := by
  rw [skipText]
  split
  · next he => cases he.symm.trans h
  · next he =>
    cases he.symm.trans h
    rfl

/-- An escape by number, and a plain character, are passed over one by one. -/
theorem skipText_unit {r t : List Char} {n : Nat} (h : hexQuad r = .ok (n, t)) :
    skipText ('\\' :: 'u' :: r) = skipText t := by
  apply skipText_backslash
  rw [skipEscape, h]
  rfl

theorem skipText_plain {c : Char} (h : Plain c) (t : List Char) :
    skipText (c :: t) = skipText t := by
  obtain ⟨hquote, hescape, hspace⟩ := h
  rw [skipText]
  · rw [if_neg hspace]
  · exact hquote
  · exact hescape

/-- The letter of a short escape is not that of an escape by number. -/
theorem skipEscape_short {c d : Char} (h : shortEscape? c = some d) (t : List Char) :
    skipEscape (c :: t) = .ok t := by
  unfold skipEscape
  split
  · next heq => cases heq
  · next heq =>
    -- the escape by number is no short one
    cases (List.cons.inj heq).1
    cases h
  · next heq =>
    obtain ⟨rfl, rfl⟩ := List.cons.inj heq
    rw [h]
    rfl

/-- **The inside of a string is passed** up to the closing quote. -/
theorem skipText_inside {s : List Char} (h : Inside s) (t : List Char) :
    skipText (s ++ '"' :: t) = .ok t := by
  induction h with
  | nil => rw [List.nil_append, skipText]
  | plain plain _ ih => rw [List.cons_append, skipText_plain plain, ih]
  | escape short _ ih =>
    rw [List.cons_append, List.cons_append, skipText_backslash (skipEscape_short short _), ih]
  | unit quad _ ih =>
    rw [List.cons_append, List.cons_append, List.append_assoc, skipText_unit (hexQuad_append quad _), ih]

/-! ## One step of the scan -/

section Steps

variable {f : Frame} {frames : List Frame} {s t r : List Char} {c : Char}

/-- A value that encloses none is passed over at once. -/
theorem skipFrom_scalar (hs : skipBlanks s = c :: r) (hlist : c ≠ '[') (hobject : c ≠ '\x7b')
    (hscalar : skipScalar (c :: r) = .ok t) :
    skipFrom .value frames s = skipFrom .after frames t := by
  conv => lhs; rw [skipFrom]
  -- the character in front decides which case of the scan it is
  split
  · next h => cases hs.symm.trans h
  · next h => exact absurd (List.cons.inj (hs.symm.trans h)).1 hlist
  · next h => exact absurd (List.cons.inj (hs.symm.trans h)).1 hobject
  · next h =>
    cases hs.symm.trans h
    split
    · next he => cases hscalar.symm.trans he
    · next he =>
      cases hscalar.symm.trans he
      rfl

/-- The bracket of a list opens a frame, and so does that of an object. -/
theorem skipFrom_list (hs : skipBlanks s = '[' :: r) :
    skipFrom .value frames s = skipFrom .opened (.list :: frames) r := by
  conv => lhs; rw [skipFrom]
  split
  · next h => cases hs.symm.trans h
  · next h =>
    cases hs.symm.trans h
    rfl
  · next h => cases hs.symm.trans h
  · next hlist _ h => exact absurd (List.cons.inj (h.symm.trans hs)).1 hlist

theorem skipFrom_object (hs : skipBlanks s = '\x7b' :: r) :
    skipFrom .value frames s = skipFrom .opened (.object :: frames) r := by
  conv => lhs; rw [skipFrom]
  split
  · next h => cases hs.symm.trans h
  · next h => cases hs.symm.trans h
  · next h =>
    cases hs.symm.trans h
    rfl
  · next hobject h => exact absurd (List.cons.inj (h.symm.trans hs)).1 hobject

/-- The closing bracket of the innermost frame closes it, after a value or at once. -/
theorem skipFrom_close (hs : skipBlanks s = f.closing :: r) :
    skipFrom .opened (f :: frames) s = skipFrom .after frames r ∧
      skipFrom .after (f :: frames) s = skipFrom .after frames r := by
  constructor
  all_goals
    conv => lhs; rw [skipFrom]
    split
    · next h => cases hs.symm.trans h
    · next h =>
      cases hs.symm.trans h
      rw [if_pos rfl]

/-- What else stands behind an opening bracket is the first value, for an object with its name. -/
theorem skipFrom_first (hs : skipBlanks s = c :: r) (hc : c ≠ f.closing)
    (hname : skipName f (c :: r) = .ok t) :
    skipFrom .opened (f :: frames) s = skipFrom .value (f :: frames) t := by
  conv => lhs; rw [skipFrom]
  split
  · next h => cases hs.symm.trans h
  · next h =>
    cases hs.symm.trans h
    rw [if_neg hc]
    split
    · next he => cases hname.symm.trans he
    · next he =>
      cases hname.symm.trans he
      rfl

/-- Behind a comma stands the next one. -/
theorem skipFrom_next (hs : skipBlanks s = ',' :: r) (hname : skipName f r = .ok t) :
    skipFrom .after (f :: frames) s = skipFrom .value (f :: frames) t := by
  -- a comma closes nothing
  have hcomma : ',' ≠ f.closing := by cases f <;> decide
  conv => lhs; rw [skipFrom]
  split
  · next h => cases hs.symm.trans h
  · next h =>
    cases hs.symm.trans h
    rw [if_neg hcomma, if_pos rfl]
    split
    · next he => cases hname.symm.trans he
    · next he =>
      cases hname.symm.trans he
      rfl

/-- Only what stands after white space matters. -/
theorem skipFrom_value_congr (h : skipBlanks s = skipBlanks t) :
    skipFrom .value frames s = skipFrom .value frames t := by
  conv => lhs; rw [skipFrom]
  conv => rhs; rw [skipFrom]
  rw [h]

/-- White space in front of a name makes no difference. -/
theorem skipName_congr (h : skipBlanks s = skipBlanks t) :
    skipName .object s = skipName .object t := by
  rw [skipName, skipName, h]

end Steps

/-! ## What stands at the front -/

/-- A number begins with a digit. -/
theorem front_of_unsigned {s : List Char} (h : Unsigned s) :
    ∃ d r, s = d :: r ∧ isDigit d = true := by
  obtain ⟨whole, fraction, exponent, hwhole, -, -, rfl⟩ := h
  obtain ⟨d, ds, rfl⟩ := List.exists_cons_of_ne_nil hwhole.1.1
  exact ⟨d, _, rfl, hwhole.1.2 d List.mem_cons_self⟩

/-- A value begins with a character that is neither white space nor the end of a list. -/
theorem front_of_value {v : List Char} (h : WellFormed .value v) :
    ∃ c r, v = c :: r ∧ isSpace c = false ∧ c ≠ ']' := by
  cases h with
  | null => exact ⟨_, _, rfl, rfl, by decide⟩
  | true => exact ⟨_, _, rfl, rfl, by decide⟩
  | false => exact ⟨_, _, rfl, rfl, by decide⟩
  -- all other values begin with a fixed character
  | positive unsigned =>
    obtain ⟨d, r, rfl, hd⟩ := front_of_unsigned unsigned
    refine ⟨d, r, rfl, isSpace_of_isDigit hd, ?_⟩
    rintro rfl
    cases hd
  | negative => exact ⟨_, _, rfl, rfl, by decide⟩
  | string => exact ⟨_, _, rfl, rfl, by decide⟩
  | emptyList => exact ⟨_, _, rfl, rfl, by decide⟩
  | list => exact ⟨_, _, rfl, rfl, by decide⟩
  | emptyObject => exact ⟨_, _, rfl, rfl, by decide⟩
  | object => exact ⟨_, _, rfl, rfl, by decide⟩

/-- So does a value with white space in front, when this is skipped. -/
theorem front_of_padded {v s : List Char} (h : WellFormed .value v) (padded : Padded v s)
    (t : List Char) : ∃ c r, skipBlanks (s ++ t) = c :: r ∧ isSpace c = false ∧ c ≠ ']' := by
  obtain ⟨b, b', hb, -, rfl⟩ := padded
  obtain ⟨c, r, rfl, hspace, hclosing⟩ := front_of_value h
  refine ⟨c, r ++ (b' ++ t), ?_, hspace, hclosing⟩
  rw [List.append_assoc, skipBlanks_append hb, List.append_assoc, List.cons_append,
    skipBlanks_cons hspace]

/-- And so do the items of a list, as the first one does. -/
theorem front_of_items {s : List Char} (h : WellFormed .items s) (t : List Char) :
    ∃ c r, skipBlanks (s ++ t) = c :: r ∧ isSpace c = false ∧ c ≠ ']' := by
  cases h with
  | item value padded => exact front_of_padded value padded t
  | items value padded rest =>
    rw [List.append_assoc]
    exact front_of_padded value padded _

/-- A member begins with the quote of its name. -/
theorem skipBlanks_named {name s t : List Char} (named : Named name s t) (r : List Char) :
    ∃ b, Spaces b ∧ skipBlanks (t ++ r) = '"' :: (name ++ '"' :: (b ++ ':' :: (s ++ r))) := by
  obtain ⟨b, b', hb, hb', rfl⟩ := named
  refine ⟨b', hb', ?_⟩
  rw [List.append_assoc, skipBlanks_append hb]
  simp only [quote, List.cons_append, List.append_assoc, List.nil_append]
  rw [skipBlanks_cons rfl]

theorem skipColon_append {b : List Char} (hb : Spaces b) (t : List Char) :
    skipColon (b ++ ':' :: t) = .ok t := by
  rw [skipColon, skipBlanks_append hb, skipBlanks_cons rfl]
  rfl

/-- The name of a member is passed up to its value. -/
theorem skipName_named {name s t : List Char} (inside : Inside name) (named : Named name s t)
    (r : List Char) : skipName .object (t ++ r) = .ok (s ++ r) := by
  obtain ⟨b, hb, hfront⟩ := skipBlanks_named named r
  rw [skipName, hfront]
  simp only [skipText_inside inside, skipColon_append hb]

/-- The members of an object begin with a name. -/
theorem front_of_members {s : List Char} (h : WellFormed .members s) (t : List Char) :
    ∃ r, skipBlanks (s ++ t) = '"' :: r := by
  cases h with
  | member _ _ _ named =>
    obtain ⟨b, -, hfront⟩ := skipBlanks_named named t
    exact ⟨_, hfront⟩
  | members _ _ _ named rest =>
    rw [List.append_assoc]
    obtain ⟨b, -, hfront⟩ := skipBlanks_named named _
    exact ⟨_, hfront⟩

/-! ## Values of any depth -/

/-- Passing ends exactly where the part ends: a value before what does not continue it, the items of a
list and the members of an object before the end of their frame. -/
def Passed : Part → List Char → Prop
  | .value, v => ∀ frames t, Unextended t →
      skipFrom .value frames (v ++ t) = skipFrom .after frames t
  | .items, s => ∀ frames t,
      skipFrom .value (.list :: frames) (s ++ ']' :: t) = skipFrom .after frames t
  | .members, s => ∀ t, ∃ u, skipName .object (s ++ '\x7d' :: t) = .ok u ∧
      ∀ frames, skipFrom .value (.object :: frames) u = skipFrom .after frames t

/-- A value with white space around it, before what does not continue it. -/
theorem Passed.padded {v s t : List Char} (h : Passed .value v) (padded : Padded v s)
    (ht : Unextended t) (frames : List Frame) :
    ∃ b, Spaces b ∧ skipFrom .value frames (s ++ t) = skipFrom .after frames (b ++ t) := by
  obtain ⟨b, b', hb, hb', rfl⟩ := padded
  refine ⟨b', hb', ?_⟩
  rw [← h frames (b' ++ t) (unextended_append hb' ht)]
  apply skipFrom_value_congr
  rw [List.append_assoc, skipBlanks_append hb, List.append_assoc]

/-- A scalar is passed in one step. -/
theorem passed_scalar {c : Char} {r : List Char} (hspace : isSpace c = false) (hlist : c ≠ '[')
    (hobject : c ≠ '\x7b') (h : ∀ t, Unextended t → skipScalar (c :: r ++ t) = .ok t) :
    Passed .value (c :: r) := by
  intro frames t ht
  exact skipFrom_scalar (skipBlanks_cons hspace (r ++ t)) hlist hobject (h t ht)

/-- What begins with a digit is passed over as a number. -/
theorem skipScalar_digit {d : Char} (hd : isDigit d = true) (r : List Char) :
    skipScalar (d :: r) = skipNumber (d :: r) := by
  unfold skipScalar
  split
  case h_6 heq =>
    cases heq
    rw [if_pos hd]
  case h_7 heq => cases heq
  -- the other cases have a character in front that is no digit
  all_goals
    next heq =>
      cases (List.cons.inj heq).1
      cases hd

/-- **Every well-formed part is passed exactly.** Induction on the grammar; the frames that are open
around it are any. -/
theorem passed_of_wellFormed {p : Part} {s : List Char} (h : WellFormed p s) : Passed p s := by
  induction h with
  | null => exact passed_scalar rfl (by decide) (by decide) fun t _ => rfl
  | true => exact passed_scalar rfl (by decide) (by decide) fun t _ => rfl
  | false => exact passed_scalar rfl (by decide) (by decide) fun t _ => rfl
  | positive unsigned =>
    obtain ⟨d, r, rfl, hd⟩ := front_of_unsigned unsigned
    refine passed_scalar (isSpace_of_isDigit hd) ?_ ?_ fun t ht => ?_
    · rintro rfl
      cases hd
    · rintro rfl
      cases hd
    · rw [List.cons_append, skipScalar_digit hd]
      exact skipNumber_unsigned unsigned ht
  | negative unsigned =>
    exact passed_scalar rfl (by decide) (by decide) fun t ht => skipNumber_unsigned unsigned ht
  | @string s inside =>
    refine passed_scalar rfl (by decide) (by decide) fun t _ => ?_
    have htext := skipText_inside inside t
    rw [← List.singleton_append, ← List.append_assoc] at htext
    exact htext
  | @emptyList b spaces =>
    intro frames t _
    have hopen : skipBlanks ('[' :: (b ++ [']']) ++ t) = '[' :: (b ++ ']' :: t) := by
      rw [List.cons_append, skipBlanks_cons rfl, List.append_assoc, List.singleton_append]
    have hclose : skipBlanks (b ++ ']' :: t) = Frame.list.closing :: t := by
      rw [skipBlanks_append spaces, skipBlanks_cons rfl]
      rfl
    rw [skipFrom_list hopen, (skipFrom_close hclose).1]
  | @list s items ih =>
    intro frames t _
    -- the bracket opens a frame, and the items are passed over inside of it
    have hopen : skipBlanks ('[' :: (s ++ [']']) ++ t) = '[' :: (s ++ ']' :: t) := by
      rw [List.cons_append, skipBlanks_cons rfl, List.append_assoc, List.singleton_append]
    obtain ⟨c, r, hfront, hspace, hclosing⟩ := front_of_items items (']' :: t)
    rw [skipFrom_list hopen, skipFrom_first (f := .list) hfront hclosing rfl, ← ih frames t]
    apply skipFrom_value_congr
    rw [hfront, skipBlanks_cons hspace]
  | @emptyObject b spaces =>
    intro frames t _
    have hopen : skipBlanks ('\x7b' :: (b ++ ['\x7d']) ++ t) = '\x7b' :: (b ++ '\x7d' :: t) := by
      rw [List.cons_append, skipBlanks_cons rfl, List.append_assoc, List.singleton_append]
    have hclose : skipBlanks (b ++ '\x7d' :: t) = Frame.object.closing :: t := by
      rw [skipBlanks_append spaces, skipBlanks_cons rfl]
      rfl
    rw [skipFrom_object hopen, (skipFrom_close hclose).1]
  | @object s members ih =>
    intro frames t _
    have hopen : skipBlanks ('\x7b' :: (s ++ ['\x7d']) ++ t) = '\x7b' :: (s ++ '\x7d' :: t) := by
      rw [List.cons_append, skipBlanks_cons rfl, List.append_assoc, List.singleton_append]
    obtain ⟨r, hfront⟩ := front_of_members members ('\x7d' :: t)
    -- behind the brace stands the name of the first member
    obtain ⟨u, hname, hvalue⟩ := ih t
    have hname' : skipName .object ('"' :: r) = .ok u := by
      rw [← hname]
      apply skipName_congr
      rw [hfront, skipBlanks_cons rfl]
    rw [skipFrom_object hopen, skipFrom_first (f := .object) hfront (by decide) hname', hvalue]
  -- the last item is followed by the bracket, and every other one by a comma
  | item value padded ih =>
    intro frames t
    obtain ⟨b, hb, hpassed⟩ :=
      ih.padded padded (unextended_cons (c := ']') (by decide) t) (.list :: frames)
    rw [hpassed, (skipFrom_close (f := .list) ?_).2]
    rw [skipBlanks_append hb, skipBlanks_cons rfl]
    rfl
  | @items v s r value padded rest ih ihrest =>
    intro frames t
    obtain ⟨b, hb, hpassed⟩ :=
      ih.padded padded (unextended_cons (c := ',') (by decide) (r ++ ']' :: t)) (.list :: frames)
    rw [List.append_assoc, List.cons_append, hpassed, skipFrom_next ?_ rfl, ihrest]
    rw [skipBlanks_append hb, skipBlanks_cons rfl]
  -- so it is with the members, which have their names in addition
  | @member name v s t inside value padded named ih =>
    intro r
    refine ⟨_, skipName_named inside named _, fun frames => ?_⟩
    obtain ⟨b, hb, hpassed⟩ :=
      ih.padded padded (unextended_cons (c := '\x7d') (by decide) r) (.object :: frames)
    rw [hpassed, (skipFrom_close (f := .object) ?_).2]
    rw [skipBlanks_append hb, skipBlanks_cons rfl]
    rfl
  | @members name v s t r inside value padded named rest ih ihrest =>
    intro r'
    obtain ⟨u, hname, hvalue⟩ := ihrest r'
    rw [List.append_assoc, List.cons_append]
    refine ⟨_, skipName_named inside named _, fun frames => ?_⟩
    obtain ⟨b, hb, hpassed⟩ :=
      ih.padded padded (unextended_cons (c := ',') (by decide) (r ++ '\x7d' :: r'))
        (.object :: frames)
    rw [hpassed, skipFrom_next ?_ hname, hvalue]
    rw [skipBlanks_append hb, skipBlanks_cons rfl]

/-- **A well-formed value is passed over**, with the white space before it. -/
theorem skipValue_wellFormed {v b t : List Char} (h : WellFormed .value v) (hb : Spaces b)
    (ht : Unextended t) : skipValue (b ++ (v ++ t)) = .ok t := by
  have hpassed := passed_of_wellFormed h [] t ht
  have hsame : skipBlanks (b ++ (v ++ t)) = skipBlanks (v ++ t) := skipBlanks_append hb _
  rw [skipValue, skipFrom_value_congr hsame, hpassed, skipFrom]

end KeyedDelivery.Json
