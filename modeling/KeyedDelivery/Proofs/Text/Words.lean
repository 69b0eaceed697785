import KeyedDelivery.Text.Blank

/-!
# The words of a text

A text is split at its blanks: a word holds no blank, and on either side of it stands a blank or the
end of the text.

* **`Splits`** — a text with its words, as blanks and words in turn.
* **`splits_iff`** — the words of a text in this sense are those that `words` finds, and no others.
-/

namespace KeyedDelivery.Text

/-- Nothing but blanks. -/
def Blanks (cs : List Char) : Prop := ∀ c ∈ cs, isBlank c = true

/-- A text with its words, in order. -/
inductive Splits : List Char → List (List Char) → Prop where
  | blanks {b : List Char} (blank : Blanks b) : Splits b []
  /-- The first word, after blanks and before a blank or the end. -/
  | word {b w r : List Char} {ws : List (List Char)} (blank : Blanks b) (nonempty : w ≠ [])
      (solid : ∀ c ∈ w, isBlank c = false) (ends : ∀ c ∈ r.head?, isBlank c = true)
      (rest : Splits r ws) : Splits (b ++ w ++ r) (w :: ws)

theorem blanks_cons {c : Char} {cs : List Char} :
    Blanks (c :: cs) ↔ isBlank c = true ∧ Blanks cs := List.forall_mem_cons

/-! ## What `words` finds -/

/-- A blank in front belongs to no word. -/
theorem words_cons_of_isBlank {c : Char} (h : isBlank c = true) (cs : List Char) :
    words (c :: cs) = words cs := by
  cases cs <;> simp [words, h]

/-- Nor do several. -/
theorem words_append_of_blanks {b : List Char} (h : Blanks b) (cs : List Char) :
    words (b ++ cs) = words cs := by
  induction b with
  | nil => rfl
  | cons c b ih =>
    obtain ⟨hc, hb⟩ := blanks_cons.mp h
    rw [List.cons_append, words_cons_of_isBlank hc, ih hb]

/-- A word is found whole when a blank or the end of the text follows. -/
theorem words_append_of_solid {w r : List Char} (nonempty : w ≠ [])
    (solid : ∀ c ∈ w, isBlank c = false) (ends : ∀ c ∈ r.head?, isBlank c = true) :
    words (w ++ r) = w :: words r := by
  induction w with
  | nil => exact absurd rfl nonempty
  | cons c w ih =>
    obtain ⟨hc, hw⟩ := List.forall_mem_cons.mp solid
    -- the last character of the word, with a blank or the end behind it
    cases w with
    | nil =>
      cases r with
      | nil => simp [words, hc]
      | cons d r => simp [words, hc, ends d rfl]
    | cons d w =>
      -- the word goes on, so that the character joins the first word of the rest
      have hd : isBlank d = false := hw d List.mem_cons_self
      have hrest : words (d :: (w ++ r)) = (d :: w) :: words r := ih (List.cons_ne_nil d w) hw
      simp [words, hc, hd, hrest]

/-- A text that is split into words has these words. -/
theorem Splits.words_eq {cs : List Char} {ws : List (List Char)} (h : Splits cs ws) :
    words cs = ws := by
  induction h with
  | @blanks b blank =>
    have hwords := words_append_of_blanks blank []
    rwa [List.append_nil] at hwords
  | word blank nonempty solid ends rest ih =>
    rw [List.append_assoc, words_append_of_blanks blank, words_append_of_solid nonempty solid ends, ih]

/-! ## They are the words -/

/-- A text without words is blank. -/
theorem Splits.blanks_of_nil {cs : List Char} (h : Splits cs []) : Blanks cs := by
  cases h with
  | blanks blank => exact blank

/-- A blank in front leaves the words as they are. -/
theorem Splits.cons_of_isBlank {c : Char} {cs : List Char} {ws : List (List Char)}
    (h : Splits cs ws) (hc : isBlank c = true) : Splits (c :: cs) ws := by
  cases h with
  | blanks blank => exact .blanks (blanks_cons.mpr ⟨hc, blank⟩)
  | word blank nonempty solid ends rest =>
    exact .word (blanks_cons.mpr ⟨hc, blank⟩) nonempty solid ends rest

/-- A character that is no blank makes the first word of what follows longer. -/
theorem Splits.cons_of_solid {c d : Char} {cs w : List Char} {ws : List (List Char)}
    (h : Splits (d :: cs) (w :: ws)) (hc : isBlank c = false) (hd : isBlank d = false) :
    Splits (c :: d :: cs) ((c :: w) :: ws) := by
  generalize htext : d :: cs = text at h
  cases h with
  | @word b _ r _ blank nonempty solid ends rest =>
    cases b with
    | nil =>
      exact .word (b := []) blank (List.cons_ne_nil c w) (List.forall_mem_cons.mpr ⟨hc, solid⟩)
        ends rest
    | cons e b =>
      -- the first character is no blank
      rw [List.cons_append, List.cons_append] at htext
      obtain ⟨rfl, -⟩ := List.cons.inj htext
      rw [(blanks_cons.mp blank).1] at hd
      cases hd

/-- **A text is split into its words.** Induction on the text. -/
theorem splits_words (cs : List Char) : Splits cs (words cs) := by
  fun_induction words cs with
  | case1 => exact .blanks (List.forall_mem_nil _)
  | case2 c hc => exact .blanks (List.forall_mem_singleton.mpr hc)
  | case3 c hc =>
    exact .word (b := []) (w := [c]) (r := []) (List.forall_mem_nil _) (List.cons_ne_nil c [])
      (List.forall_mem_singleton.mpr (by simpa using hc)) (by simp)
      (.blanks (List.forall_mem_nil _))
  | case4 c d r hc ih => exact ih.cons_of_isBlank hc
  | case5 c d r hc hd ih =>
    refine .word (b := []) (w := [c]) (List.forall_mem_nil _) (List.cons_ne_nil c [])
      (List.forall_mem_singleton.mpr (by simpa using hc)) (fun e he => ?_) ih
    cases he
    exact hd
  | case6 c d r _ hd hnone ih =>
    -- the text after it begins with a word
    rw [hnone] at ih
    exact absurd (blanks_cons.mp ih.blanks_of_nil).1 hd
  | case7 c d r hc hd w ws hws ih =>
    rw [hws] at ih
    exact ih.cons_of_solid (by simpa using hc) (by simpa using hd)

/-- **The words of a text** are those that `words` finds. -/
theorem splits_iff {cs : List Char} {ws : List (List Char)} : Splits cs ws ↔ words cs = ws :=
  ⟨Splits.words_eq, fun h => h ▸ splits_words cs⟩

end KeyedDelivery.Text
