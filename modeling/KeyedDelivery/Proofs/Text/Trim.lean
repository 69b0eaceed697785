import KeyedDelivery.Proofs.Text.Words
import Mathlib.Data.List.TakeWhile

/-!
# Trimmed texts

Trimming takes the blanks off both ends of a text and nothing else: blanks that are put around a text
make no difference to it, and a text without blanks at its ends stays as it is.

* **`trim_around`** — blanks around a text.
* **`trim_of_unpadded`** — a text with none.
-/

namespace KeyedDelivery.Text

/-- Neither the first nor the last character is a blank. -/
def Unpadded (cs : List Char) : Prop :=
  (∀ c ∈ cs.head?, isBlank c = false) ∧ ∀ c ∈ cs.getLast?, isBlank c = false

variable {b b' cs : List Char}

/-- Blanks in front, and blanks behind, make no difference to trimming at that end. -/
theorem trimLeft_append (hb : Blanks b) (cs : List Char) : trimLeft (b ++ cs) = trimLeft cs :=
  List.dropWhile_append_of_pos hb

theorem trimRight_append (cs : List Char) (hb : Blanks b) : trimRight (cs ++ b) = trimRight cs := by
  have hreverse : ∀ c ∈ b.reverse, isBlank c = true := fun c hc => hb c (List.mem_reverse.mp hc)
  rw [trimRight, List.reverse_append, List.dropWhile_append_of_pos hreverse, trimRight]

/-- Blanks behind a text make no difference to trimming it. -/
theorem trim_append (cs : List Char) (hb : Blanks b) : trim (cs ++ b) = trim cs := by
  have hnone : b.dropWhile isBlank = [] := List.dropWhile_eq_nil_iff.mpr hb
  show trimRight ((cs ++ b).dropWhile isBlank) = trimRight (cs.dropWhile isBlank)
  rw [List.dropWhile_append]
  split
  · next hblank => rw [hnone, List.isEmpty_iff.mp hblank]
  · exact trimRight_append _ hb

/-- **Blanks around a text** make no difference. -/
theorem trim_around (hb : Blanks b) (cs : List Char) (hb' : Blanks b') :
    trim (b ++ cs ++ b') = trim cs := by
  rw [trim_append _ hb', trim, trimLeft_append hb, ← trim]

/-- A text that begins with no blank loses nothing. -/
theorem dropWhile_of_head {cs : List Char} (h : ∀ c ∈ cs.head?, isBlank c = false) :
    cs.dropWhile isBlank = cs := by
  cases cs with
  | nil => rfl
  | cons c cs => exact List.dropWhile_cons_of_neg (by simp [h c rfl])

/-- **A text without blanks at its ends** is trimmed already. -/
theorem trim_of_unpadded (h : Unpadded cs) : trim cs = cs := by
  have hlast : ∀ c ∈ cs.reverse.head?, isBlank c = false := by
    rw [List.head?_reverse]
    exact h.2
  rw [trim, trimLeft, dropWhile_of_head h.1, trimRight, dropWhile_of_head hlast,
    List.reverse_reverse]

/-- Of blanks, nothing is left. -/
theorem trim_blanks (hb : Blanks b) : trim b = [] := by
  have htrim := trim_append [] hb
  rwa [List.nil_append] at htrim

/-- What is taken off are blanks. -/
theorem exists_trim (cs : List Char) :
    ∃ b b', Blanks b ∧ Blanks b' ∧ cs = b ++ trim cs ++ b' := by
  refine ⟨cs.takeWhile isBlank, ((trimLeft cs).reverse.takeWhile isBlank).reverse,
    fun c => List.mem_takeWhile_imp, fun c hc => ?_, ?_⟩
  · exact List.mem_takeWhile_imp (List.mem_reverse.mp hc)
  · have hright : trim cs ++ ((trimLeft cs).reverse.takeWhile isBlank).reverse = trimLeft cs := by
      rw [trim, trimRight, ← List.reverse_append, List.takeWhile_append_dropWhile,
        List.reverse_reverse]
    rw [List.append_assoc, hright]
    exact List.takeWhile_append_dropWhile.symm

end KeyedDelivery.Text
