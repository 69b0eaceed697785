import Mathlib.Data.List.Induction

/-!
# Runs and what is noted along them

A system takes events one after the other, each if it is possible in the state it comes to. What is
noted of each event, in the state in which it happens, is a history of the run.

* **`noted`** — the history of a list of events; **`noted_concat`** adds what is noted of one more.
* **`keeps`** — what holds at the start and is kept by every event holds after every run.
-/

namespace KeyedDelivery.Runs

variable {σ ε ν : Type} {step : σ → ε → Option σ} {s t : σ} {es : List ε}

/-- What is noted of a list of events, as long as each is possible when it happens. -/
def noted (step : σ → ε → Option σ) (note : σ → ε → List ν) (s : σ) : List ε → List ν
  | [] => []
  | e :: es => note s e ++ ((step s e).elim [] fun t => noted step note t es)

/-- One more event, in the state after the others. -/
theorem foldlM_concat (step : σ → ε → Option σ) (s : σ) (es : List ε) (e : ε) :
    (es ++ [e]).foldlM step s = (es.foldlM step s).bind fun t => step t e := by
  simp only [List.foldlM_append, List.foldlM_cons, List.foldlM_nil, bind_pure]
  rfl

/-- The history of a run and of a later one is one history. Induction on the first events. -/
theorem noted_append (note : σ → ε → List ν) (hrun : es.foldlM step s = some t) (later : List ε) :
    noted step note s (es ++ later) = noted step note s es ++ noted step note t later := by
  induction es generalizing s with
  | nil =>
    cases hrun
    rfl
  | cons e es ih =>
    rw [List.foldlM_cons] at hrun
    obtain ⟨r, hr, hrest⟩ := Option.bind_eq_some_iff.mp hrun
    rw [List.cons_append, noted, noted, hr, Option.elim_some, Option.elim_some, ih hrest,
      List.append_assoc]

/-- The history of a run with one more event. -/
theorem noted_concat (note : σ → ε → List ν) (hrun : es.foldlM step s = some t) (e : ε) :
    noted step note s (es ++ [e]) = noted step note s es ++ note t e := by
  have hlast : noted step note t [e] = note t e := by
    rw [noted]
    cases step t e <;> exact List.append_nil _
  rw [noted_append note hrun, hlast]

/-- **Invariants of runs**, which may speak of the events so far; induction on the events, the last
one first. -/
theorem keeps {I : List ε → σ → Prop} (start : I [] s)
    (next : ∀ {es t u e}, es.foldlM step s = some t → step t e = some u → I es t → I (es ++ [e]) u)
    (hrun : es.foldlM step s = some t) : I es t := by
  induction es using List.reverseRecOn generalizing t with
  | nil =>
    cases hrun
    exact start
  | append_singleton es e ih =>
    rw [foldlM_concat] at hrun
    obtain ⟨r, hr, hlast⟩ := Option.bind_eq_some_iff.mp hrun
    exact next hr hlast (ih hr)

end KeyedDelivery.Runs
