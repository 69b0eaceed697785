import KeyedDelivery.Config.Environment
import Mathlib.Data.List.Basic

/-!
# Settings that are overlaid one after the other

A setting is one field of some settings, with the variable that overlays it. Settings are overlaid in
the order of their list; the first variable that does not parse ends this.

* **`Setting`** — a field, its variable, and how the value of the variable is read.
* **`Setting.Fails`**, **`Setting.Gives`** — what one variable does to its field.
* **`overlay`** — all variables in order; `overlay_fails` and `gives_of_overlay` say how it ends.
* **`Overlays`** — what it means that a reader of environments goes by a list of settings;
  `overlays_of_eq` derives it from the reader's equation with `overlay`.
-/

namespace KeyedDelivery

/-- One field of the settings `γ`, and the variable that overlays it. -/
structure Setting (γ : Type) where
  var : String
  /-- What the value of the variable should be, in words. -/
  expected : String
  Value : Type
  read : String → Option Value
  get : γ → Value
  set : Value → γ → γ
  get_set : ∀ v c, get (set v c) = v := by intros; rfl
  set_get : ∀ c, set (get c) c = c := by intros; rfl

namespace Setting

variable {γ α : Type} {env : Environment} {c c' : γ} {x : Setting γ} {xs : List (Setting γ)}

/-- A text, taken as it stands. -/
@[reducible] def text (var : String) (get : γ → String) (set : String → γ → γ)
    (get_set : ∀ v c, get (set v c) = v := by intros; rfl)
    (set_get : ∀ c, set (get c) c = c := by intros; rfl) : Setting γ :=
  ⟨var, "text", String, some, get, set, get_set, set_get⟩

/-- A value that has to parse after trimming. -/
@[reducible] def parsed (var expected : String) (parse : List Char → Option α) (get : γ → α)
    (set : α → γ → γ) (get_set : ∀ v c, get (set v c) = v := by intros; rfl)
    (set_get : ∀ c, set (get c) c = c := by intros; rfl) : Setting γ :=
  ⟨var, expected, α, fun value => parse (Text.trim value.toList), get, set, get_set, set_get⟩

/-- The variable is set to a value that does not parse. -/
def Fails (x : Setting γ) (env : Environment) (value : String) : Prop :=
  env x.var = some value ∧ x.read value = none

/-- In `c` the field has the value of its variable, or that of `base` when this is not set. -/
def Gives (x : Setting γ) (env : Environment) (base c : γ) : Prop :=
  match env x.var with
  | none => x.get c = x.get base
  | some value => x.read value = some (x.get c)

/-- Neither field is touched when the other is set. -/
def Apart (x y : Setting γ) : Prop :=
  (∀ v c, y.get (x.set v c) = y.get c) ∧ ∀ v c, x.get (y.set v c) = x.get c

/-- Overlays one setting. -/
def enter (x : Setting γ) (env : Environment) (c : γ) : Except ConfigError γ :=
  match env x.var with
  | none => .ok c
  | some value =>
    match x.read value with
    | none => .error (.environment x.var value x.expected)
    | some v => .ok (x.set v c)

/-- Overlays settings in their order. -/
def overlay (env : Environment) : List (Setting γ) → γ → Except ConfigError γ
  | [], c => .ok c
  | x :: xs, c =>
    match x.enter env c with
    | .error e => .error e
    | .ok c => overlay env xs c

/-! ## One setting -/

/-- A variable that does not parse ends the reading, with its name, its value and what was
expected. -/
theorem enter_fails {value : String} (h : x.Fails env value) (c : γ) :
    x.enter env c = .error (.environment x.var value x.expected) := by
  rw [enter, h.1]
  dsimp only
  rw [h.2]

/-- A setting that does not fail gives its field a value, and no other is touched. -/
theorem enter_cases (x : Setting γ) (env : Environment) (c : γ) :
    (∃ value, x.Fails env value) ∨ ∃ c', x.enter env c = .ok c' ∧ x.Gives env c c' ∧
      ∀ y, x.Apart y → y.get c' = y.get c := by
  unfold enter Gives Fails
  cases hvar : env x.var with
  -- without its variable the field keeps its value
  | none => exact .inr ⟨c, rfl, rfl, fun y _ => rfl⟩
  | some value =>
    cases hread : x.read value with
    | none => exact .inl ⟨value, rfl, hread⟩
    | some v =>
      refine .inr ⟨x.set v c, ?_, ?_, fun y hy => hy.1 v c⟩
      · dsimp only
        rw [hread]
      · dsimp only
        rw [x.get_set]
        exact hread

/-- The value of a field is determined by its own variable. -/
theorem Gives.get_eq {env' : Environment} {base : γ} (h : x.Gives env base c)
    (h' : x.Gives env' base c') (hvar : env' x.var = env x.var) : x.get c' = x.get c := by
  unfold Gives at h h'
  rw [hvar] at h'
  -- the variable is unset both times, or has the same value both times
  cases hx : env x.var with
  | none =>
    rw [hx] at h h'
    exact h'.trans h.symm
  | some value =>
    rw [hx] at h h'
    exact Option.some.inj (h'.symm.trans h)

/-! ## All settings -/

/-- **The first variable that does not parse** is the error, whatever the others hold. -/
theorem overlay_fails {before after : List (Setting γ)} {value : String}
    (hbefore : ∀ y ∈ before, ∀ v, ¬y.Fails env v) (hfails : x.Fails env value) (c : γ) :
    overlay env (before ++ x :: after) c = .error (.environment x.var value x.expected) := by
  induction before generalizing c with
  | nil => rw [List.nil_append, overlay, enter_fails hfails]
  | cons y before ih =>
    obtain ⟨hy, hrest⟩ := List.forall_mem_cons.mp hbefore
    rw [List.cons_append, overlay]
    -- an earlier setting does not fail, so that the next one is reached
    rcases y.enter_cases env c with ⟨v, hv⟩ | ⟨c', hc', -⟩
    · exact absurd hv (hy v)
    · rw [hc']
      exact ih hrest c'

/-- If every variable parses, all settings are overlaid. -/
theorem overlay_reads (h : ∀ x ∈ xs, ∀ v, ¬x.Fails env v) (c : γ) :
    ∃ c', overlay env xs c = .ok c' := by
  induction xs generalizing c with
  | nil => exact ⟨c, rfl⟩
  | cons x xs ih =>
    obtain ⟨hx, hxs⟩ := List.forall_mem_cons.mp h
    rw [overlay]
    rcases x.enter_cases env c with ⟨v, hv⟩ | ⟨c', hc', -⟩
    · exact absurd hv (hx v)
    · rw [hc']
      exact ih hxs c'

/-- **Each field gets the value of its own variable**, as no setting touches another's field. -/
theorem gives_of_overlay (hapart : xs.Pairwise Apart) (h : overlay env xs c = .ok c') :
    (∀ x ∈ xs, x.Gives env c c') ∧ ∀ y, (∀ x ∈ xs, x.Apart y) → y.get c' = y.get c := by
  induction xs generalizing c with
  | nil =>
    cases h
    exact ⟨nofun, fun y _ => rfl⟩
  | cons x xs ih =>
    obtain ⟨hx, hxs⟩ := List.pairwise_cons.mp hapart
    rw [overlay] at h
    rcases x.enter_cases env c with ⟨v, hv⟩ | ⟨d, hd, hgives, hothers⟩
    · rw [enter_fails hv] at h
      cases h
    rw [hd] at h
    obtain ⟨hrest, huntouched⟩ := ih hxs h
    refine ⟨List.forall_mem_cons.mpr ⟨?_, fun y hy => ?_⟩, fun y hy => ?_⟩
    · -- the settings that follow leave the field as it is
      have hstays : x.get c' = x.get d := huntouched x fun y hy => (hx y hy).symm
      unfold Gives at hgives ⊢
      rwa [hstays]
    · have hbase : y.get d = y.get c := hothers y (hx y hy)
      have hy := hrest y hy
      unfold Gives at hy ⊢
      rwa [hbase] at hy
    · obtain ⟨hxy, hrest⟩ := List.forall_mem_cons.mp hy
      exact (huntouched y hrest).trans (hothers y hxy)

/-! ## Overlaying as reading one value after the other -/

/-- A text is taken as it is, so that it never fails. -/
theorem overlay_text (env : Environment) (var : String) (get : γ → String) (set : String → γ → γ)
    (get_set : ∀ v c, get (set v c) = v) (set_get : ∀ c, set (get c) c = c) (xs : List (Setting γ))
    (c : γ) : overlay env (text var get set get_set set_get :: xs) c =
      overlay env xs (set (env.text var (get c)) c) := by
  rw [overlay, enter, Environment.text]
  cases env var with
  | none =>
    rw [Option.getD_none, set_get]
  | some value => rfl

/-- A value that is parsed is read before the settings behind it. -/
theorem overlay_parsed (env : Environment) (var expected : String) (parse : List Char → Option α)
    (get : γ → α) (set : α → γ → γ) (get_set : ∀ v c, get (set v c) = v)
    (set_get : ∀ c, set (get c) c = c) (xs : List (Setting γ)) (c : γ) :
    overlay env (parsed var expected parse get set get_set set_get :: xs) c =
      env.parsed var expected parse (get c) >>= fun v => overlay env xs (set v c) := by
  rw [overlay, enter, Environment.parsed]
  cases env var with
  | none =>
    show _ = overlay env xs (set (get c) c)
    rw [set_get]
  | some value =>
    dsimp only
    cases parse (Text.trim value.toList) <;> rfl

end Setting

/-! ## Readers of environments -/

/-- **A reader of environments goes by a list of settings**, in this order, over the settings `base`. -/
structure Overlays {γ : Type} (settings : List (Setting γ)) (base : γ)
    (validate : γ → Except ConfigError Unit) (reader : Environment → Except ConfigError γ) : Prop where
  /-- Every field is one of the settings. -/
  covers : ∀ c c', (∀ x ∈ settings, x.get c = x.get c') → c = c'
  /-- No two of them share a variable. -/
  distinct : (settings.map (·.var)).Nodup
  /-- The first variable that does not parse is the error, whatever the others hold. -/
  fails : ∀ env before x after value, settings = before ++ x :: after →
    (∀ y ∈ before, ∀ v, ¬y.Fails env v) → x.Fails env value →
      reader env = .error (.environment x.var value x.expected)
  /-- If every variable parses, each field has the value of its own variable, or that of `base` if this
  is not set, and the check of these settings decides. -/
  gives : ∀ env, (∀ x ∈ settings, ∀ v, ¬x.Fails env v) → ∃ c,
    (∀ x ∈ settings, x.Gives env base c) ∧ (validate c = .ok () → reader env = .ok c) ∧
      ∀ e, validate c = .error e → reader env = .error e
  /-- What is read has passed the check. -/
  checked : ∀ env c, reader env = .ok c → validate c = .ok ()
  /-- Another value of one variable changes no field but its own. -/
  alone : ∀ env env' var c c', (∀ name, name ≠ var → env' name = env name) →
    reader env = .ok c → reader env' = .ok c' →
      ∀ x ∈ settings, x.var ≠ var → x.get c' = x.get c

open Setting in
/-- **A reader that overlays the settings and then checks them** goes by them. -/
theorem overlays_of_eq {γ : Type} {settings : List (Setting γ)} {base : γ}
    {validate : γ → Except ConfigError Unit} {reader : Environment → Except ConfigError γ}
    (heq : ∀ env, reader env =
      overlay env settings base >>= fun c => validate c >>= fun _ => pure c)
    (covers : ∀ c c', (∀ x ∈ settings, x.get c = x.get c') → c = c')
    (distinct : (settings.map (·.var)).Nodup) (apart : settings.Pairwise Apart) :
    Overlays settings base validate reader := by
  have hread {env : Environment} {c : γ} (h : overlay env settings base = .ok c) :
      reader env = validate c >>= fun _ => pure c := by
    rw [heq, h]
    rfl
  -- a reader that returns has overlaid all settings and passed the check
  have hok {env : Environment} {c : γ} (h : reader env = .ok c) :
      overlay env settings base = .ok c ∧ validate c = .ok () := by
    cases hc : overlay env settings base with
    | error e =>
      rw [heq, hc] at h
      cases h
    | ok d =>
      rw [hread hc] at h
      cases hd : validate d with
      | error e =>
        rw [hd] at h
        cases h
      | ok u =>
        rw [hd] at h
        cases h
        exact ⟨rfl, hd⟩
  refine ⟨covers, distinct, ?_, fun env hall => ?_, fun env c h => (hok h).2, ?_⟩
  · rintro env before x after value rfl hbefore hfails
    rw [heq, overlay_fails hbefore hfails]
    rfl
  · obtain ⟨c, hc⟩ := overlay_reads hall base
    refine ⟨c, (gives_of_overlay apart hc).1, fun h => ?_, fun e h => ?_⟩
    · rw [hread hc, h]
      rfl
    · rw [hread hc, h]
      rfl
  · intro env env' var c c' hsame h h' x hx hne
    -- what a setting gives is decided by its own variable, and that is the same in both
    -- environments
    have hgives := (gives_of_overlay apart (hok h).1).1 x hx
    have hgives' := (gives_of_overlay apart (hok h').1).1 x hx
    exact hgives.get_eq hgives' (hsame x.var hne)

end KeyedDelivery
