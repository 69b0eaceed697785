import KeyedDelivery.Consumer.Run
import KeyedDelivery.Producer.Async
import KeyedDelivery.Proofs.Config.Setting
import Mathlib.Data.List.Nodup

/-!
# Settings from an environment

Which variable overlays which field of the four kinds of settings, and in which order the variables are
read. Each reader goes by its list (`Overlays`), and what it returns is accepted where these settings
are taken.

* **`LockConfig.settings`**, **`ProducerConfig.settings`**, **`ConsumerConfig.settings`**,
  **`PoolConfig.settings`** — the variables in the order in which they are read.
* **`settings_overlaid`** — the readers go by them.
-/

namespace KeyedDelivery

open Setting (overlay overlay_text overlay_parsed Apart)

/-- A span of time in milliseconds. -/
def millis? (cs : List Char) : Option Nat := (count64? cs).map Time.millis

def policy? (cs : List Char) : Option OverloadPolicy :=
  (OverloadPolicy.parse (String.ofList cs)).toOption

/-! ## Locks -/

namespace LockConfig

def settings : List (Setting LockConfig) := [
  .text "LOCKMQ_LOCK_REGISTRY_KEY" (·.registryKey) fun v c => { c with registryKey := v },
  .parsed "LOCKMQ_LOCK_EXPIRE_MS" "u64" millis? (·.expireAfter) fun v c =>
    { c with expireAfter := v },
  .parsed "LOCKMQ_LOCK_ACQUIRE_TIMEOUT_MS" "u64" millis? (·.acquireTimeout) fun v c =>
    { c with acquireTimeout := v },
  .parsed "LOCKMQ_LOCK_POLL_MS" "u64" millis? (·.pollInterval) fun v c =>
    { c with pollInterval := v }]

/-- The reader overlays its settings one after the other, and then checks the result. -/
theorem fromEnvironment_eq (env : Environment) :
    fromEnvironment env = overlay env settings {} >>= fun c => validate c >>= fun _ => pure c := by
  rw [settings, overlay_text]
  simp only [overlay_parsed, bind_assoc]
  rfl

/-- **The settings of locks go by their list**: each variable stands for a field of its own. -/
theorem overlays : Overlays settings {} validate fromEnvironment := by
  refine overlays_of_eq fromEnvironment_eq (fun c c' h => ?_) (by decide) (by simp [settings, Apart])
  cases c
  cases c'
  simpa [settings] using h

/-- The locks of a producer take settings that pass the check. -/
theorem ofConfig_checked {c : LockConfig} (h : c.validate = .ok ()) {σ η : Type}
    (service : LockService σ η) : ∃ x, Exclusion.ofConfig service c = .ok x := by
  rw [Exclusion.ofConfig, h]
  exact ⟨_, rfl⟩

end LockConfig

/-! ## Producers -/

namespace ProducerConfig

def settings : List (Setting ProducerConfig) := [
  .text "LOCKMQ_PRODUCER_GROUP" (·.group) fun v c => { c with group := v },
  .text "LOCKMQ_PRODUCER_TOPIC" (·.topic) fun v c => { c with topic := v },
  .text "LOCKMQ_PRODUCER_TAG" (·.tag) fun v c => { c with tag := v },
  .text "LOCKMQ_PRODUCER_LOCK_KEY_PREFIX" (·.lockKeyPrefix) fun v c =>
    { c with lockKeyPrefix := v },
  .parsed "LOCKMQ_PRODUCER_SEND_TIMEOUT_MS" "u64" millis? (·.sendTimeout) fun v c =>
    { c with sendTimeout := v },
  .parsed "LOCKMQ_PRODUCER_RETRY_TIMES" "u32" count32? (·.retryTimes) fun v c =>
    { c with retryTimes := v }]

/-- The reader of a producer does the same with its own list. -/
theorem fromEnvironment_eq (env : Environment) :
    fromEnvironment env = overlay env settings {} >>= fun c => validate c >>= fun _ => pure c := by
  rw [settings, overlay_text, overlay_text, overlay_text, overlay_text]
  simp only [overlay_parsed, bind_assoc]
  rfl

theorem overlays : Overlays settings {} validate fromEnvironment := by
  refine overlays_of_eq fromEnvironment_eq (fun c c' h => ?_) (by decide) (by simp [settings, Apart])
  cases c
  cases c'
  simpa [settings] using h

/-- A producer is not refused for settings that pass the check. -/
theorem start_checked {σ η : Type} {p : Producer σ η} (h : p.config.validate = .ok ())
    (pool : Option (WorkerPool Message Unit)) (s : σ) (e : ConfigError) :
    ProducerRun.start p pool s ≠ .error (.config e) := by
  rw [ProducerRun.start, h]
  dsimp only
  split
  · exact nofun
  · exact nofun

end ProducerConfig

/-! ## Consumers -/

namespace ConsumerConfig

def settings : List (Setting ConsumerConfig) := [
  .text "LOCKMQ_CONSUMER_GROUP" (·.group) fun v c => { c with group := v },
  .text "LOCKMQ_CONSUMER_TOPIC" (·.topic) fun v c => { c with topic := v },
  .text "LOCKMQ_CONSUMER_TAG_FILTER" (·.tagFilter) fun v c => { c with tagFilter := v },
  .parsed "LOCKMQ_CONSUMER_MAX_RETRY_TIMES" "u32" count32? (·.maxRetryTimes) fun v c =>
    { c with maxRetryTimes := v },
  .parsed "LOCKMQ_CONSUMER_MAX_CONCURRENT" "usize" count64? (·.maxConcurrent) fun v c =>
    { c with maxConcurrent := v }]

theorem fromEnvironment_eq (env : Environment) :
    fromEnvironment env = overlay env settings {} >>= fun c => validate c >>= fun _ => pure c := by
  rw [settings, overlay_text, overlay_text, overlay_text]
  simp only [overlay_parsed, bind_assoc]
  rfl

theorem overlays : Overlays settings {} validate fromEnvironment := by
  refine overlays_of_eq fromEnvironment_eq (fun c c' h => ?_) (by decide) (by simp [settings, Apart])
  cases c
  cases c'
  simpa [settings] using h

/-- There is a consumer for settings that pass the check. -/
theorem create_checked {σ : Type} {k : Consumer σ} (h : k.config.validate = .ok ())
    (pool : WorkerPool Delivery Unit) : ∃ r, ConsumerRun.create k pool = .ok r := by
  rw [ConsumerRun.create, h]
  exact ⟨_, rfl⟩

end ConsumerConfig

/-! ## Pools -/

namespace PoolConfig

/-- The variables of a scope. -/
def settings (scope : String) : List (Setting PoolConfig) := [
  .text (settingVariable scope "NAME") (·.name) fun v c => { c with name := v },
  .parsed (settingVariable scope "CORE_SIZE") "usize" count64? (·.coreSize) fun v c =>
    { c with coreSize := v },
  .parsed (settingVariable scope "MAX_SIZE") "usize" count64? (·.maxSize) fun v c =>
    { c with maxSize := v },
  .parsed (settingVariable scope "QUEUE_CAPACITY") "usize" count64? (·.queueCapacity) fun v c =>
    { c with queueCapacity := v },
  .parsed (settingVariable scope "KEEP_ALIVE_MS") "u64" millis? (·.keepAlive) fun v c =>
    { c with keepAlive := v },
  .parsed (settingVariable scope "OVERLOAD_POLICY") "overload policy" policy? (·.policy) fun v c =>
    { c with policy := v }]

/-- A pool has settings to begin with, and variables with the name of its scope. -/
theorem fromEnvironment_eq (base : PoolConfig) (scope : String) (env : Environment) :
    fromEnvironment base scope env =
      overlay env (settings scope) base >>= fun c => validate c >>= fun _ => pure c := by
  rw [settings, overlay_text]
  simp only [overlay_parsed, bind_assoc]
  rfl

/-- Two settings of a scope have two variables. -/
theorem settingVariable_injective (scope : String) :
    Function.Injective (settingVariable scope) := by
  intro a b h
  have hchars := congrArg String.toList h
  simp only [settingVariable, String.toList_append] at hchars
  exact String.toList_inj.mp (List.append_cancel_left hchars)

/-- In every scope the settings have variables of their own. -/
theorem settings_distinct (scope : String) : ((settings scope).map (·.var)).Nodup := by
  let names : List String :=
    ["NAME", "CORE_SIZE", "MAX_SIZE", "QUEUE_CAPACITY", "KEEP_ALIVE_MS", "OVERLOAD_POLICY"]
  have hnames : names.Nodup := by decide
  have hvars : (settings scope).map (·.var) = names.map (settingVariable scope) := rfl
  rw [hvars]
  exact hnames.map (settingVariable_injective scope)

/-- **The settings of a pool go by their list**, in every scope and over every settings to begin
with. -/
theorem overlays (base : PoolConfig) (scope : String) :
    Overlays (settings scope) base validate (fromEnvironment base scope) := by
  refine overlays_of_eq (fromEnvironment_eq base scope) (fun c c' h => ?_) (settings_distinct scope)
    (by simp [settings, Apart])
  cases c
  cases c'
  simp only [settings, List.forall_mem_cons] at h
  obtain ⟨rfl, rfl, rfl, rfl, rfl, rfl, -⟩ := h
  rfl

/-- There is a pool for settings that pass the check. -/
theorem ofConfig_checked {c : PoolConfig} (h : c.validate = .ok ()) (τ ρ : Type) :
    ∃ p : WorkerPool τ ρ, WorkerPool.ofConfig c = .ok p := by
  rw [WorkerPool.ofConfig, h]
  exact ⟨_, rfl⟩

end PoolConfig

/-! ## All four -/

/-- **Settings are read from an environment as their lists say**, in every environment, and for pools
over any settings and in any scope:

* the first variable of a number, a time or a policy that does not parse after trimming is the error,
  with its untrimmed value, whatever the other variables hold;
* otherwise each field has the value of its own variable, or that of the default settings (of the
  settings of the pool) when this is not set; they are returned if they pass their check, and are
  refused for the reason of the check if not;
* two values of one variable give settings that differ in no field but its own;
* what is returned is accepted by the locks, the producers, the consumers and the pools that are made
  with it. -/
theorem settings_overlaid :
    Overlays LockConfig.settings {} LockConfig.validate LockConfig.fromEnvironment ∧
    Overlays ProducerConfig.settings {} ProducerConfig.validate ProducerConfig.fromEnvironment ∧
    Overlays ConsumerConfig.settings {} ConsumerConfig.validate ConsumerConfig.fromEnvironment ∧
    (∀ base scope, Overlays (PoolConfig.settings scope) base PoolConfig.validate
      (PoolConfig.fromEnvironment base scope)) ∧
    (∀ env c, LockConfig.fromEnvironment env = .ok c →
      ∀ (σ η : Type) (service : LockService σ η), ∃ x, Exclusion.ofConfig service c = .ok x) ∧
    (∀ env c, ProducerConfig.fromEnvironment env = .ok c →
      ∀ (σ η : Type) (p : Producer σ η), p.config = c →
        ∀ pool s e, ProducerRun.start p pool s ≠ .error (.config e)) ∧
    (∀ env c, ConsumerConfig.fromEnvironment env = .ok c →
      ∀ (σ : Type) (k : Consumer σ), k.config = c →
        ∀ pool, ∃ r, ConsumerRun.create k pool = .ok r) ∧
    ∀ base scope env c, PoolConfig.fromEnvironment base scope env = .ok c →
      ∀ τ ρ : Type, ∃ p : WorkerPool τ ρ, WorkerPool.ofConfig c = .ok p := by
  -- four lists, and for each what is done with settings that passed their check
  refine ⟨LockConfig.overlays, ProducerConfig.overlays, ConsumerConfig.overlays,
    PoolConfig.overlays, ?_, ?_, ?_, ?_⟩
  · intro env c h σ η service
    exact LockConfig.ofConfig_checked (LockConfig.overlays.checked env c h) service
  · rintro env c h σ η p rfl pool s e
    exact ProducerConfig.start_checked (ProducerConfig.overlays.checked env _ h) pool s e
  · rintro env c h σ k rfl pool
    exact ConsumerConfig.create_checked (ConsumerConfig.overlays.checked env _ h) pool
  · intro base scope env c h τ ρ
    exact PoolConfig.ofConfig_checked ((PoolConfig.overlays base scope).checked env c h) τ ρ

/-- Of two variables that do not parse the one that is read first is named, though the settings would
not pass their check either. -/
example : LockConfig.fromEnvironment (.ofList [("LOCKMQ_LOCK_POLL_MS", "-1"),
    ("LOCKMQ_LOCK_EXPIRE_MS", " soon "), ("LOCKMQ_LOCK_REGISTRY_KEY", "")]) =
      .error (.environment "LOCKMQ_LOCK_EXPIRE_MS" " soon " "u64") := by decide

end KeyedDelivery
