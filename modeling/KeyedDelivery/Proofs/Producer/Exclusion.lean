import KeyedDelivery.Proofs.Producer.Traffic
import Mathlib.Data.List.Induction

/-!
# Locked sends exclude each other

What has happened to a send can be told from how far it has come.

* **`wasGranted_run`** — a send that holds a lock was granted it, at the time it says.
* **`hasBegun_of_calls`** — a send that called its transport is under way or has ended by itself; it
  was not skipped.
* **`sends_exclusive`** — at most one locked send of a key is under way, unless a lock has expired,
  and a send that was not granted its lock has called nothing.
-/

namespace KeyedDelivery

namespace SendPoint

/-- Whether a send may have called its transport: it sends, or has ended by itself. One that was
skipped has not, nor has one whose call panicked while it took its lock. -/
def hasBegun : SendPoint → Bool
  | .sending _ _ => true
  | .ended (.skipped _) => false
  | .ended (.panicked _) => false
  | .ended _ => true
  | _ => false

/-- A send that is under way has begun. -/
theorem hasBegun_of_isSending {p : SendPoint} (h : p.isSending = true) : p.hasBegun = true := by
  cases p with
  | sending hold stage => rfl
  | _ => cases h

end SendPoint

namespace Traffic

variable {σ : Type} {x : Traffic σ} {s : Sending σ}

/-! ## What came before -/

/-- One event more. -/
theorem run_concat (x : Traffic σ) (es : List (Event σ)) (e : Event σ) :
    x.run (es ++ [e]) = (x.run es).step e := by
  rw [run, List.foldl_append]
  rfl

theorem calls_concat (x : Traffic σ) (es : List (Event σ)) (e : Event σ) :
    x.calls (es ++ [e]) = x.calls es ++ ((x.run es).call? e).toList := by
  induction es generalizing x with
  | nil => simp [calls, run]
  | cons e' es ih => rw [List.cons_append, calls, ih, calls, List.append_assoc]; rfl

/-- A send is still there after an event, as it was or one step further. -/
theorem sends_kept (e : Event σ) {i : Nat} (h : x.sends[i]? = some s) :
    ∃ s', (x.step e).sends[i]? = some s' ∧ (s' = s ∨ s' = { s with point := (x.advance s).1 }) := by
  have hi := (List.getElem?_eq_some_iff.mp h).1
  cases e with
  | begin sender m => exact ⟨s, by rw [step, List.getElem?_append_left hi, h], .inl rfl⟩
  | proceed j =>
    rw [step]
    split
    · exact ⟨s, h, .inl rfl⟩
    · next t ht =>
      -- another send that proceeds does not move this one
      by_cases hij : j = i
      · subst hij
        obtain rfl := Option.some.inj (h.symm.trans ht)
        exact ⟨_, by rw [List.getElem?_set_self hi], .inr rfl⟩
      · exact ⟨s, by rw [List.getElem?_set_ne hij, h], .inl rfl⟩
  | locks e =>
    rw [step]
    split <;> exact ⟨s, h, .inl rfl⟩
  | elsewhere f => exact ⟨s, h, .inl rfl⟩

/-- In the run `es` the send `i` was granted its lock at time `t`. -/
def WasGranted (x : Traffic σ) (es : List (Event σ)) (i t : Nat) : Prop :=
  ∃ before e after, es = before ++ e :: after ∧ (x.run before).granted? e = some i ∧
    (x.run before).locks.now = t

/-- What was granted in a run was granted in every longer one. -/
theorem WasGranted.later {es : List (Event σ)} {i t : Nat} (h : WasGranted x es i t) (e : Event σ) :
    WasGranted x (es ++ [e]) i t := by
  obtain ⟨before, e', after, rfl, hgranted, htime⟩ := h
  exact ⟨before, e', after ++ [e], by simp, hgranted, htime⟩

/-- A step after which a send holds a lock is the grant, or the send held it before. -/
theorem Advanced.hold?_cases {point : SendPoint} {locks : Contention} {world : σ}
    (h : Advanced x s point locks world) {hold : Hold} (hhold : point.hold? = some hold) :
    s.point.hold? = some hold ∨ s.point.hold? = none ∧ hold.since = x.locks.now := by
  cases h with
  | @called hold' stage before => exact .inl (by rw [before]; exact hhold)
  | @looked token e acts owns before =>
    rcases SendPoint.afterLook_cases token x.locks.now (x.locks.step e).1 with
      ⟨m, -, hpoint⟩ | ⟨r, hpoint⟩ | hpoint
    · rw [hpoint] at hhold
      cases hhold
      -- the look that was granted is where the hold comes from
      refine .inr ⟨?_, rfl⟩
      cases hs : s.point with
      | sending hold stage => rw [hs] at before; cases before
      | _ => rfl
    · rw [hpoint] at hhold
      cases hhold
    · rw [hpoint] at hhold
      cases hhold
  | _ => cases hhold

/-- **A send that holds a lock was granted it**; induction on the run. -/
theorem wasGranted_run (x : Traffic σ) (es : List (Event σ))
    (hstart : ∀ s ∈ x.sends, s.point.hold? = none) {i : Nat} {h : Hold}
    (hs : (x.run es).sends[i]? = some s) (hhold : s.point.hold? = some h) :
    WasGranted x es i h.since := by
  induction es using List.reverseRecOn generalizing s with
  | nil =>
    rw [hstart s (List.mem_of_getElem? hs)] at hhold
    cases hhold
  | append_singleton es e ih =>
    rw [run_concat] at hs
    -- the send was there before, it has just advanced, or it is new
    rcases sends_step hs with hold | ⟨s', hs', rfl, rfl⟩ | ⟨sender, m, rfl, rfl⟩
    · exact (ih hold hhold).later e
    · rcases (advanced_of_advance (x.run es) s').hold?_cases hhold with hbefore | ⟨hnone, htime⟩
      · exact (ih hs' hbefore).later _
      · refine ⟨es, .proceed i, [], rfl, ?_, htime.symm⟩
        have hnew : ((x.run es).advance s').1.hold? = some h := hhold
        -- it holds nothing before this step and something after, so this is the grant
        simp [granted?, hs', hnone, hnew]
    · cases hhold

/-- A send that has begun goes on, or ends with the answer it has. -/
theorem Advanced.hasBegun {point : SendPoint} {locks : Contention} {world : σ}
    (h : Advanced x s point locks world) (before : s.point.hasBegun = true) :
    point.hasBegun = true := by
  cases h with
  | began | called => rfl
  | @released hold result => cases result <;> rfl
  | @ended result => cases result <;> rfl
  | rested point => rwa [point] at before
  | refused r arriving | came deadline arriving => rw [arriving] at before; cases before
  | looked e acts owns hlooks =>
    -- a send that looks has a handle, and does not send yet
    cases hpoint : s.point with
    | sending hold stage => rw [hpoint] at hlooks; cases hlooks
    | ended outcome => rw [hpoint] at owns; cases owns
    | _ => rw [hpoint] at before; cases before

/-- A send that makes a call sends. -/
theorem sending_of_call {e : Event σ} {i : Nat} {call : SendCall} (h : x.call? e = some (i, call)) :
    ∃ s, x.sends[i]? = some s ∧ s.point.isSending = true := by
  cases e with
  | proceed j =>
    rw [call?] at h
    split at h
    · cases h
    · next s hs =>
      split at h
      · next hold stage hpoint =>
        obtain ⟨call', -, heq⟩ := Option.map_eq_some_iff.mp h
        cases heq
        exact ⟨s, hs, by rw [hpoint]; rfl⟩
      · cases h
  | _ => cases h

/-- **A send that made a call has begun**; induction on the run. -/
theorem hasBegun_of_calls (x : Traffic σ) (es : List (Event σ)) {i : Nat} {call : SendCall}
    (h : (i, call) ∈ x.calls es) :
    ∃ s, (x.run es).sends[i]? = some s ∧ s.point.hasBegun = true := by
  induction es using List.reverseRecOn with
  | nil => cases h
  | append_singleton es e ih =>
    -- the call was made earlier, or it is of this event
    have hbefore : ∃ s, (x.run es).sends[i]? = some s ∧ s.point.hasBegun = true := by
      rw [calls_concat, List.mem_append, Option.mem_toList] at h
      rcases h with h | h
      · exact ih h
      · obtain ⟨s, hs, hsending⟩ := sending_of_call h
        exact ⟨s, hs, SendPoint.hasBegun_of_isSending hsending⟩
    obtain ⟨s, hs, hbegun⟩ := hbefore
    obtain ⟨s', hs', rfl | rfl⟩ := sends_kept e hs
    · exact ⟨s', by rw [run_concat, hs'], hbegun⟩
    · exact ⟨_, by rw [run_concat, hs'], (advanced_of_advance _ s).hasBegun hbegun⟩

/-- **Locked sends exclude each other.** After any run of the sends of any producers on one
registry, whose steps are taken in any order:

* as long as no send has held its lock for the time after which locks expire, at most one of the
  locked sends with one prefix and one message key is under way, from the grant of its lock to its
  release;
* a send that holds a lock was granted it, at the time it says;
* a send that calls its transport is under way, and if it takes locks it was granted its own before;
* a send that was skipped has called nothing. -/
theorem sends_exclusive (c : LockConfig) (w : σ) (es : List (Event σ)) :
    let x := (start c w).run es
    ((∀ s ∈ x.sends, ∀ h, s.point.hold? = some h → x.locks.now < h.since + c.expireAfter) →
      ∀ (i j : Nat) (s t : Sending σ), x.sends[i]? = some s → x.sends[j]? = some t →
        s.isLocked = true → t.isLocked = true →
        s.sender.config.lockKeyPrefix = t.sender.config.lockKeyPrefix →
        s.message.key = t.message.key →
        s.point.isSending = true → t.point.isSending = true → i = j) ∧
    (∀ (i : Nat) s h, x.sends[i]? = some s → s.point.hold? = some h →
      WasGranted (start c w) es i h.since) ∧
    (∀ e i call, x.call? e = some (i, call) → ∃ s, x.sends[i]? = some s ∧
      s.point.isSending = true ∧ (s.isLocked = true → ∃ t, WasGranted (start c w) es i t)) ∧
    ∀ (i : Nat) s r, x.sends[i]? = some s → s.point = .ended (.skipped r) →
      ∀ call, (i, call) ∉ (start c w).calls es := by
  intro x
  have guarded : Guarded c x := guarded_run c w es
  have hgranted {i : Nat} {s : Sending σ} {h : Hold} (hs : x.sends[i]? = some s)
      (hhold : s.point.hold? = some h) : WasGranted (start c w) es i h.since :=
    wasGranted_run (start c w) es (fun _ h => nomatch h) hs hhold
  refine ⟨fun live i j s t hs ht hslocked htlocked hprefix hkey hssending htsending => ?_,
    fun i s h hs hhold => hgranted hs hhold, fun e i call hcall => ?_,
    fun i s r hs hskipped call hcall => ?_⟩
  · refine guarded.eq_of_sending live hs ht hslocked htlocked hssending htsending ?_
    rw [Sending.lockKey, hprefix, hkey, Sending.lockKey]
  · obtain ⟨s, hs, hsending⟩ := sending_of_call hcall
    refine ⟨s, hs, hsending, fun hlocked => ?_⟩
    cases hpoint : s.point with
    | sending hold stage =>
      cases hold with
      | none =>
        -- a send without a hold that is under way has no lock
        have hfree := (guarded.standing hs).free stage hpoint
        rw [hlocked] at hfree
        cases hfree
      | some h => exact ⟨h.since, hgranted hs (by rw [hpoint]; rfl)⟩
    | _ => rw [hpoint] at hsending; cases hsending
  · obtain ⟨s', hs', hbegun⟩ := hasBegun_of_calls (start c w) es hcall
    obtain rfl := Option.some.inj (hs.symm.trans hs')
    rw [hskipped] at hbegun
    cases hbegun

/-- A transport that has one queue for every topic, and accepts every message. -/
def oneQueue : SendTransport Unit where
  start s := (.ok (), s)
  queues topic s := (.returned (.ok [⟨topic, "b", 0⟩]), s)
  send _ q s := (.returned (.ok ⟨.timeOrdered 0 0, q, 0⟩), s)
  shutdown s := s
  now _ := 0

def rival : Sender Unit := { config := {}, transport := oneQueue, patience := some 1 }

/-- Two sends of one key come to their lock. The first is granted it and asks for the queues, the
second waits. -/
def rivalry : List (Event Unit) :=
  [.begin rival ⟨"t", "a", "k", [], .immediate⟩, .begin rival ⟨"t", "b", "k", [], .immediate⟩,
    .proceed 0, .proceed 1, .proceed 0, .proceed 1, .proceed 0]

/-- No lock has expired; the first send tries its queue next, for it was granted its lock, and the
second is not under way. -/
theorem sends_exclusive_rivalry :
    let x := (start {} ()).run rivalry
    (∀ s ∈ x.sends, ∀ h, s.point.hold? = some h →
      x.locks.now < h.since + ({} : LockConfig).expireAfter) ∧
    x.call? (.proceed 0) = some (0, .send ⟨"t", "a", "k", [], .immediate⟩ ⟨"t", "b", 0⟩) ∧
    (∃ t, WasGranted (start {} ()) rivalry 0 t) ∧
    ∀ t, x.sends[1]? = some t → t.point.isSending = false := by
  intro x
  have hsends : x.sends =
      [⟨rival, ⟨"t", "a", "k", [], .immediate⟩,
        .sending (some ⟨0, 0⟩) (.trying ⟨"t", "b", 0⟩ (Time.seconds 3) 3 0 "")⟩,
      ⟨rival, ⟨"t", "b", "k", [], .immediate⟩, .waiting 1⟩] := by rfl
  have hlive : ∀ s ∈ x.sends, ∀ h, s.point.hold? = some h →
      x.locks.now < h.since + ({} : LockConfig).expireAfter := by
    intro s hs h hh
    rw [hsends] at hs
    simp only [List.mem_cons, List.not_mem_nil, or_false] at hs
    rcases hs with rfl | rfl
    · cases hh
      decide
    · cases hh
  have hcall : x.call? (.proceed 0) =
      some (0, .send ⟨"t", "a", "k", [], .immediate⟩ ⟨"t", "b", 0⟩) := by rfl
  obtain ⟨hexclusive, -, hgranted, -⟩ := sends_exclusive {} () rivalry
  obtain ⟨s, hs, hsending, htime⟩ := hgranted _ 0 _ hcall
  have hfirst : some s = x.sends[0]? := hs.symm
  rw [hsends] at hfirst
  obtain rfl := Option.some.inj hfirst
  refine ⟨hlive, hcall, htime rfl, fun t ht => Bool.eq_false_iff.mpr fun hunderway => ?_⟩
  have hsecond : some t = x.sends[1]? := ht.symm
  rw [hsends] at hsecond
  obtain rfl := Option.some.inj hsecond
  exact absurd (hexclusive hlive 0 1 _ _ hs ht rfl rfl rfl rfl hsending hunderway) (by decide)

end Traffic

end KeyedDelivery
