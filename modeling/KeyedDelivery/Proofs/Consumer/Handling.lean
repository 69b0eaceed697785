import KeyedDelivery.Consumer.Transcript
import KeyedDelivery.Proofs.Consumer.Stage

/-!
# How a delivery is handled

From its permit to the return of the permit, a delivery asks each hook at most once and the transport or
the sink at most once, and what it counts goes by what it was answered.

* **`transcribed_advance`**, **`handle_transcribed`** — writing the calls down changes nothing.
* **`Reacted`** — what can be done about a verdict, with the figures and the outcome.
* **`Standing`** — where a delivery stands, with what it has asked for and counted so far. One stage
  keeps it (`standing_advance`), and so does a whole handling (`standing_advanceMany`).
* **`delivery_handled`** — what a whole handling asks for and counts.
-/

namespace KeyedDelivery

variable {σ : Type}

/-! ## Writing down -/

namespace Consumer

variable (c : Consumer σ) (d : Delivery)

/-- What is asked for about a failure. -/
def failureCalls (reason : String) (s : σ) : List HandlingCall :=
  match c.retry.decide d.reconsumed with
  | .redeliver level => [.requested d level (c.transport.reconsumeLater d level s).1]
  | .giveUp =>
    match c.sink with
    | none => []
    | some sink => [.lettered (.ofDelivery d reason) (sink (.ofDelivery d reason) s).1]

/-- What is asked for at a stage. -/
def calls (stage : Stage) (s : σ) : List HandlingCall :=
  match stage with
  | .asking h => [.asked h d.message.bodyText (c.handler.ask h d.message.bodyText s).1]
  | .failing reason => c.failureCalls d reason s
  | .waiting | .judged _ | .leaving _ => []

theorem transcribed_reconsumeLater (level : DelayLevel) (w : σ × List HandlingCall) :
    c.transcribed.transport.reconsumeLater d level w =
      ((c.transport.reconsumeLater d level w.1).1, (c.transport.reconsumeLater d level w.1).2,
        w.2 ++ [.requested d level (c.transport.reconsumeLater d level w.1).1]) := rfl

theorem transcribed_sink {sink : DeadLetter → σ → Outcome Unit × σ} (h : c.sink = some sink) :
    c.transcribed.sink = some fun letter w =>
      ((sink letter w.1).1, (sink letter w.1).2, w.2 ++ [.lettered letter (sink letter w.1).1]) := by
  rw [transcribed, h]
  rfl

theorem transcribed_afterFailure (reason : String) (k : Desk) (s : σ) (calls : List HandlingCall) :
    c.transcribed.afterFailure d reason k (s, calls) =
      ((c.afterFailure d reason k s).1, (c.afterFailure d reason k s).2.1,
        (c.afterFailure d reason k s).2.2, calls ++ c.failureCalls d reason s) := by
  have hretry : c.transcribed.retry = c.retry := rfl
  rw [afterFailure, afterFailure, failureCalls, hretry]
  cases c.retry.decide d.reconsumed with
  -- the transport is asked, and the answer is written down with the request
  | redeliver level =>
    dsimp only
    rw [transcribed_reconsumeLater]
    rcases c.transport.reconsumeLater d level s with ⟨e | done, s'⟩ <;> rfl
  | giveUp =>
    dsimp only
    rw [giveUp, giveUp]
    cases hsink : c.sink with
    | none =>
      have hnone : c.transcribed.sink = none := by rw [transcribed, hsink]; rfl
      rw [hnone, List.append_nil]
    | some sink =>
      rw [c.transcribed_sink hsink]
      dsimp only
      rcases sink (.ofDelivery d reason) s with ⟨done | payload, s'⟩ <;> rfl

/-- **Writing the calls down changes nothing** about a stage. -/
theorem transcribed_advance (stage : Stage) (k : Desk) (s : σ) (calls : List HandlingCall) :
    c.transcribed.advance d stage k (s, calls) =
      ((c.advance d stage k s).1, (c.advance d stage k s).2.1, (c.advance d stage k s).2.2,
        calls ++ c.calls d stage s) := by
  cases stage with
  | waiting =>
    simp only [advance, Consumer.calls, List.append_nil]
    cases k.permits.acquire? <;> rfl
  | asking h => rfl
  | judged v => simp only [advance, Consumer.calls, List.append_nil]
  | failing reason => simp only [advance, Consumer.calls, transcribed_afterFailure]
  | leaving outcome => simp only [advance, Consumer.calls, List.append_nil]

/-- It changes nothing about the stages after one another. -/
theorem transcribed_advanceMany (n : Nat) (stage : Stage) (k : Desk) (s : σ)
    (calls : List HandlingCall) :
    ∃ later, c.transcribed.advanceMany d n stage k (s, calls) =
      ((c.advanceMany d n stage k s).1, (c.advanceMany d n stage k s).2.1,
        (c.advanceMany d n stage k s).2.2, calls ++ later) := by
  induction n generalizing stage k s calls with
  | zero => exact ⟨[], by rw [List.append_nil]; rfl⟩
  | succ n ih =>
    rw [advanceMany, advanceMany, transcribed_advance]
    -- blocked, or on to the next stage, or at the end
    rcases c.advance d stage k s with ⟨_ | stage' | outcome, k', s'⟩
    · exact ⟨_, rfl⟩
    · obtain ⟨later, hlater⟩ := ih stage' k' s' (calls ++ c.calls d stage s)
      exact ⟨_, hlater.trans (by rw [List.append_assoc])⟩
    · exact ⟨_, rfl⟩

theorem handle_transcribed (k : Desk) (s : σ) :
    c.transcribed.handle d k (s, []) =
      ((c.handle d k s).1, (c.handle d k s).2.1, (c.handle d k s).2.2, c.transcript d k s) := by
  obtain ⟨later, hlater⟩ := c.transcribed_advanceMany d 7 .waiting k s []
  rw [transcript, handle, hlater]
  rfl

end Consumer

/-! ## Where a delivery stands -/

/-- The hooks that are asked before a hook. -/
def Hook.earlier : Hook → List Hook
  | .filter => []
  | .duplicate => [.filter]
  | .process => [.filter, .duplicate]

/-- What was asked about a delivery that comes to a hook: the hooks before it, and they said no. -/
def Delivery.passed (d : Delivery) (h : Hook) : List HandlingCall :=
  h.earlier.map (.asked · d.message.bodyText (.returned (.ok false)))

/-- What was asked about a delivery when there is a verdict. -/
inductive Judged (d : Delivery) : Verdict → List HandlingCall → Prop where
  | mk (h : Hook) (answer : HookAnswer) {v : Verdict} (judged : Stage.afterHook h answer = .judged v) :
      Judged d v (d.passed h ++ [.asked h d.message.bodyText answer])

/-- What is done about a verdict: what is asked for, how it ends, and the figures afterwards. -/
inductive Reacted (c : Consumer σ) (d : Delivery) (stats : ConsumerStats) (v : Verdict) :
    List HandlingCall → Outcome Unit → ConsumerStats → Prop where
  | nothing (fine : v.reason? = none) : Reacted c d stats v [] (.returned ()) stats
  | requested {reason : String} (answer : Except String Unit) (fails : v.reason? = some reason)
      (left : d.reconsumed < c.config.maxRetryTimes) :
      Reacted c d stats v [.requested d (.forRetry d.reconsumed) answer] (.returned ())
        { stats with retried := stats.retried + answer.isOk.toNat }
  | dropped {reason : String} (fails : v.reason? = some reason)
      (spent : c.config.maxRetryTimes ≤ d.reconsumed) (sink : c.sink = none) :
      Reacted c d stats v [] (.returned ()) { stats with exhausted := stats.exhausted + 1 }
  | lettered {reason : String} (answer : Outcome Unit) (fails : v.reason? = some reason)
      (spent : c.config.maxRetryTimes ≤ d.reconsumed) (sink : c.sink.isSome = true) :
      Reacted c d stats v [.lettered (.ofDelivery d reason) answer] answer
        { stats with
          exhausted := stats.exhausted + 1
          deadLettered := stats.deadLettered + answer.isReturned.toNat }

/-- Where a delivery stands that found the desk `k`, with the desk and the calls so far. -/
inductive Standing (c : Consumer σ) (d : Delivery) (k : Desk) :
    Stage → Desk → List HandlingCall → Prop where
  | waiting : Standing c d k .waiting k []
  | asking {permits : Permits} (acquired : k.permits.acquire? = some permits) (h : Hook) :
      Standing c d k (.asking h) ⟨k.stats, permits⟩ (d.passed h)
  | judged {permits : Permits} {v : Verdict} {calls : List HandlingCall}
      (acquired : k.permits.acquire? = some permits) (judged : Judged d v calls) :
      Standing c d k (.judged v) ⟨k.stats, permits⟩ calls
  | failing {permits : Permits} {v : Verdict} {calls : List HandlingCall} {reason : String}
      (acquired : k.permits.acquire? = some permits) (judged : Judged d v calls)
      (fails : v.reason? = some reason) :
      Standing c d k (.failing reason) ⟨k.stats.count v, permits⟩ calls
  | leaving {permits : Permits} {v : Verdict} {calls reactions : List HandlingCall}
      {outcome : Outcome Unit} {stats : ConsumerStats}
      (acquired : k.permits.acquire? = some permits) (judged : Judged d v calls)
      (reacted : Reacted c d (k.stats.count v) v reactions outcome stats) :
      Standing c d k (.leaving outcome) ⟨stats, permits⟩ (calls ++ reactions)

/-- A hook that leads to another said no. -/
theorem Stage.of_afterHook_asking {h next : Hook} {answer : HookAnswer}
    (hnext : Stage.afterHook h answer = .asking next) :
    answer = .returned (.ok false) ∧ next.earlier = h.earlier ++ [h] := by
  rcases answer with (chain | _ | _) | payload <;> cases h <;> cases hnext <;> exact ⟨rfl, rfl⟩

/-- A verdict leads on as it has a reason or not. -/
theorem Stage.afterVerdict_reason (v : Verdict) :
    (v.reason? = none ∧ Stage.afterVerdict v = .leaving (.returned ())) ∨
      ∃ reason, v.reason? = some reason ∧ Stage.afterVerdict v = .failing reason := by
  cases v with
  | filtered | duplicate | succeeded => exact .inl ⟨rfl, rfl⟩
  | failed | errored => exact .inr ⟨_, rfl, rfl⟩

namespace Consumer

variable {c : Consumer σ} {d : Delivery} {k : Desk}

/-- **What is done about a failure** is one of the reactions. -/
theorem reacted_afterFailure {v : Verdict} {reason : String} (fails : v.reason? = some reason)
    (stats : ConsumerStats) (permits : Permits) (s : σ) :
    ∃ outcome stats', ((c.afterFailure d reason ⟨stats, permits⟩ s).1,
        (c.afterFailure d reason ⟨stats, permits⟩ s).2.1) = (outcome, ⟨stats', permits⟩) ∧
      Reacted c d stats v (c.failureCalls d reason s) outcome stats' := by
  rw [afterFailure, failureCalls, RetryPolicy.decide]
  -- below the limit the transport is asked, and from the limit on the sink, if there is one
  by_cases hleft : d.reconsumed < c.retry.limit
  · rw [if_pos hleft]
    dsimp only
    rcases c.transport.reconsumeLater d (.forRetry d.reconsumed) s with ⟨e | done, s'⟩
    · exact ⟨_, _, rfl, .requested (.error e) fails hleft⟩
    · exact ⟨_, _, rfl, .requested (.ok done) fails hleft⟩
  · have hspent : c.config.maxRetryTimes ≤ d.reconsumed := UInt32.not_lt.mp hleft
    rw [if_neg hleft]
    dsimp only
    rw [giveUp]
    cases hsink : c.sink with
    | none => exact ⟨_, _, rfl, .dropped fails hspent hsink⟩
    | some sink =>
      have hsome : c.sink.isSome = true := by rw [hsink]; rfl
      dsimp only
      rcases sink (.ofDelivery d reason) s with ⟨done | payload, s'⟩
      · exact ⟨_, _, rfl, .lettered (.returned done) fails hspent hsome⟩
      · exact ⟨_, _, rfl, .lettered (.panicked payload) fails hspent hsome⟩

/-- **One stage** leads from one standing to the next. -/
theorem standing_advance {stage stage' : Stage} {k₁ k₂ : Desk} {s s' : σ}
    {calls : List HandlingCall} (h : Standing c d k stage k₁ calls)
    (hadvance : c.advance d stage k₁ s = (.at stage', k₂, s')) :
    Standing c d k stage' k₂ (calls ++ c.calls d stage s) := by
  cases h with
  | waiting =>
    simp only [advance] at hadvance
    split at hadvance
    · cases hadvance
    · next permits acquired =>
      cases hadvance
      exact .asking acquired .filter
  | asking acquired h =>
    cases hadvance
    rcases Stage.afterHook_cases h (c.handler.ask h d.message.bodyText s).1 with
      ⟨next, hnext⟩ | ⟨v, hv⟩
    · -- the hook said no, and now is one of those before the next
      obtain ⟨hno, hearlier⟩ := Stage.of_afterHook_asking hnext
      have hpassed : d.passed h ++ c.calls d (.asking h) s = d.passed next := by
        rw [Delivery.passed, Delivery.passed, hearlier, List.map_append, Consumer.calls, hno]
        rfl
      rw [hnext, hpassed]
      exact .asking acquired next
    · rw [hv]
      exact .judged acquired (.mk h _ hv)
  | @judged permits v calls acquired judged =>
    cases hadvance
    rcases Stage.afterVerdict_reason v with ⟨hfine, hafter⟩ | ⟨reason, hfails, hafter⟩
    · rw [hafter]
      exact .leaving acquired judged (.nothing hfine)
    · rw [hafter, Consumer.calls, List.append_nil]
      exact .failing acquired judged hfails
  | @failing permits v calls reason acquired judged fails =>
    obtain ⟨outcome, stats, heq, hreacted⟩ :=
      reacted_afterFailure (c := c) (d := d) fails (k.stats.count v) permits s
    simp only [advance] at hadvance
    cases hadvance
    obtain ⟨houtcome, hdesk⟩ := Prod.mk.inj heq
    rw [houtcome, hdesk]
    exact .leaving acquired judged hreacted
  | leaving => cases hadvance

/-- **A handling that comes to its end** left the last stage, and returned its permit. Induction on the
stages. -/
theorem standing_advanceMany {n : Nat} {stage : Stage} {k₁ k₂ : Desk} {s : σ} {outcome : Outcome Unit}
    {calls : List HandlingCall} {w : σ × List HandlingCall} (h : Standing c d k stage k₁ calls)
    (hends : c.transcribed.advanceMany d n stage k₁ (s, calls) = (some outcome, k₂, w)) :
    ∃ k₃, Standing c d k (.leaving outcome) k₃ w.2 ∧ k₂ = { k₃ with permits := k₃.permits.release } := by
  induction n generalizing stage k₁ s calls with
  | zero => cases hends
  | succ n ih =>
    rw [advanceMany, transcribed_advance] at hends
    rcases hadvance : c.advance d stage k₁ s with ⟨_ | stage' | outcome', k', s'⟩
    · rw [hadvance] at hends
      cases hends
    · rw [hadvance] at hends
      exact ih (standing_advance h hadvance) hends
    · -- the last stage gives the permit back, and asks nobody
      obtain ⟨rfl, rfl, rfl⟩ := advance_ended hadvance
      rw [hadvance] at hends
      cases hends
      exact ⟨k₁, by rw [Consumer.calls, List.append_nil]; exact h, rfl⟩

end Consumer

/-! ## A whole handling -/

/-- What a handling that found the desk `k` asked for, how it ended, and the desk afterwards; `v` is the
verdict. -/
structure Handled (c : Consumer σ) (d : Delivery) (k : Desk) (v : Verdict) (calls : List HandlingCall)
    (outcome : Outcome Unit) (k' : Desk) : Prop where
  /-- The hooks are asked in their order, each at most once. -/
  order : calls.filterMap (·.hook?) <+: [.filter, .duplicate, .process]
  /-- Processing comes only after both other hooks said no. -/
  onward : .process ∈ calls.filterMap (·.hook?) → ∀ h, h ≠ .process →
    .asked h d.message.bodyText (.returned (.ok false)) ∈ calls
  body : ∀ h body answer, .asked h body answer ∈ calls → body = d.message.bodyText
  verdict : ∃ h answer, .asked h d.message.bodyText answer ∈ calls ∧
    Stage.afterHook h answer = .judged v
  requests : (calls.filterMap (·.request?)).length =
    if v.reason?.isSome ∧ d.reconsumed < c.config.maxRetryTimes then 1 else 0
  level : ∀ r ∈ calls.filterMap (·.request?),
    r.1 = d ∧ r.2.level.toNat = d.reconsumed.toNat + 1
  letters : (calls.filterMap (·.letter?)).length =
    if v.reason?.isSome ∧ c.config.maxRetryTimes ≤ d.reconsumed ∧ c.sink.isSome then 1 else 0
  letter : ∀ letter ∈ calls.filterMap (·.letter?), letter.delivery = d ∧
    v.reason? = some letter.reason ∧
      letter.attempts.toNat = min (d.reconsumed.toNat + 1) (UInt32.size - 1)
  /-- Only the figures are changed that are named here. -/
  stats : k'.stats = { k.stats.count v with
    retried := k.stats.retried + calls.countP (·.isGranted)
    exhausted := k.stats.exhausted +
      if v.reason?.isSome ∧ c.config.maxRetryTimes ≤ d.reconsumed then 1 else 0
    deadLettered := k.stats.deadLettered + calls.countP (·.isKept) }
  /-- No panic but that of the sink gets out. -/
  escapes : ∀ payload, outcome = .panicked payload ↔
    ∃ letter, .lettered letter (.panicked payload) ∈ calls
  permits : k'.permits = k.permits

theorem Delivery.hooks_passed (d : Delivery) (h : Hook) :
    (d.passed h).filterMap (·.hook?) = h.earlier := by
  cases h <;> rfl

theorem Delivery.mem_passed_process (d : Delivery) {h : Hook} (hne : h ≠ .process) :
    .asked h d.message.bodyText (.returned (.ok false)) ∈ d.passed .process := by
  cases h with
  | filter => exact List.mem_cons_self
  | duplicate => exact List.mem_cons_of_mem _ List.mem_cons_self
  | process => contradiction

namespace Judged

variable {d : Delivery} {v : Verdict} {calls : List HandlingCall}

/-- **The hooks are asked in order**, and processing last. -/
theorem order (h : Judged d v calls) :
    calls.filterMap (·.hook?) <+: [.filter, .duplicate, .process] ∧
      (.process ∈ calls.filterMap (·.hook?) → ∀ h, h ≠ .process →
        .asked h d.message.bodyText (.returned (.ok false)) ∈ calls) := by
  obtain ⟨hook, answer, -⟩ := h
  rw [List.filterMap_append, d.hooks_passed]
  show hook.earlier ++ [hook] <+: _ ∧ (_ ∈ hook.earlier ++ [hook] → _)
  refine ⟨by cases hook <;> decide, fun hprocess h hne => ?_⟩
  cases hook with
  | process => exact List.mem_append_left _ (d.mem_passed_process hne)
  | filter | duplicate => exact absurd hprocess (by decide)

theorem verdict (h : Judged d v calls) :
    ∃ hook answer, .asked hook d.message.bodyText answer ∈ calls ∧
      Stage.afterHook hook answer = .judged v := by
  obtain ⟨hook, answer, hverdict⟩ := h
  exact ⟨hook, answer, List.mem_append_right _ List.mem_cons_self, hverdict⟩

/-- Up to the verdict nobody but the hooks is asked. -/
theorem quiet (h : Judged d v calls) :
    ∀ call ∈ calls, ∃ hook answer, call = .asked hook d.message.bodyText answer := by
  obtain ⟨hook, answer, -⟩ := h
  intro call hcall
  rcases List.mem_append.mp hcall with hcall | hcall
  · obtain ⟨earlier, -, rfl⟩ := List.mem_map.mp hcall
    exact ⟨earlier, _, rfl⟩
  · exact ⟨hook, answer, List.mem_singleton.mp hcall⟩

theorem filterMap_eq_nil (h : Judged d v calls) {β : Type} {f : HandlingCall → Option β}
    (hf : ∀ hook body answer, f (.asked hook body answer) = none) : calls.filterMap f = [] := by
  refine List.filterMap_eq_nil_iff.mpr fun call hcall => ?_
  obtain ⟨hook, answer, rfl⟩ := h.quiet call hcall
  exact hf hook _ answer

theorem countP_eq_zero (h : Judged d v calls) {p : HandlingCall → Bool}
    (hp : ∀ hook body answer, p (.asked hook body answer) = false) : calls.countP p = 0 := by
  refine List.countP_eq_zero.mpr fun call hcall => ?_
  obtain ⟨hook, answer, rfl⟩ := h.quiet call hcall
  exact Bool.eq_false_iff.mp (hp hook _ answer)

end Judged

namespace Reacted

variable {c : Consumer σ} {d : Delivery} {stats stats' : ConsumerStats} {v : Verdict}
  {reactions : List HandlingCall} {outcome : Outcome Unit}

/-- After the verdict no hook is asked. -/
theorem hooks (h : Reacted c d stats v reactions outcome stats') :
    reactions.filterMap (·.hook?) = [] := by
  cases h <;> rfl

/-- **A failure that may be retried is asked for again, once.** -/
theorem requests (h : Reacted c d stats v reactions outcome stats') :
    (reactions.filterMap (·.request?)).length =
        (if v.reason?.isSome ∧ d.reconsumed < c.config.maxRetryTimes then 1 else 0) ∧
      ∀ r ∈ reactions.filterMap (·.request?),
        r.1 = d ∧ r.2.level.toNat = d.reconsumed.toNat + 1 := by
  cases h with
  | nothing fine => exact ⟨by simp [fine], nofun⟩
  | requested answer fails left =>
    refine ⟨by simp [fails, left, HandlingCall.request?], fun r hr => ?_⟩
    obtain rfl := List.mem_singleton.mp hr
    exact ⟨rfl, DelayLevel.toNat_increment_of_lt left⟩
  | dropped fails spent => exact ⟨by simp [spent], nofun⟩
  | lettered answer fails spent => exact ⟨by simp [spent, HandlingCall.request?], nofun⟩

/-- **A failure that may not is given to the sink, once.** -/
theorem letters (h : Reacted c d stats v reactions outcome stats') :
    (reactions.filterMap (·.letter?)).length =
        (if v.reason?.isSome ∧ c.config.maxRetryTimes ≤ d.reconsumed ∧ c.sink.isSome then 1
          else 0) ∧
      ∀ letter ∈ reactions.filterMap (·.letter?), letter.delivery = d ∧
        v.reason? = some letter.reason ∧
          letter.attempts.toNat = min (d.reconsumed.toNat + 1) (UInt32.size - 1) := by
  cases h with
  | nothing fine => exact ⟨by simp [fine], nofun⟩
  | requested answer fails left =>
    exact ⟨by simp [UInt32.not_le.mpr left, HandlingCall.letter?], nofun⟩
  | dropped fails spent sink => exact ⟨by simp [sink], nofun⟩
  -- the only reaction with a letter
  | lettered answer fails spent sink =>
    refine ⟨by simp [fails, spent, sink, HandlingCall.letter?], fun letter hletter => ?_⟩
    obtain rfl := List.mem_singleton.mp hletter
    exact ⟨rfl, fails, DelayLevel.toNat_increment_min d.reconsumed⟩

/-- **What is counted goes by the answers.** -/
theorem counted (h : Reacted c d stats v reactions outcome stats') :
    stats' = { stats with
      retried := stats.retried + reactions.countP (·.isGranted)
      exhausted := stats.exhausted +
        if v.reason?.isSome ∧ c.config.maxRetryTimes ≤ d.reconsumed then 1 else 0
      deadLettered := stats.deadLettered + reactions.countP (·.isKept) } := by
  cases h with
  | nothing fine => simp [fine]
  | requested answer fails left =>
    cases answer <;>
      simp [UInt32.not_le.mpr left, HandlingCall.isGranted, HandlingCall.isKept, Except.isOk,
        Except.toBool]
  | dropped fails spent => simp [fails, spent]
  | lettered _ fails spent =>
    -- a sink that returns has kept the letter, and one that panics has not
    cases outcome <;>
      simp [fails, spent, HandlingCall.isGranted, HandlingCall.isKept, Outcome.isReturned]

/-- Only a sink can end a handling by a panic. -/
theorem escapes (h : Reacted c d stats v reactions outcome stats') (payload : PanicPayload) :
    outcome = .panicked payload ↔ ∃ letter, .lettered letter (.panicked payload) ∈ reactions := by
  cases h with
  | nothing | dropped => simp
  | requested => simp
  | lettered answer => simp [eq_comm]

end Reacted

/-- A verdict is counted beside the reactions. -/
theorem ConsumerStats.count_reactions (s : ConsumerStats) (v : Verdict) :
    (s.count v).retried = s.retried ∧ (s.count v).exhausted = s.exhausted ∧
      (s.count v).deadLettered = s.deadLettered := by
  cases v <;> exact ⟨rfl, rfl, rfl⟩

/-- **A handling that is about to return its permit** has asked and counted all it should. -/
theorem handled_of_leaving {c : Consumer σ} {d : Delivery} {k k' : Desk} {outcome : Outcome Unit}
    {calls : List HandlingCall} (h : Standing c d k (.leaving outcome) k' calls)
    (fits : k.permits.available ≤ k.permits.capacity) :
    ∃ v, Handled c d k v calls outcome { k' with permits := k'.permits.release } := by
  cases h with
  | @leaving permits v calls reactions outcome stats acquired judged reacted =>
    obtain ⟨horder, honward⟩ := judged.order
    obtain ⟨hook, answer, hasked, hverdict⟩ := judged.verdict
    obtain ⟨hretried, hexhausted, hdead⟩ := k.stats.count_reactions v
    -- the hooks are asked before the verdict, and all others after it
    have hhooks : (calls ++ reactions).filterMap (·.hook?) = calls.filterMap (·.hook?) := by
      rw [List.filterMap_append, reacted.hooks, List.append_nil]
    have hrequests : (calls ++ reactions).filterMap (·.request?) =
        reactions.filterMap (·.request?) := by
      rw [List.filterMap_append, judged.filterMap_eq_nil fun _ _ _ => rfl, List.nil_append]
    have hletters : (calls ++ reactions).filterMap (·.letter?) =
        reactions.filterMap (·.letter?) := by
      rw [List.filterMap_append, judged.filterMap_eq_nil fun _ _ _ => rfl, List.nil_append]
    refine ⟨v, ⟨?_, ?_, ?_, ⟨hook, answer, List.mem_append_left _ hasked, hverdict⟩, ?_, ?_, ?_, ?_,
      ?_, ?_, Permits.release_acquire? acquired fits⟩⟩
    · rwa [hhooks]
    · intro hprocess other hne
      exact List.mem_append_left _ (honward (hhooks ▸ hprocess) other hne)
    · intro other body answer hmem
      rcases List.mem_append.mp hmem with hmem | hmem
      · obtain ⟨_, _, hcall⟩ := judged.quiet _ hmem
        exact (HandlingCall.asked.inj hcall).2.1
      · have hnone := List.filterMap_eq_nil_iff.mp reacted.hooks _ hmem
        cases hnone
    · rw [hrequests]
      exact reacted.requests.1
    · rw [hrequests]
      exact reacted.requests.2
    · rw [hletters]
      exact reacted.letters.1
    · rw [hletters]
      exact reacted.letters.2
    · rw [List.countP_append, List.countP_append, judged.countP_eq_zero fun _ _ _ => rfl,
        judged.countP_eq_zero fun _ _ _ => rfl, Nat.zero_add, Nat.zero_add, ← hretried,
        ← hexhausted, ← hdead]
      exact reacted.counted
    · intro payload
      rw [reacted.escapes payload]
      refine exists_congr fun letter => ⟨List.mem_append_right _, fun hmem => ?_⟩
      rcases List.mem_append.mp hmem with hmem | hmem
      · obtain ⟨_, _, hcall⟩ := judged.quiet _ hmem
        cases hcall
      · exact hmem

/-- **A delivery that gets its permit is handled**: it comes to its end, with a verdict by which
everything else goes. -/
theorem delivery_handled (c : Consumer σ) (d : Delivery) (k : Desk) (s : σ)
    (free : 0 < k.permits.available) (fits : k.permits.available ≤ k.permits.capacity) :
    ∃ v outcome, (c.handle d k s).1 = some outcome ∧
      Handled c d k v (c.transcript d k s) outcome (c.handle d k s).2.1 := by
  have hsome : (c.handle d k s).1.isSome = true := by
    rw [c.handle_isSome, Permits.acquire?, if_neg (Nat.ne_of_gt free)]
    rfl
  obtain ⟨outcome, houtcome⟩ := Option.isSome_iff_exists.mp hsome
  -- the permit is free, so that the handling comes to an end
  have hends := c.handle_transcribed d k s
  rw [houtcome] at hends
  obtain ⟨k', hstanding, hdesk⟩ := Consumer.standing_advanceMany .waiting hends
  obtain ⟨v, hhandled⟩ := handled_of_leaving hstanding fits
  rw [hdesk]
  exact ⟨v, outcome, houtcome, hhandled⟩

namespace Consumer

/-- A consumer without retries whose processing panics, with a sink that answers the same to all. -/
def hopeless (answer : Outcome Unit) : Consumer Unit where
  config := { maxRetryTimes := 0 }
  transport :=
    { subscribe := fun _ _ s => (.ok (), s)
      listen := id
      start := fun s => (.ok (), s)
      reconsumeLater := fun _ _ s => (.ok (), s)
      shutdown := id }
  handler.ask h _ s :=
    match h with
    | .process => (.panicked (.text "boom"), s)
    | _ => (.returned (.ok false), s)
  sink := some fun _ s => (answer, s)

def unlucky : Delivery := ⟨.timeOrdered 0 0, ⟨"t", "", "k", [120], .immediate⟩, ⟨"t", "b", 0⟩, 0, 7⟩

/-- Processing panics, and so does the sink: the one panic is a failure with a letter, the other ends
the handling, and the permit is returned. -/
theorem delivery_handled_hopeless :
    let c := hopeless (.panicked (.text "full"))
    let k : Desk := { permits := .full 1 }
    (c.handle unlucky k ()).2.1 = { stats := { errored := 1, exhausted := 1 }, permits := .full 1 } ∧
      ∃ v, (c.handle unlucky k ()).1 = some (.panicked (.text "full")) ∧
        Handled c unlucky k v (c.transcript unlucky k ()) (.panicked (.text "full"))
          (c.handle unlucky k ()).2.1 := by
  intro c k
  obtain ⟨v, outcome, houtcome, hhandled⟩ := delivery_handled c unlucky k () (by decide) (by decide)
  have hends : (c.handle unlucky k ()).1 = some (.panicked (.text "full")) := by decide +kernel
  obtain rfl := Option.some.inj (hends.symm.trans houtcome)
  exact ⟨by decide +kernel, v, hends, hhandled⟩

/-- A sink that takes the letter is counted as well, beside the failure and the surrender. -/
theorem kept_letter_counted :
    let c := hopeless (.returned ())
    let k : Desk := { permits := .full 1 }
    (c.handle unlucky k ()).1 = some (.returned ()) ∧
      (c.handle unlucky k ()).2.1.stats = { errored := 1, exhausted := 1, deadLettered := 1 } ∧
      (c.handle unlucky k ()).2.1.stats.deadLettered ≠ k.stats.deadLettered := by
  decide +kernel

end Consumer

end KeyedDelivery
