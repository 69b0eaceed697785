import KeyedDelivery.Consumer.Basic
import KeyedDelivery.Proofs.PackageBind
import KeyedDelivery.Proofs.Producer.Outcome

/-!
# Package bindings arrive as they were sent

A binding goes through its JSON, the bytes of a message, the broker, and the body as a text, until
a handler reads it back and applies it.

* **`noting`** — code that is applied to bindings and notes to which.
* **`packageBind_arrives`** — the whole way, and what becomes of texts that are no bindings.
-/

namespace KeyedDelivery

namespace PackageBind

variable {ρ : Type}

/-- Code that is applied to bindings, and notes to which. -/
def noting (apply : PackageBind → ρ → HookAnswer × ρ) (b : PackageBind)
    (x : ρ × List PackageBind) : HookAnswer × (ρ × List PackageBind) :=
  let (answer, y) := apply b x.1
  (answer, (y, x.2 ++ [b]))

end PackageBind

namespace Handler

variable {σ : Type} (apply : PackageBind → σ → HookAnswer × σ) {text : String}

/-- The code is applied to the binding that is read. -/
theorem packageBind_applies {b : PackageBind} (h : PackageBind.ofJson text = .ok b) (s : σ) :
    (packageBind apply).ask .process text s = apply b s := by
  simp only [packageBind, ofProcess, h]

/-- A text that is no binding is answered with no. -/
theorem packageBind_refuses {fault : Json.Fault} (h : PackageBind.ofJson text = .error fault)
    (s : σ) : (packageBind apply).ask .process text s = (.returned (.ok false), s) := by
  simp only [packageBind, ofProcess, h]

end Handler

namespace SendSite

variable {σ ρ : Type} (w : SendSite σ)

/-- A message whose body is the JSON of a binding. -/
theorem ofJson_bodyText (topic tag key : String) (b : PackageBind) (delay : DelayLevel) :
    PackageBind.ofJson (Message.bodyText ⟨topic, tag, key, b.toBytes, delay⟩) = .ok b := by
  rw [Message.bodyText, b.ofJson_textOf_toBytes]

/-- **A package binding arrives as it was sent.** For every producer on the client of an in-memory
broker, with locks or without, and for every handler of bindings:

* for every binding, whatever its texts hold: when its send is reported as sent, the broker has stored
  the message that the receipt names, keyed by the user's code and the package's identifier, and the
  handler reads from the text of its body just this binding, and applies its code once, to this
  binding;
* from a text that is no binding the handler answers no, and does not apply its code. -/
theorem packageBind_arrives (c : ProducerConfig) (timeout : Option Nat)
    (apply : PackageBind → ρ → HookAnswer × ρ) (x : ρ) :
    let handler : Handler (ρ × List PackageBind) := .packageBind (PackageBind.noting apply)
    (∀ (b : PackageBind) (s : σ) (r : Receipt),
      let out := (w.producer c timeout).sendBind b s
      out.1 = .sent r →
        ∃ d : Delivery, Broker.Stored (w.broker s) (w.broker out.2) d ∧
          (d.id, d.queue, d.offset) = (r.id, r.queue, r.offset) ∧
          d.message.key = b.userCode ++ b.packageId ∧
          PackageBind.ofJson d.message.bodyText = .ok b ∧
          handler.ask .process d.message.bodyText (x, []) = ((apply b x).1, ((apply b x).2, [b]))) ∧
    ∀ (text : String) (fault : Json.Fault), PackageBind.ofJson text = .error fault →
      handler.ask .process text (x, []) = (.returned (.ok false), (x, [])) := by
  intro handler
  refine ⟨?_, fun text fault hfault => Handler.packageBind_refuses _ hfault _⟩
  intro b s r
  have hsend : (w.producer c timeout).sendBind b s = (w.producer c timeout).sendSync c.topic c.tag
      b.partitionKey b.toBytes .immediate s := rfl
  rw [hsend]
  intro out hsent
  -- what was sent is stored with its body, which is the text of the binding
  have hstored := w.stored_of_sendSync c timeout hsent
  refine ⟨_, hstored, rfl, rfl, ofJson_bodyText _ _ _ b _, ?_⟩
  rw [Handler.packageBind_applies _ (ofJson_bodyText _ _ _ b _)]
  rfl

/-- A binding whose texts hold quotes, control characters, and characters of four bytes. -/
def strangeBind : PackageBind where
  appId := "\"\\/"
  userCode := "ü\x01"
  deviceCode := "😀\n"
  packageId := "7"
  packageSource := ""
  packageType := -2147483648
  bindType := .bind

/-- A broker with an open client. -/
def opened : Rehearsal.SendWorld where
  broker := .ofConfig { name := "b" }
  client := { started := true }
  locks := .ofConfig {}

/-- A binding is sent, stored, read back and applied; an empty text is not. -/
theorem packageBind_arrives_strange :
    let out := (Rehearsal.SendWorld.site.producer {} none).sendBind strangeBind opened
    let handler : Handler (Nat × List PackageBind) :=
      .packageBind (PackageBind.noting fun _ n => (.returned (.ok true), n + 1))
    out.1.isSent = true ∧
      (∃ d : Delivery, Broker.Stored opened.broker out.2.broker d ∧ d.message.key = "ü\x017" ∧
        handler.ask .process d.message.bodyText (0, []) =
          (.returned (.ok true), (1, [strangeBind]))) ∧
      PackageBind.ofJson "" = .error .truncated ∧
      handler.ask .process "" (0, []) = (.returned (.ok false), (0, [])) := by
  intro out handler
  have hsent : out.1.isSent = true := by decide +kernel
  have hempty : PackageBind.ofJson "" = .error .truncated := rfl
  obtain ⟨harrives, hfails⟩ := packageBind_arrives Rehearsal.SendWorld.site {} none
    (fun _ n => (.returned (.ok true), n + 1)) 0
  obtain ⟨r, hr⟩ : ∃ r, out.1 = .sent r := by
    cases hout : out.1 with
    | sent r => exact ⟨r, rfl⟩
    | skipped skip => rw [hout] at hsent; cases hsent
    | failed e => rw [hout] at hsent; cases hsent
    | panicked p => rw [hout] at hsent; cases hsent
  obtain ⟨d, hstored, -, hkey, -, hask⟩ := harrives strangeBind opened r hr
  exact ⟨hsent, ⟨d, hstored, hkey.trans (by decide), hask⟩, hempty, hfails "" _ hempty⟩

end SendSite

end KeyedDelivery
