import KeyedDelivery.Message
import KeyedDelivery.Queue
import KeyedDelivery.Proofs.Json.List
import KeyedDelivery.Proofs.Json.Object

/-!
# Messages and queues come back from their JSON

Each member that is written is a value of its field, so the members fill a draft, and the finished draft is
what was written. Nothing of a message is lost on the way, whatever its strings and its body hold; so two
messages are never written alike.
-/

namespace KeyedDelivery

/-- A function is injective when something reads back what it writes. -/
theorem injective_of_reads {α ε : Type} {write : α → String} {read : String → Except ε α}
    (h : ∀ a, read (write a) = .ok a) : Function.Injective write := by
  intro a b hab
  have hb := h b
  rw [← hab, h a] at hb
  exact Except.ok.inj hb

namespace Message

/-- The members of a message as they are written. -/
def written (m : Message) : List (String × List Char) := [
  ("topic", Json.writeString m.topic),
  ("tag", Json.writeString m.tag),
  ("key", Json.writeString m.key),
  ("body", Json.writeList (m.body.map fun b => Json.writeNatural b.toNat)),
  ("delay_level", m.delay.toJson)]

/-- A message is written as an object. -/
theorem objectText_toJson (m : Message) : Json.ObjectText m.written m.toJson.toList := by
  have hbody : ∀ v ∈ m.body.map fun b => Json.writeNatural b.toNat, Json.WellFormed .value v := by
    rw [List.forall_mem_map]
    exact fun b _ => .positive (Json.unsigned_digits b.toNat)
  rw [toJson, String.toList_ofList]
  refine Json.objectText_writeObject ?_
  simp only [written, List.forall_mem_cons, (Json.spelled_writeString _).wellFormed, true_and]
  exact ⟨Json.wellFormed_writeList hbody, .positive (Json.unsigned_digits _), nofun⟩

example : (mk "t" "" "a\"b" [0, 255] ⟨3⟩).toJson =
    "\x7b\"topic\":\"t\",\"tag\":\"\",\"key\":\"a\\\"b\",\"body\":[0,255],\"delay_level\":3\x7d" := by
  cbv

/-- The members of a message fill a draft with all that it holds. -/
theorem fills_written (m : Message) :
    format.Fills format.blank m.written ⟨m.topic, m.tag, m.key, m.body, m.delay⟩ := by
  have hbody : (Json.list Json.byte).Takes
      (Json.writeList (m.body.map fun b => Json.writeNatural b.toNat)) m.body :=
    Json.list_takes fun b _ => ⟨.positive (Json.unsigned_digits b.toNat), Json.byte_takes b⟩
  have hdelay := (Json.word32_takes m.delay.level).map DelayLevel.mk
  exact .field rfl rfl ((Json.string_takes (Json.spelled_writeString m.topic)).map _) <|
    .field rfl rfl ((Json.string_takes (Json.spelled_writeString m.tag)).map _) <|
    .field rfl rfl ((Json.string_takes (Json.spelled_writeString m.key)).map _) <|
    .field rfl rfl (hbody.map _) <| .field rfl rfl (hdelay.map _) .nil

theorem ofJson_toJson (m : Message) : ofJson m.toJson = .ok m :=
  Json.Format.decode_fills m.objectText_toJson m.fills_written rfl

end Message

namespace Queue

/-- The members of a queue as they are written. -/
def written (q : Queue) : List (String × List Char) := [
  ("topic", Json.writeString q.topic),
  ("broker_name", Json.writeString q.broker),
  ("queue_id", Json.writeNatural q.id.toNat)]

theorem objectText_toJson (q : Queue) : Json.ObjectText q.written q.toJson.toList := by
  rw [toJson, String.toList_ofList]
  refine Json.objectText_writeObject ?_
  simp only [written, List.forall_mem_cons, (Json.spelled_writeString _).wellFormed, true_and]
  exact ⟨.positive (Json.unsigned_digits _), nofun⟩

theorem fills_written (q : Queue) :
    format.Fills format.blank q.written ⟨q.topic, q.broker, q.id⟩ :=
  .field rfl rfl ((Json.string_takes (Json.spelled_writeString q.topic)).map _) <|
    .field rfl rfl ((Json.string_takes (Json.spelled_writeString q.broker)).map _) <|
    .field rfl rfl ((Json.word32_takes q.id).map _) .nil

theorem ofJson_toJson (q : Queue) : ofJson q.toJson = .ok q :=
  Json.Format.decode_fills q.objectText_toJson q.fills_written rfl

end Queue

/-- **Messages and queues come back from their JSON**, and no two have the same. -/
theorem wire_faithful :
    (∀ m : Message, Json.ObjectText m.written m.toJson.toList ∧ Message.ofJson m.toJson = .ok m) ∧
    (∀ q : Queue, Json.ObjectText q.written q.toJson.toList ∧ Queue.ofJson q.toJson = .ok q) ∧
    Function.Injective Message.toJson ∧ Function.Injective Queue.toJson :=
  ⟨fun m => ⟨m.objectText_toJson, m.ofJson_toJson⟩, fun q => ⟨q.objectText_toJson, q.ofJson_toJson⟩,
    injective_of_reads Message.ofJson_toJson, injective_of_reads Queue.ofJson_toJson⟩

end KeyedDelivery
