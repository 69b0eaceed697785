import KeyedDelivery.Consumer.Basic

/-!
# Reports that do not depend on the order of threads

Several workers finish in any order. What they leave is reported in the order of its contents.
-/

namespace KeyedDelivery.Rehearsal

def sortedTexts (l : List String) : List String := l.mergeSort fun a b => a ≤ b

/-- How two dead letters compare: by key, attempts, reason, and body. -/
def compareDeadLetters (a b : DeadLetter) : Ordering :=
  (compare a.delivery.message.key b.delivery.message.key).then <|
    (compare a.attempts b.attempts).then <|
      (compare a.reason b.reason).then <|
        compare a.delivery.message.bodyText b.delivery.message.bodyText

def sortedDeadLetters (l : List DeadLetter) : List DeadLetter :=
  l.mergeSort fun a b => (compareDeadLetters a b).isLE

/-- How two redeliveries compare: by group, key, count, and level. -/
def compareRedeliveries (a b : Redelivery) : Ordering :=
  (compare a.group b.group).then <| (compare a.key b.key).then <|
    (compare a.reconsumed b.reconsumed).then <| compare a.level.level b.level.level

def sortedRedeliveries (l : List Redelivery) : List Redelivery :=
  l.mergeSort fun a b => (compareRedeliveries a b).isLE

end KeyedDelivery.Rehearsal
