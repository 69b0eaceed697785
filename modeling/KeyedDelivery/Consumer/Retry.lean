import KeyedDelivery.Delay.Level

/-!
# Retries

A failed delivery is asked for again, each time one delay level higher, until the limit of retries
is reached.
-/

namespace KeyedDelivery

/-- What to do about a failed delivery. -/
inductive RetryDecision where
  | redeliver (level : DelayLevel)
  | giveUp
  deriving DecidableEq, Repr

/-- How often a delivery is retried. -/
structure RetryPolicy where
  limit : UInt32 := 3
  deriving DecidableEq, Repr

namespace RetryPolicy

def never : RetryPolicy := ⟨0⟩

/-- What to do about the failure of the delivery that was requested `count` times before. -/
def decide (p : RetryPolicy) (count : UInt32) : RetryDecision :=
  if count < p.limit then .redeliver (.forRetry count) else .giveUp

end RetryPolicy

end KeyedDelivery
