import KeyedDelivery.Queue
import KeyedDelivery.Text.Units16

/-!
# Routing by key

The queue of a message depends on its key alone: the polynomial hash of the key's UTF-16 units to
the base 31, modulo `2^32` and read as a signed number, of which the absolute value modulo the
number of queues is the index.
-/

namespace KeyedDelivery

def keyHash (key : String) : Int32 :=
  (Text.units16 key).foldl (fun h u => h * 31 + Int32.ofNat u.toNat) 0

/-- The index of the queue of `key` among `count` queues, if there are any. -/
def selectIndex (key : String) (count : Nat) : Option Nat :=
  if count = 0 then none else some ((keyHash key).toInt.natAbs % count)

/-- The queue of `key`. -/
def selectQueue (queues : List Queue) (key : String) : Option Queue :=
  match selectIndex key queues.length with
  | none => none
  | some i => queues[i]?

end KeyedDelivery
