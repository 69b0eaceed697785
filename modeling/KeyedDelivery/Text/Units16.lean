/-!
# UTF-16 units

A character of the basic plane is one 16-bit unit; any other is a leading and a trailing surrogate.
-/

namespace KeyedDelivery.Text

/-- The 16-bit units of one character. -/
def units16Char (c : Char) : List UInt16 :=
  let n := c.toNat
  if n < 0x10000 then [n.toUInt16]
  else [(0xd800 + (n - 0x10000) / 1024).toUInt16, (0xdc00 + (n - 0x10000) % 1024).toUInt16]

def units16 (s : String) : List UInt16 := s.toList.flatMap units16Char

/-- The character a leading and a trailing surrogate stand for. -/
def pairSurrogates (lead trail : Nat) : Char :=
  Char.ofNat (0x10000 + (lead - 0xd800) * 1024 + (trail - 0xdc00))

end KeyedDelivery.Text
