/-!
# UTF-8

Characters as bytes. Encoding is the usual four-range code; decoding never fails: each maximal
prefix of a sequence that can no longer be completed, and each byte that starts none, becomes one
replacement character. The decoder walks the bytes once, remembering what a sequence it has begun
still needs.
-/

namespace KeyedDelivery.Text

def utf8Char (c : Char) : List UInt8 :=
  let n := c.toNat
  if n < 0x80 then [n.toUInt8]
  else if n < 0x800 then [(0xc0 + n / 64).toUInt8, (0x80 + n % 64).toUInt8]
  else if n < 0x10000 then
    [(0xe0 + n / 4096).toUInt8, (0x80 + n / 64 % 64).toUInt8, (0x80 + n % 64).toUInt8]
  else
    [(0xf0 + n / 262144).toUInt8, (0x80 + n / 4096 % 64).toUInt8, (0x80 + n / 64 % 64).toUInt8,
      (0x80 + n % 64).toUInt8]

def utf8 (cs : List Char) : List UInt8 := cs.flatMap utf8Char

/-- A sequence that has begun: how many bytes are missing, the bits so far, and the range in which
the next byte must lie. -/
structure OpenSequence where
  missing : Nat
  bits : Nat
  low : Nat := 0x80
  high : Nat := 0xbf
  deriving DecidableEq, Repr

/-- What the first byte of a sequence announces. -/
inductive FirstByte where
  | whole (c : Char)
  | opens (s : OpenSequence)
  | stray
  deriving DecidableEq, Repr

/-- Reads the first byte of a sequence. The second byte is narrowed where the full range would
allow an overlong form, a surrogate or a value beyond the last code point. -/
def FirstByte.ofByte (b : UInt8) : FirstByte :=
  let n := b.toNat
  if n < 0x80 then .whole (Char.ofNat n)
  else if n < 0xc2 then .stray
  else if n < 0xe0 then .opens ⟨1, n - 0xc0, 0x80, 0xbf⟩
  else if n = 0xe0 then .opens ⟨2, 0, 0xa0, 0xbf⟩
  else if n = 0xed then .opens ⟨2, 0xd, 0x80, 0x9f⟩
  else if n < 0xf0 then .opens ⟨2, n - 0xe0, 0x80, 0xbf⟩
  else if n = 0xf0 then .opens ⟨3, 0, 0x90, 0xbf⟩
  else if n < 0xf4 then .opens ⟨3, n - 0xf0, 0x80, 0xbf⟩
  else if n = 0xf4 then .opens ⟨3, 4, 0x80, 0x8f⟩
  else .stray

/-- What stands for bytes that are no character. -/
def replacement : Char := '\ufffd'

/-- Decodes `bytes`, given the sequence that was begun before them. -/
def decodeFrom : Option OpenSequence → List UInt8 → List Char
  | none, [] => []
  | some _, [] => [replacement]
  | none, b :: rest =>
    match FirstByte.ofByte b with
    | .whole c => c :: decodeFrom none rest
    | .opens s => decodeFrom (some s) rest
    | .stray => replacement :: decodeFrom none rest
  | some s, b :: rest =>
    if s.low ≤ b.toNat ∧ b.toNat ≤ s.high then
      let bits := s.bits * 64 + b.toNat % 64
      if s.missing ≤ 1 then Char.ofNat bits :: decodeFrom none rest
      else decodeFrom (some ⟨s.missing - 1, bits, 0x80, 0xbf⟩) rest
    else
      match FirstByte.ofByte b with
      | .whole c => replacement :: c :: decodeFrom none rest
      | .opens s' => replacement :: decodeFrom (some s') rest
      | .stray => replacement :: replacement :: decodeFrom none rest

/-- Decodes bytes as UTF-8, replacing what is malformed. -/
def decodeLossy (bytes : List UInt8) : List Char := decodeFrom none bytes

def bytesOf (s : String) : List UInt8 := utf8 s.toList

/-- The text that bytes stand for, with replacements where they are malformed. -/
def textOf (bytes : List UInt8) : String := String.ofList (decodeLossy bytes)

/-- How many bytes a run of characters takes. -/
def utf8Length (cs : List Char) : Nat := (utf8 cs).length

end KeyedDelivery.Text
