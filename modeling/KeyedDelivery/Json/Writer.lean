import KeyedDelivery.Text.Numeral

/-!
# Writing JSON

Values are written without insignificant white space. In a string the quote, the backslash and the
control characters below the space are escaped, and nothing else.
-/

namespace KeyedDelivery.Json

/-- How one character stands in a string. -/
def writtenChar (c : Char) : List Char :=
  match c with
  | '"' => ['\\', '"']
  | '\\' => ['\\', '\\']
  | '\x08' => ['\\', 'b']
  | '\x0c' => ['\\', 'f']
  | '\n' => ['\\', 'n']
  | '\r' => ['\\', 'r']
  | '\t' => ['\\', 't']
  | c =>
    if c.toNat < 0x20 then
      ['\\', 'u', '0', '0', Text.hexDigitChar (c.toNat / 16), Text.hexDigitChar (c.toNat % 16)]
    else [c]

def writeString (s : String) : List Char := '"' :: s.toList.flatMap writtenChar ++ ['"']

def writeNatural (n : Nat) : List Char := Text.digits n

def writeInteger : Int → List Char
  | .ofNat n => Text.digits n
  | .negSucc n => '-' :: Text.digits (n + 1)

def separated : List (List Char) → List Char
  | [] => []
  | [v] => v
  | v :: w :: vs => v ++ ',' :: separated (w :: vs)

def writeList (vs : List (List Char)) : List Char := '[' :: separated vs ++ [']']

def writeObject (members : List (String × List Char)) : List Char :=
  '\x7b' :: separated (members.map fun m => writeString m.1 ++ ':' :: m.2) ++ ['\x7d']

end KeyedDelivery.Json
