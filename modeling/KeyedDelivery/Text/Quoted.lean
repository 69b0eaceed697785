import KeyedDelivery.Text.Numeral
import KeyedDelivery.Text.Printable

/-!
# Quoted text

A text between double quotes, with every character that cannot be read off the page written as an
escape: the usual one-letter escapes for NUL, tabulator, line ends, backslash and the quote itself,
and the code point in hexadecimal for any other unprintable character. Diagnostics quote the values
they complain about in this form.
-/

namespace KeyedDelivery.Text

/-- The escape for a code point: its hexadecimal digits between braces. -/
def codePointEscape (c : Char) : List Char :=
  ['\\', 'u', '\x7b'] ++ hexDigits c.toNat ++ ['\x7d']

/-- How one character stands in a quoted text. -/
def quotedChar (c : Char) : List Char :=
  match c with
  | '\x00' => ['\\', '0']
  | '\t' => ['\\', 't']
  | '\r' => ['\\', 'r']
  | '\n' => ['\\', 'n']
  | '\\' => ['\\', '\\']
  | '"' => ['\\', '"']
  | c => if isPrintable c then [c] else codePointEscape c

def quoted (s : String) : String :=
  String.ofList ('"' :: s.toList.flatMap quotedChar ++ ['"'])

end KeyedDelivery.Text
