/-!
# Blank characters

The characters with the Unicode property *White_Space*, and the two operations the library needs
them for: trimming a text at both ends and cutting it into its words.
-/

namespace KeyedDelivery.Text

/-- The characters with the property *White_Space*. -/
def isBlank (c : Char) : Bool :=
  let n := c.toNat
  (9 ≤ n && n ≤ 13) || n == 0x20 || n == 0x85 || n == 0xa0 || n == 0x1680 ||
    (0x2000 ≤ n && n ≤ 0x200a) || n == 0x2028 || n == 0x2029 || n == 0x202f ||
    n == 0x205f || n == 0x3000

def trimLeft (cs : List Char) : List Char := cs.dropWhile isBlank

def trimRight (cs : List Char) : List Char := (cs.reverse.dropWhile isBlank).reverse

def trim (cs : List Char) : List Char := trimRight (trimLeft cs)

/-- The maximal runs of characters that are not blank, in order. -/
def words : List Char → List (List Char)
  | [] => []
  | [c] => if isBlank c then [] else [[c]]
  | c :: d :: r =>
    if isBlank c then words (d :: r)
    else if isBlank d then [c] :: words (d :: r)
    else match words (d :: r) with
      | [] => [[c]]
      | w :: ws => (c :: w) :: ws

end KeyedDelivery.Text
