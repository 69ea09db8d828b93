import Chip8.Text.Digit

namespace Chip8.Text

def isBlank (c : Char) : Bool :=
  let code := c.toNat
  (9 ≤ code && code ≤ 13) || code == 0x20 || code == 0x85 || code == 0xA0 || code == 0x1680 ||
    (0x2000 ≤ code && code ≤ 0x200A) || code == 0x2028 || code == 0x2029 || code == 0x202F ||
    code == 0x205F || code == 0x3000

def trimBlanks (text : List Char) : List Char :=
  ((text.dropWhile isBlank).reverse.dropWhile isBlank).reverse

/-- The digits of a numeral, where an underscore may stand before any digit but the first. -/
def numeralDigits? : List Char → Option (List Nat)
  | [] => none
  | [c] => (decimalValue? c).map ([·])
  | c :: '_' :: rest => do
    let digit ← decimalValue? c
    let digits ← numeralDigits? rest
    some (digit :: digits)
  | c :: rest => do
    let digit ← decimalValue? c
    let digits ← numeralDigits? rest
    some (digit :: digits)

def digitLimit : Nat := 4300

/-- The number that a numeral without sign denotes. -/
def numeral? (text : List Char) : Option Nat := do
  let digits ← numeralDigits? text
  if digits.length ≤ digitLimit then
    some (digits.foldl (fun value digit => 10 * value + digit) 0)
  else
    none

def integer? (text : String) : Option Int :=
  match trimBlanks text.toList with
  | '+' :: rest => (numeral? rest).map Int.ofNat
  | '-' :: rest => (numeral? rest).map fun value => -Int.ofNat value
  | unsigned => (numeral? unsigned).map Int.ofNat

end Chip8.Text
