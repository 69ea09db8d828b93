import Chip8.Text.Hex
import Chip8.Text.Printable

/-!
# Quoted text

A text between quotes, as error messages show it.  The quotes are single, unless the text has a
single quote and no double one.  Backslashes, the quote itself and characters that are not
printable are escaped.
-/

namespace Chip8.Text

def quoteFor (text : List Char) : Char :=
  if text.contains '\'' && !text.contains '"' then '"' else '\''

def codeDigits (width code : Nat) : List Char := Hex.zeroFill width (Hex.digits code)

def escape (quote c : Char) : List Char :=
  if c = quote ∨ c = '\\' then ['\\', c]
  else if c = '\t' then ['\\', 't']
  else if c = '\n' then ['\\', 'n']
  else if c = '\r' then ['\\', 'r']
  else if isPrintable c then [c]
  else if c.toNat < 0x100 then '\\' :: 'x' :: codeDigits 2 c.toNat
  else if c.toNat < 0x10000 then '\\' :: 'u' :: codeDigits 4 c.toNat
  else '\\' :: 'U' :: codeDigits 8 c.toNat

def quoted (text : String) : String :=
  let chars := text.toList
  let quote := quoteFor chars
  String.ofList (quote :: chars.flatMap (escape quote) ++ [quote])

end Chip8.Text
