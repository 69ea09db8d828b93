namespace Chip8.Keyboard

def layout : List (Char × Fin 16) := [
  ('1', 0x1), ('2', 0x2), ('3', 0x3), ('4', 0xC),
  ('q', 0x4), ('w', 0x5), ('e', 0x6), ('r', 0xD),
  ('a', 0x7), ('s', 0x8), ('d', 0x9), ('f', 0xE),
  ('z', 0xA), ('x', 0x0), ('c', 0xB), ('v', 0xF)]

def keyOf? (c : Char) : Option (Fin 16) := layout.lookup c

def keyOfText? (text : String) : Option (Fin 16) :=
  match text.toList with
  | [c] => keyOf? c
  | _ => none

def escapeCode : Int := 27

def chartLines : List String := [
  "Key mappings:",
  "",
  " Keypad                   Keyboard",
  "+-+-+-+-+                +-+-+-+-+",
  "|1|2|3|C|                |1|2|3|4|",
  "+-+-+-+-+                +-+-+-+-+",
  "|4|5|6|D|                |Q|W|E|R|",
  "+-+-+-+-+       =>       +-+-+-+-+",
  "|7|8|9|E|                |A|S|D|F|",
  "+-+-+-+-+                +-+-+-+-+",
  "|A|0|B|F|                |Z|X|C|V|",
  "+-+-+-+-+                +-+-+-+-+",
  "",
  "Escape quits.  P pauses (window front end)."]

def chart : String := String.join (chartLines.map (· ++ "\n"))

end Chip8.Keyboard
