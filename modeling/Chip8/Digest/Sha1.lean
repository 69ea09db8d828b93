import Chip8.Text.Hex

namespace Chip8.Digest

structure Sha1 where
  a : UInt32
  b : UInt32
  c : UInt32
  d : UInt32
  e : UInt32

namespace Sha1

def start : Sha1 := ⟨0x67452301, 0xEFCDAB89, 0x98BADCFE, 0x10325476, 0xC3D2E1F0⟩

def rotateLeft (word : UInt32) (count : UInt32) : UInt32 :=
  (word <<< count) ||| (word >>> (32 - count))

/-- A message made a multiple of 64 bytes long: a one bit, zeros, and its length in bits. -/
def padded (message : List Byte) : List Byte :=
  let zeros := (119 - message.length % 64) % 64
  let length := BitVec.ofNat 64 (8 * message.length)
  let lengthBytes := (List.range 8).map fun place => (length >>> (56 - 8 * place)).setWidth 8
  message ++ 0x80 :: List.replicate zeros 0 ++ lengthBytes

def words : List Byte → List UInt32
  | b₃ :: b₂ :: b₁ :: b₀ :: rest => UInt32.ofBitVec (b₃ ++ b₂ ++ b₁ ++ b₀) :: words rest
  | _ => []

/-- The eighty words that the sixteen words of a block are spread to. -/
def schedule (block : Array UInt32) : Array UInt32 :=
  (List.range 64).foldl (fun spread step =>
    let word := spread.getD (step + 13) 0 ^^^ spread.getD (step + 8) 0 ^^^
      spread.getD (step + 2) 0 ^^^ spread.getD step 0
    spread.push (rotateLeft word 1)) block

def mix (round : Nat) (b c d : UInt32) : UInt32 × UInt32 :=
  if round < 20 then ((b &&& c) ||| (~~~b &&& d), 0x5A827999)
  else if round < 40 then (b ^^^ c ^^^ d, 0x6ED9EBA1)
  else if round < 60 then ((b &&& c) ||| (b &&& d) ||| (c &&& d), 0x8F1BBCDC)
  else (b ^^^ c ^^^ d, 0xCA62C1D6)

def round (state : Sha1) (number : Nat) (word : UInt32) : Sha1 :=
  let (mixed, constant) := mix number state.b state.c state.d
  { a := rotateLeft state.a 5 + mixed + state.e + constant + word
    b := state.a
    c := rotateLeft state.b 30
    d := state.c
    e := state.d }

def absorb (state : Sha1) (block : Array UInt32) : Sha1 :=
  let mixed := (schedule block).toList.zipIdx.foldl
    (fun state (word, number) => round state number word) state
  ⟨state.a + mixed.a, state.b + mixed.b, state.c + mixed.c, state.d + mixed.d,
    state.e + mixed.e⟩

def absorbBlocks (state : Sha1) : Nat → List UInt32 → Sha1
  | 0, _ => state
  | count + 1, words => (state.absorb (words.take 16).toArray).absorbBlocks count (words.drop 16)

def ofMessage (message : List Byte) : Sha1 :=
  let words := words (padded message)
  start.absorbBlocks (words.length / 16) words

def text (digest : Sha1) : String :=
  String.ofList <| [digest.a, digest.b, digest.c, digest.d, digest.e].flatMap fun word =>
    Hex.zeroFill 8 (Hex.digits word.toNat)

end Sha1

end Chip8.Digest
