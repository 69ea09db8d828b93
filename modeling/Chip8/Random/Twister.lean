import Chip8.Word

/-!
# The Mersenne twister

The 32-bit generator MT19937 with 624 words of state, seeded from an integer through its array
seeding: the magnitude of the seed is cut into 32-bit words, least significant first.
-/

namespace Chip8.Random

structure Twister where
  words : Vector UInt32 624
  used : Nat
  deriving DecidableEq

namespace Twister

def spread (seed : UInt32) : Vector UInt32 624 :=
  Nat.fold 623 (fun step bound words =>
    let previous := words[step]
    let mixed := previous ^^^ (previous >>> 30)
    words.set (step + 1) (1812433253 * mixed + UInt32.ofNat (step + 1)))
    (Vector.replicate 624 seed)

/-- The state word that seeding step `step` changes: the words after the first, over and over. -/
def seedingSlot (step : Nat) : Fin 624 := ⟨1 + step % 623, by omega⟩

/-- One seeding step: a word is combined with its predecessor, and the first word follows the
last one. -/
def seedingStep (combine : UInt32 → UInt32 → UInt32) (words : Vector UInt32 624) (step : Nat) :
    Vector UInt32 624 :=
  let slot := seedingSlot step
  let previous := words.get ⟨slot.val - 1, by omega⟩
  let mixed := combine (words.get slot) (previous ^^^ (previous >>> 30))
  let updated := words.set slot mixed
  if slot.val = 623 then updated.set 0 mixed else updated

def ofKey (key : Array UInt32) : Twister :=
  let rounds := max 624 key.size
  let keyed := (List.range rounds).foldl (fun words step =>
    let position := step % key.size
    seedingStep (fun word mixed =>
      (word ^^^ (mixed * 1664525)) + key.getD position 0 + UInt32.ofNat position) words step)
    (spread 19650218)
  let stirred := (List.range 623).foldl (fun words extra =>
    let step := rounds + extra
    seedingStep (fun word mixed =>
      (word ^^^ (mixed * 1566083941)) - UInt32.ofNat (seedingSlot step).val) words step)
    keyed
  { words := stirred.set 0 0x80000000, used := 624 }

def keyWords (value : Nat) : List UInt32 :=
  if value = 0 then [] else UInt32.ofNat value :: keyWords (value / 4294967296)
termination_by value

def ofSeed (seed : Int) : Twister :=
  let key := if seed = 0 then [0] else keyWords seed.natAbs
  ofKey key.toArray

def renew (words : Vector UInt32 624) : Vector UInt32 624 :=
  Nat.fold 624 (fun slot _ words =>
    let joined := (words[slot] &&& 0x80000000) ||| (words[(slot + 1) % 624] &&& 0x7FFFFFFF)
    let twist : UInt32 := if joined &&& 1 = 0 then 0 else 0x9908B0DF
    words.set slot (words[(slot + 397) % 624] ^^^ (joined >>> 1) ^^^ twist)) words

def temper (word : UInt32) : UInt32 :=
  let a := word ^^^ (word >>> 11)
  let b := a ^^^ ((a <<< 7) &&& 0x9D2C5680)
  let c := b ^^^ ((b <<< 15) &&& 0xEFC60000)
  c ^^^ (c >>> 18)

def next (twister : Twister) : UInt32 × Twister :=
  if more : twister.used < 624 then
    (temper twister.words[twister.used], { twister with used := twister.used + 1 })
  else
    let words := renew twister.words
    (temper words[0], { words := words, used := 1 })

def nextByte (twister : Twister) : Byte × Twister :=
  let (value, rest) := twister.next
  ((value >>> 24).toUInt8.toBitVec, rest)

end Twister

end Chip8.Random
