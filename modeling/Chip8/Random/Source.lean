import Chip8.Random.Twister

namespace Chip8

/-- A supply of bytes that never ends. -/
inductive RandomSource where
  | tape (byteAt : Nat → Byte) (position : Nat)
  | twister (generator : Random.Twister)

namespace RandomSource

def zeros : RandomSource := tape (fun _ => 0) 0

/-- The given bytes, over and over; zeros if there are none. -/
def cycle (bytes : Array Byte) : RandomSource :=
  tape (fun position => bytes.getD (position % bytes.size) 0) 0

def ofSeed (seed : Int) : RandomSource := twister (Random.Twister.ofSeed seed)

def draw : RandomSource → Byte × RandomSource
  | tape byteAt position => (byteAt position, tape byteAt (position + 1))
  | twister generator =>
    let (byte, rest) := generator.nextByte
    (byte, twister rest)

/-- The source after `count` draws. -/
def skip : Nat → RandomSource → RandomSource
  | 0, source => source
  | count + 1, source => skip count source.draw.2

def nth (source : RandomSource) (count : Nat) : Byte := (source.skip count).draw.1

end RandomSource

end Chip8
