import Chip8.Instruction

/-!
# Instruction forms

The rows of the flat opcode table.  A form fixes some of the four digits of a word and leaves the
others open as operands.  Decoding looks at the digits in two stages instead; it finds a form
exactly when the form covers the word, so no word is covered twice.
-/

namespace Chip8

/-- A row of the opcode table. -/
inductive Form where
  | clearScreen
  | returnFromCall
  | jump
  | call
  | skipIfByte
  | skipUnlessByte
  | skipIfEqual
  | loadByte
  | addByte
  | copy
  | or
  | and
  | xor
  | add
  | subtract
  | shiftRight
  | subtractFrom
  | shiftLeft
  | skipUnlessEqual
  | loadIndex
  | jumpOffset
  | random
  | draw
  | skipIfKey
  | skipUnlessKey
  | readDelay
  | awaitKey
  | setDelay
  | setSound
  | addIndex
  | loadGlyph
  | storeDecimal
  | saveRegisters
  | loadRegisters
  deriving DecidableEq, Repr

structure Form.Pattern where
  first : Nat
  second : Option Nat
  third : Option Nat
  fourth : Option Nat
  deriving DecidableEq, Repr

namespace Form

/-- The left column of the table. -/
def pattern : Form → Pattern
  | clearScreen => ⟨0x0, some 0x0, some 0xE, some 0x0⟩
  | returnFromCall => ⟨0x0, some 0x0, some 0xE, some 0xE⟩
  | jump => ⟨0x1, none, none, none⟩
  | call => ⟨0x2, none, none, none⟩
  | skipIfByte => ⟨0x3, none, none, none⟩
  | skipUnlessByte => ⟨0x4, none, none, none⟩
  | skipIfEqual => ⟨0x5, none, none, some 0x0⟩
  | loadByte => ⟨0x6, none, none, none⟩
  | addByte => ⟨0x7, none, none, none⟩
  | copy => ⟨0x8, none, none, some 0x0⟩
  | or => ⟨0x8, none, none, some 0x1⟩
  | and => ⟨0x8, none, none, some 0x2⟩
  | xor => ⟨0x8, none, none, some 0x3⟩
  | add => ⟨0x8, none, none, some 0x4⟩
  | subtract => ⟨0x8, none, none, some 0x5⟩
  | shiftRight => ⟨0x8, none, none, some 0x6⟩
  | subtractFrom => ⟨0x8, none, none, some 0x7⟩
  | shiftLeft => ⟨0x8, none, none, some 0xE⟩
  | skipUnlessEqual => ⟨0x9, none, none, some 0x0⟩
  | loadIndex => ⟨0xA, none, none, none⟩
  | jumpOffset => ⟨0xB, none, none, none⟩
  | random => ⟨0xC, none, none, none⟩
  | draw => ⟨0xD, none, none, none⟩
  | skipIfKey => ⟨0xE, none, some 0x9, some 0xE⟩
  | skipUnlessKey => ⟨0xE, none, some 0xA, some 0x1⟩
  | readDelay => ⟨0xF, none, some 0x0, some 0x7⟩
  | awaitKey => ⟨0xF, none, some 0x0, some 0xA⟩
  | setDelay => ⟨0xF, none, some 0x1, some 0x5⟩
  | setSound => ⟨0xF, none, some 0x1, some 0x8⟩
  | addIndex => ⟨0xF, none, some 0x1, some 0xE⟩
  | loadGlyph => ⟨0xF, none, some 0x2, some 0x9⟩
  | storeDecimal => ⟨0xF, none, some 0x3, some 0x3⟩
  | saveRegisters => ⟨0xF, none, some 0x5, some 0x5⟩
  | loadRegisters => ⟨0xF, none, some 0x6, some 0x5⟩

/-- A word has the digits that a form fixes. -/
def Covers (form : Form) (word : Nat) : Prop :=
  word / 4096 = form.pattern.first ∧
    (∀ digit ∈ form.pattern.second, word / 256 % 16 = digit) ∧
    (∀ digit ∈ form.pattern.third, word / 16 % 16 = digit) ∧
    (∀ digit ∈ form.pattern.fourth, word % 16 = digit)

instance (form : Form) (word : Nat) : Decidable (form.Covers word) :=
  inferInstanceAs (Decidable (_ ∧ _ ∧ _ ∧ _))

def instruction (form : Form) (word : Word) : Instruction :=
  match form with
  | clearScreen => .clearScreen
  | returnFromCall => .returnFromCall
  | jump => .jump word.target
  | call => .call word.target
  | skipIfByte => .skipIfByte word.x word.lowByte
  | skipUnlessByte => .skipUnlessByte word.x word.lowByte
  | skipIfEqual => .skipIfEqual word.x word.y
  | loadByte => .loadByte word.x word.lowByte
  | addByte => .addByte word.x word.lowByte
  | copy => .operate .copy word.x word.y
  | or => .operate .or word.x word.y
  | and => .operate .and word.x word.y
  | xor => .operate .xor word.x word.y
  | add => .operate .add word.x word.y
  | subtract => .operate .subtract word.x word.y
  | shiftRight => .operate .shiftRight word.x word.y
  | subtractFrom => .operate .subtractFrom word.x word.y
  | shiftLeft => .operate .shiftLeft word.x word.y
  | skipUnlessEqual => .skipUnlessEqual word.x word.y
  | loadIndex => .loadIndex word.target
  | jumpOffset => .jumpOffset word.target
  | random => .random word.x word.lowByte
  | draw => .draw word.x word.y word.lowNibble
  | skipIfKey => .skipIfKey word.x
  | skipUnlessKey => .skipUnlessKey word.x
  | readDelay => .readDelay word.x
  | awaitKey => .awaitKey word.x
  | setDelay => .setDelay word.x
  | setSound => .setSound word.x
  | addIndex => .addIndex word.x
  | loadGlyph => .loadGlyph word.x
  | storeDecimal => .storeDecimal word.x
  | saveRegisters => .saveRegisters word.x
  | loadRegisters => .loadRegisters word.x

def ofOperation : Instruction.Operation → Form
  | .copy => copy
  | .or => or
  | .and => and
  | .xor => xor
  | .add => add
  | .subtract => subtract
  | .shiftRight => shiftRight
  | .subtractFrom => subtractFrom
  | .shiftLeft => shiftLeft

def ofInstruction : Instruction → Form
  | .clearScreen => clearScreen
  | .returnFromCall => returnFromCall
  | .jump _ => jump
  | .call _ => call
  | .skipIfByte _ _ => skipIfByte
  | .skipUnlessByte _ _ => skipUnlessByte
  | .skipIfEqual _ _ => skipIfEqual
  | .loadByte _ _ => loadByte
  | .addByte _ _ => addByte
  | .operate operation _ _ => ofOperation operation
  | .skipUnlessEqual _ _ => skipUnlessEqual
  | .loadIndex _ => loadIndex
  | .jumpOffset _ => jumpOffset
  | .random _ _ => random
  | .draw _ _ _ => draw
  | .skipIfKey _ => skipIfKey
  | .skipUnlessKey _ => skipUnlessKey
  | .readDelay _ => readDelay
  | .awaitKey _ => awaitKey
  | .setDelay _ => setDelay
  | .setSound _ => setSound
  | .addIndex _ => addIndex
  | .loadGlyph _ => loadGlyph
  | .storeDecimal _ => storeDecimal
  | .saveRegisters _ => saveRegisters
  | .loadRegisters _ => loadRegisters

theorem ofInstruction_instruction (form : Form) (word : Word) :
    ofInstruction (form.instruction word) = form := by
  cases form <;> rfl

end Form

namespace Form

variable {form : Form} {word : Word} {instruction : Instruction}

theorem Covers.family (covers : form.Covers word.toNat) :
    word.family = BitVec.ofNat 4 form.pattern.first := by
  apply BitVec.eq_of_toNat_eq
  rw [word.toNat_family, covers.1, BitVec.toNat_ofNat]
  cases form <;> rfl

theorem Covers.lowNibble {digit : Nat} (covers : form.Covers word.toNat)
    (fixed : form.pattern.fourth = some digit) : word.lowNibble = BitVec.ofNat 4 digit := by
  have last := covers.2.2.2 digit fixed
  apply BitVec.eq_of_toNat_eq
  rw [word.toNat_lowNibble, BitVec.toNat_ofNat]
  omega

theorem Covers.lowByte {high low : Nat} (covers : form.Covers word.toNat)
    (third : form.pattern.third = some high) (fourth : form.pattern.fourth = some low) :
    word.lowByte = BitVec.ofNat 8 (16 * high + low) := by
  have upper := covers.2.2.1 high third
  have lower := covers.2.2.2 low fourth
  apply BitVec.eq_of_toNat_eq
  rw [word.toNat_lowByte, BitVec.toNat_ofNat]
  omega

/-- A form without operands covers a single word. -/
theorem Covers.whole {second third fourth : Nat} (covers : form.Covers word.toNat)
    (fixed : form.pattern = ⟨0, some second, some third, some fourth⟩) :
    word = BitVec.ofNat 16 (256 * second + 16 * third + fourth) := by
  obtain ⟨one, two, three, four⟩ := covers
  simp only [fixed, Option.mem_some_iff, forall_eq'] at one two three four
  apply BitVec.eq_of_toNat_eq
  rw [BitVec.toNat_ofNat]
  omega

theorem decode_of_covers (covers : form.Covers word.toNat) :
    Instruction.decode word = some (form.instruction word) := by
  have family := covers.family
  cases form with
  | clearScreen | returnFromCall =>
      have whole := covers.whole rfl
      subst whole
      rfl
  | copy | or | and | xor | add | subtract | shiftRight | subtractFrom | shiftLeft |
    skipIfEqual | skipUnlessEqual =>
      have selector := covers.lowNibble rfl
      unfold Instruction.decode
      rw [family, selector]
      rfl
  | skipIfKey | skipUnlessKey | readDelay | awaitKey | setDelay | setSound | addIndex |
    loadGlyph | storeDecimal | saveRegisters | loadRegisters =>
      have selector := covers.lowByte rfl rfl
      unfold Instruction.decode
      rw [family, selector]
      rfl
  | jump | call | skipIfByte | skipUnlessByte | loadByte | addByte | loadIndex | jumpOffset |
    random | draw =>
      unfold Instruction.decode
      rw [family]
      rfl

theorem covers_of_first (first : word.toNat / 4096 = form.pattern.first)
    (second : form.pattern.second = none) (third : form.pattern.third = none)
    (fourth : form.pattern.fourth = none) : form.Covers word.toNat :=
  ⟨first, by simp [second], by simp [third], by simp [fourth]⟩

theorem covers_of_lowNibble {value : Nibble} (first : word.toNat / 4096 = form.pattern.first)
    (second : form.pattern.second = none) (third : form.pattern.third = none)
    (selected : word.lowNibble = value) (fourth : form.pattern.fourth = some value.toNat) :
    form.Covers word.toNat := by
  have last := word.toNat_lowNibble
  rw [selected] at last
  refine ⟨first, by simp [second], by simp [third], ?_⟩
  intro digit fixed
  cases fourth.symm.trans fixed
  exact last.symm

theorem covers_of_lowByte {value : Byte} (first : word.toNat / 4096 = form.pattern.first)
    (second : form.pattern.second = none) (selected : word.lowByte = value)
    (third : form.pattern.third = some (value.toNat / 16))
    (fourth : form.pattern.fourth = some (value.toNat % 16)) : form.Covers word.toNat := by
  have last := word.toNat_lowByte
  rw [selected] at last
  refine ⟨first, by simp [second], ?_, ?_⟩
  · intro digit fixed
    cases third.symm.trans fixed
    omega
  · intro digit fixed
    cases fourth.symm.trans fixed
    omega

theorem covers_of_operation? {operation : Instruction.Operation}
    (first : word.toNat / 4096 = 8)
    (selected : Instruction.operation? word.lowNibble = some operation) :
    (ofOperation operation).Covers word.toNat := by
  unfold Instruction.operation? at selected
  split at selected <;> rename_i digit <;> cases selected <;>
    exact covers_of_lowNibble first rfl rfl digit rfl

theorem covers_of_keyTest? (first : word.toNat / 4096 = 14)
    (selected : Instruction.keyTest? word.lowByte word.x = some instruction) :
    (ofInstruction instruction).Covers word.toNat := by
  unfold Instruction.keyTest? at selected
  split at selected <;> rename_i byte <;> cases selected <;>
    exact covers_of_lowByte first rfl byte rfl rfl

theorem covers_of_transfer? (first : word.toNat / 4096 = 15)
    (selected : Instruction.transfer? word.lowByte word.x = some instruction) :
    (ofInstruction instruction).Covers word.toNat := by
  unfold Instruction.transfer? at selected
  split at selected <;> rename_i byte <;> cases selected <;>
    exact covers_of_lowByte first rfl byte rfl rfl

/-- A word that decodes is covered by the form of its instruction. -/
theorem covers_of_decode (decoded : Instruction.decode word = some instruction) :
    (ofInstruction instruction).Covers word.toNat := by
  have first := word.toNat_family.symm
  unfold Instruction.decode at decoded
  split at decoded <;> rename_i family <;> try rw [family] at first
  case h_1 =>
      split at decoded
      · rename_i whole
        cases decoded
        rw [whole]
        decide
      · obtain ⟨whole, same⟩ := Option.ite_none_right_eq_some.mp decoded
        cases same
        rw [whole]
        decide
  case h_6 | h_10 =>
      obtain ⟨selected, same⟩ := Option.ite_none_right_eq_some.mp decoded
      cases same
      exact covers_of_lowNibble first rfl rfl selected rfl
  case h_9 =>
      obtain ⟨operation, selected, rfl⟩ := Option.map_eq_some_iff.mp decoded
      exact covers_of_operation? first selected
  case h_15 => exact covers_of_keyTest? first decoded
  case h_16 =>
      have last : word.family.toNat = 15 := by
        simp only [imp_false, BitVec.toNat_eq, BitVec.toNat_ofNat] at *
        omega
      exact covers_of_transfer? (first.trans last) decoded
  all_goals
    cases decoded
    exact covers_of_first first rfl rfl rfl

/-- The two stages of decoding pick a form exactly when it covers the word. -/
theorem covers_iff : form.Covers word.toNat ↔
    (Instruction.decode word).map ofInstruction = some form := by
  constructor
  · intro covers
    rw [decode_of_covers covers, Option.map_some, ofInstruction_instruction]
  · intro picked
    obtain ⟨instruction, decoded, rfl⟩ := Option.map_eq_some_iff.mp picked
    exact covers_of_decode decoded

theorem Covers.unique {other : Form} (covers : form.Covers word.toNat)
    (also : other.Covers word.toNat) : form = other :=
  Option.some.inj ((covers_iff.mp covers).symm.trans (covers_iff.mp also))

theorem decode_eq_none_iff :
    Instruction.decode word = none ↔ ∀ form : Form, ¬ form.Covers word.toNat := by
  constructor
  · intro absent form covers
    rw [decode_of_covers covers] at absent
    contradiction
  · intro uncovered
    cases decoded : Instruction.decode word with
    | none => rfl
    | some instruction => exact absurd (covers_of_decode decoded) (uncovered _)

theorem covers_call_iff {value : Nat} : call.Covers value ↔ value / 4096 = 2 := by
  simp [Covers, pattern]

theorem covers_returnFromCall_iff {value : Nat} : returnFromCall.Covers value ↔ value = 0x00EE := by
  simp only [Covers, pattern, Option.mem_some_iff, forall_eq']
  omega

end Form

end Chip8
