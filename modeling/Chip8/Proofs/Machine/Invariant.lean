import Chip8.Proofs.Machine.Fault

namespace Chip8.Machine

variable {machine : Machine}

/-- The state that a host can rely on, part by part. -/
structure WellFormed (machine : Machine) : Prop where
  registers : machine.registers.values.length = 16 ∧
    ∀ value ∈ machine.registers.values, value.toNat < 256
  memory : machine.memory.toList.length = 4096 ∧ ∀ byte ∈ machine.memory.toList, byte.toNat < 256
  display : machine.display.rows.toList.length = 32 ∧
    ∀ row ∈ machine.display.rows.toList, (Display.bytesOfRow row).length = 8
  pc : 0 ≤ machine.registers.pc ∧ machine.registers.pc < 4096
  index : 0 ≤ machine.registers.index ∧ machine.registers.index < 65536
  sp : 0 ≤ machine.registers.sp ∧ machine.registers.sp ≤ 16
  stack : machine.registers.stack.toList.length = 16 ∧
    ∀ address ∈ machine.registers.stack.toList, 0 ≤ address ∧ address < 4096
  delay : 0 ≤ machine.timers.delay ∧ machine.timers.delay < 256
  sound : 0 ≤ machine.timers.sound ∧ machine.timers.sound < 256
  keypad : machine.keypad.toNat < 65536
  awaiting : machine.awaiting = true ↔ machine.runState.register?.isSome
  /-- A key wait belongs to the instruction `Fx0A` that was fetched last. -/
  waiting : ∀ register ∈ machine.runState.register?, 0 ≤ register ∧ register < 16 ∧
    register = (machine.lastOpcode.toNat / 256 % 16 : Nat) ∧
    machine.lastOpcode.toNat / 4096 = 0xF ∧ machine.lastOpcode.toNat % 256 = 0x0A ∧
    machine.registers.pc = (machine.lastAddress + 2) % 4096

theorem Waiting.spelled {register : Int} (waiting : machine.Waiting register) :
    0 ≤ register ∧ register < 16 ∧ register = (machine.lastOpcode.toNat / 256 % 16 : Nat) ∧
      machine.lastOpcode.toNat / 4096 = 0xF ∧ machine.lastOpcode.toNat % 256 = 0x0A ∧
      machine.registers.pc = (machine.lastAddress + 2) % 4096 := by
  have named := waiting.register
  have first := waiting.fetched.1
  have third := waiting.fetched.2.2.1 0x0 rfl
  have fourth := waiting.fetched.2.2.2 0xA rfl
  rw [Word.toNat_x] at named
  refine ⟨by omega, by omega, named, first, by omega, waiting.resumes⟩

theorem Sound.wellFormed (sound : machine.Sound) : machine.WellFormed := by
  refine
    { registers := ⟨Vector.length_toList, fun value _ => value.isLt⟩
      memory := ⟨Vector.length_toList, fun byte _ => byte.isLt⟩
      display := ⟨Vector.length_toList, ?_⟩
      pc := sound.inRange.pc
      index := sound.inRange.index
      sp := sound.inRange.sp
      stack := ⟨Vector.length_toList, ?_⟩
      delay := sound.inRange.delay
      sound := sound.inRange.sound
      keypad := machine.keypad.isLt
      awaiting := ?_
      waiting := ?_ }
  · intro row _
    rw [Display.bytesOfRow, List.length_map, List.length_range]
    rfl
  · intro address member
    obtain ⟨slot, inside, found⟩ := Vector.mem_iff_getElem.mp (Vector.mem_toList_iff.mp member)
    rw [← found]
    exact sound.inRange.stack ⟨slot, inside⟩
  · rw [Machine.awaiting]
    cases machine.runState with
    | running => simp [RunState.register?]
    | awaitingKey register => simp [RunState.register?]
  · intro register named
    cases state : machine.runState with
    | running =>
        rw [state] at named
        cases named
    | awaitingKey other =>
        rw [state] at named
        cases named
        exact (sound.waiting register state).spelled

/-- Every program that fits can be loaded; whatever the host then asks for, the machine stays well
formed, and a step raises nothing but a fault of the program. -/
theorem wellFormed_of_load (program : List Byte) (shift : ShiftDialect) (random : RandomSource)
    (trace : Trace) (short : program.length ≤ 3584) :
    ∃ start, load program shift random trace = .ok start ∧ ∀ requests : List Request,
      (start.serveAll requests).WellFormed ∧
        ∀ error, (start.serveAll requests).step.1 = .error error →
          ∃ cause ∈ [Fault.Cause.invalidOpcode, .stackOverflow, .stackUnderflow],
            ∃ opcode address, error = .fault { cause, opcode, address } := by
  obtain ⟨start, loaded⟩ := exists_load short shift random trace
  refine ⟨start, loaded, ?_⟩
  intro requests
  have sound := (Sound.load loaded).serveAll requests
  refine ⟨sound.wellFormed, ?_⟩
  intro error raised
  obtain ⟨_, cause, stuck, same⟩ := stuck_of_step sound raised
  exact ⟨cause, mem_of_stuck stuck, _, _, same⟩

theorem wellFormed_of_recursion :
    ([0x22, 0x00] : List Byte).length ≤ 3584 ∧
      ∃ start, load [0x22, 0x00] .vy .zeros .silent = .ok start ∧
        (start.serveAll
          (List.replicate 17 .step ++ [.deliverKey 20, .setKeypad (-1), .step])).WellFormed := by
  refine ⟨by decide, ?_⟩
  obtain ⟨start, loaded, holds⟩ := wellFormed_of_load [0x22, 0x00] .vy .zeros .silent (by decide)
  exact ⟨start, loaded, (holds _).1⟩

end Chip8.Machine
