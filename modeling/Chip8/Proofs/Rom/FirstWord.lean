import Chip8.Proofs.Rom.Loading

/-!
# The first word of a program

The summary of a program file tells a word, and the machine launched from the file fetches one
first.  The two are the same unless the file is a single byte: that is no whole word for the
summary, while the machine finds a zero behind it.
-/

namespace Chip8

namespace Rom

variable {files : Files} {path : String} {data : List Byte} {shift : ShiftChoice}
  {dialect : ShiftDialect} {random : RandomSource} {trace : Trace} {machine : Machine}

/-- A path leads to a file that fits in memory as a program. -/
structure Accepted (files : Files) (path : String) (data : List Byte) : Prop where
  plain : path.contains '\x00' = false
  found : files path = .ok data
  short : data.length ≤ 3584

theorem Accepted.read_eq (accepted : Accepted files path data) : read files path = .ok data := by
  have readable : Readable files path data := ⟨accepted.plain, accepted.found⟩
  rw [readable.read_eq, if_pos accepted.short]

theorem Accepted.inspect_eq (accepted : Accepted files path data) :
    inspect files path = .ok (Info.ofData path data) := by
  rw [inspect, accepted.read_eq]
  rfl

theorem Accepted.exists_launch (accepted : Accepted files path data)
    (chosen : shift.dialect = .ok dialect) (random : RandomSource) (trace : Trace) :
    ∃ machine, Machine.load data dialect random trace = .ok machine ∧
      (launch files path shift random trace).1 = .ok machine :=
  exists_launch_of_read chosen accepted.read_eq random trace

/-- The word that the first two bytes of a program make up, zeros standing for missing ones. -/
def startWord (data : List Byte) : Word := Word.ofBytes (data[0]?.getD 0) (data[1]?.getD 0)

theorem firstOpcode_eq_startWord (whole : ∀ byte, data = [byte] → byte = 0) :
    firstOpcode data = startWord data := by
  match data with
  | [] => rfl
  | [byte] =>
      rw [whole byte rfl]
      rfl
  | _ :: _ :: _ => rfl

theorem nextWord_of_load (short : data.length ≤ 3584)
    (loaded : Machine.load data dialect random trace = .ok machine) :
    machine.nextWord = startWord data := by
  rw [Machine.load, ofProgram_eq, if_pos short] at loaded
  cases loaded
  have first := @Memory.read_image data short 0 (by decide)
  have second := @Memory.read_image data short 1 (by decide)
  rw [startWord, ← first, ← second]
  rfl

/-- The first step of a machine is to fetch the first word of its program, fault or not. -/
theorem step_of_load (short : data.length ≤ 3584)
    (loaded : Machine.load data dialect random trace = .ok machine) :
    machine.step.2.lastOpcode = startWord data ∧ machine.step.2.lastAddress = 0x200 := by
  obtain ⟨running, counter⟩ : machine.runState = .running ∧ machine.registers.pc = 0x200 := by
    obtain ⟨memory, rfl⟩ := Machine.load_eq loaded
    exact ⟨rfl, rfl⟩
  obtain ⟨recorded, _⟩ := Machine.step_recorded running
  exact ⟨recorded.lastOpcode.trans (nextWord_of_load short loaded),
    recorded.lastAddress.trans counter⟩

structure Info.Foretells (info : Info) (machine : Machine) : Prop where
  word : info.firstOpcode = machine.step.2.lastOpcode
  entry : info.entries.lookup "first_opcode" =
    some (Hex.padded 4 machine.step.2.lastOpcode.toNat)

theorem Info.foretells_iff {info : Info} :
    info.Foretells machine ↔ info.firstOpcode = machine.step.2.lastOpcode := by
  refine ⟨Foretells.word, fun word => ⟨word, ?_⟩⟩
  rw [← word]
  rfl

/-- What a summary and a machine made from the same file have to do with its first word. -/
structure FirstWord (data : List Byte) (info : Info) (machine : Machine) : Prop where
  fetched : machine.step.2.lastOpcode = startWord data ∧ machine.step.2.lastAddress = 0x200
  told : (∀ byte, data = [byte] → byte = 0) → info.Foretells machine
  /-- A single byte is no whole word for the summary. -/
  cut : ∀ byte, data = [byte] → info.firstOpcode = 0

theorem firstWord_of_accepted (accepted : Accepted files path data)
    (chosen : shift.dialect = .ok dialect) :
    ∃ info machine, inspect files path = .ok info ∧
      (launch files path shift random trace).1 = .ok machine ∧ FirstWord data info machine := by
  obtain ⟨machine, loaded, launched⟩ := accepted.exists_launch chosen random trace
  have fetched := step_of_load accepted.short loaded
  refine ⟨Info.ofData path data, machine, accepted.inspect_eq, launched, fetched, ?_, ?_⟩
  · intro whole
    exact Info.foretells_iff.mpr ((firstOpcode_eq_startWord whole).trans fetched.1.symm)
  · rintro byte rfl
    rfl

theorem firstWord_of_threeBytes :
    let files : Files := fun _ => .ok [0x60, 0x05, 0xF3]
    Accepted files "games/three.ch8" [0x60, 0x05, 0xF3] ∧
      (ShiftChoice.named "vy").dialect = .ok .vy ∧
      ∃ info machine, inspect files "games/three.ch8" = .ok info ∧
        (launch files "games/three.ch8" (.named "vy") .zeros .silent).1 = .ok machine ∧
        FirstWord [0x60, 0x05, 0xF3] info machine ∧ info.Foretells machine := by
  intro files
  have accepted : Accepted files "games/three.ch8" [0x60, 0x05, 0xF3] :=
    ⟨by simp, rfl, by decide⟩
  have chosen : (ShiftChoice.named "vy").dialect = .ok .vy := rfl
  obtain ⟨info, machine, inspected, launched, first⟩ := firstWord_of_accepted accepted chosen
  exact ⟨accepted, chosen, info, machine, inspected, launched, first, first.told (by simp)⟩

/-- A file of a single byte is summarised by another word than its machine fetches. -/
theorem not_foretells_of_halfWord :
    let files : Files := fun _ => .ok [0x60]
    Accepted files "half" [0x60] ∧ ∃ info machine, inspect files "half" = .ok info ∧
      (launch files "half" .unspecified .zeros .silent).1 = .ok machine ∧
      info.firstOpcode = 0x0000 ∧ machine.step.2.lastOpcode = 0x6000 ∧
      ¬ info.Foretells machine := by
  intro files
  have accepted : Accepted files "half" [0x60] := ⟨by simp, rfl, by decide⟩
  have chosen : ShiftChoice.unspecified.dialect = .ok .vx := rfl
  obtain ⟨machine, loaded, launched⟩ := accepted.exists_launch chosen .zeros .silent
  have fetched : machine.step.2.lastOpcode = 0x6000 := (step_of_load accepted.short loaded).1
  refine ⟨accepted, Info.ofData "half" [0x60], machine, accepted.inspect_eq, launched, rfl,
    fetched, ?_⟩
  intro foretells
  have same : (0x0000 : Word) = 0x6000 := foretells.word.trans fetched
  exact absurd same (by decide)

end Rom

end Chip8
