import Chip8.Proofs.Machine.Request
import Chip8.Proofs.Memory.Image
import Chip8.Rom.Launch
import Mathlib.Order.Interval.Finset.Nat

/-!
# Loading a program

A program is measured twice: when its file is read, and again when it is placed in memory.  Both
times the same ones are refused, so the second check never finds anything.  A program that is
accepted lies in memory as a whole, from its start on, with the glyphs below it and zeros around it.
-/

namespace Chip8.Rom

/-- A path leads to a file with these bytes, however many they are. -/
structure Readable (files : Files) (path : String) (data : List Byte) : Prop where
  plain : path.contains '\x00' = false
  found : files path = .ok data

/-- What the summary of an accepted program and the machine made for it hold. -/
structure HoldsProgram (data : List Byte) (info : Info) (machine : Machine) : Prop where
  image : machine.memory.IsImage data
  readBack : machine.memory.readBlock 0x200 machine.programSize = data
  sizes : info.size + info.free = 3584
  free : info.free =
    ((Finset.range 4096).filter fun address => 0x200 + data.length ≤ address).card

/-- When some bytes are accepted as a program, and what comes of it. -/
structure LoadsWhole (data : List Byte) : Prop where
  validated (path : String) : validate data path = .ok () ↔ data.length ≤ 3584
  placed : (∃ memory, Memory.ofProgram data = .ok memory) ↔ data.length ≤ 3584
  refused {files : Files} {path : String} (readable : Readable files path data)
    (error : LoadError) : read files path = .error (.load error) ↔
      3584 < data.length ∧ error = .romTooLarge path data.length
  inspected {files : Files} {path : String} (readable : Readable files path data)
    (error : LoadError) :
    inspect files path = .error (.load error) ↔ read files path = .error (.load error)
  /-- So is a machine, unless the user asked for a shift dialect that there is not. -/
  launched {files : Files} {path : String} (readable : Readable files path data)
    (shift : ShiftChoice) (random : RandomSource) (trace : Trace) (error : LoadError) :
    (launch files path shift random trace).1 = .error (.load error) ↔
      (∃ dialect, shift.dialect = .ok dialect) ∧ read files path = .error (.load error)
  /-- The check that is made in placing the program finds nothing. -/
  checkedBefore (files : Files) (path : String) (shift : ShiftChoice) (random : RandomSource)
    (trace : Trace) (error : ProgramTooLarge) :
    (launch files path shift random trace).1 ≠ .error (.load (.programTooLarge error))
  accepted {files : Files} {path : String} (readable : Readable files path data)
    (short : data.length ≤ 3584) {shift : ShiftChoice} {dialect : ShiftDialect}
    (chosen : shift.dialect = .ok dialect) (random : RandomSource) (trace : Trace) :
    ∃ info machine, inspect files path = .ok info ∧
      (launch files path shift random trace).1 = .ok machine ∧ HoldsProgram data info machine

variable {files : Files} {path : String} {data : List Byte} {shift : ShiftChoice}
  {dialect : ShiftDialect} {random : RandomSource} {trace : Trace} {machine : Machine}

theorem validate_eq (data : List Byte) (path : String) : validate data path =
    if data.length ≤ 3584 then .ok () else .error (.romTooLarge path data.length) := by
  have capacity : Memory.capacity = 3584 := rfl
  by_cases short : data.length ≤ 3584
  · rw [validate, if_neg (by omega), if_pos short]
  · rw [validate, if_pos (by omega), if_neg short]

theorem ofProgram_eq (data : List Byte) : Memory.ofProgram data =
    if data.length ≤ 3584 then .ok (Memory.withFont.writeBlock Memory.programStart data)
    else .error ⟨data.length⟩ := by
  have capacity : Memory.capacity = 3584 := rfl
  by_cases short : data.length ≤ 3584
  · rw [Memory.ofProgram, if_neg (by omega), if_pos short]
  · rw [Memory.ofProgram, if_pos (by omega), if_neg short]

theorem validate_eq_ok_iff : validate data path = .ok () ↔ data.length ≤ 3584 := by
  rw [validate_eq]
  split <;> simp_all

theorem exists_ofProgram_iff :
    (∃ memory, Memory.ofProgram data = .ok memory) ↔ data.length ≤ 3584 := by
  rw [ofProgram_eq]
  split <;> simp_all

theorem Readable.read_eq (readable : Readable files path data) : read files path =
    if data.length ≤ 3584 then .ok data else .error (.load (.romTooLarge path data.length)) := by
  rw [read, readable.plain, readable.found]
  simp only [validate_eq]
  by_cases short : data.length ≤ 3584
  · rw [if_pos short, if_pos short]
    rfl
  · rw [if_neg short, if_neg short]
    rfl

theorem Readable.read_error_iff (readable : Readable files path data) {error : LoadError} :
    read files path = .error (.load error) ↔
      3584 < data.length ∧ error = .romTooLarge path data.length := by
  rw [readable.read_eq]
  by_cases short : data.length ≤ 3584
  · simp [short]
  · simp [if_neg short, Nat.lt_of_not_le short, eq_comm]

theorem inspect_error_iff {error : RomError} :
    inspect files path = .error error ↔ read files path = .error error := by
  rw [inspect]
  cases read files path with
  | error reason => simp [Except.map]
  | ok data => simp [Except.map]

theorem unknownShift_of_dialect {error : RomError} (unknown : shift.dialect = .error error) :
    ∃ name, error = .unknownShift name := by
  cases shift with
  | unspecified => cases unknown
  | exactly dialect => cases unknown
  | named name =>
      simp only [ShiftChoice.dialect] at unknown
      split at unknown
      · cases unknown
      · cases unknown
        exact ⟨_, rfl⟩

/-- All that opening a file and checking it can come to. -/
theorem read_cases (files : Files) (path : String) :
    (∃ data, Readable files path data) ∨ read files path = .error .embeddedNul ∨
      ∃ reason, read files path = .error (.load (.unreadable path reason)) := by
  by_cases plain : path.contains '\x00' = false
  · cases found : files path with
    | error reason =>
        refine Or.inr (Or.inr ⟨reason, ?_⟩)
        rw [read, plain, found]
        rfl
    | ok data => exact Or.inl ⟨data, plain, found⟩
  · have cut : path.contains '\x00' = true := by
      rwa [Bool.not_eq_false] at plain
    exact Or.inr (Or.inl (if_pos cut))

theorem read_ne_programTooLarge (error : ProgramTooLarge) :
    read files path ≠ .error (.load (.programTooLarge error)) := by
  obtain ⟨data, readable⟩ | refused | ⟨reason, refused⟩ := read_cases files path
  · intro refused
    cases (readable.read_error_iff.mp refused).2
  · simp [refused]
  · simp [refused]

theorem length_of_read (opened : read files path = .ok data) : data.length ≤ 3584 := by
  obtain ⟨content, readable⟩ | refused | ⟨reason, refused⟩ := read_cases files path
  · rw [readable.read_eq] at opened
    split at opened
    · cases opened
      assumption
    · cases opened
  · simp [refused] at opened
  · simp [refused] at opened

theorem launch_of_read_error {error : RomError} (chosen : shift.dialect = .ok dialect)
    (unread : read files path = .error error) :
    (launch files path shift random trace).1 = .error error := by
  simp only [launch, chosen, fetch, unread]

theorem exists_launch_of_read (chosen : shift.dialect = .ok dialect)
    (opened : read files path = .ok data) (random : RandomSource) (trace : Trace) :
    ∃ machine, Machine.load data dialect random trace = .ok machine ∧
      (launch files path shift random trace).1 = .ok machine := by
  obtain ⟨machine, loaded⟩ := Machine.exists_load (length_of_read opened) dialect random trace
  refine ⟨machine, loaded, ?_⟩
  simp only [launch, chosen, fetch, opened, loaded]

theorem launch_error_iff {error : LoadError} :
    (launch files path shift random trace).1 = .error (.load error) ↔
      (∃ dialect, shift.dialect = .ok dialect) ∧ read files path = .error (.load error) := by
  cases chosen : shift.dialect with
  | error reason =>
      obtain ⟨name, rfl⟩ := unknownShift_of_dialect chosen
      simp [launch, chosen]
  | ok dialect =>
      cases opened : read files path with
      | error reason => simp [launch_of_read_error chosen opened]
      | ok data =>
          obtain ⟨machine, _, launched⟩ := exists_launch_of_read chosen opened random trace
          simp [launched]

theorem launch_ne_programTooLarge (error : ProgramTooLarge) :
    (launch files path shift random trace).1 ≠ .error (.load (.programTooLarge error)) :=
  fun refused => read_ne_programTooLarge error (launch_error_iff.mp refused).2

theorem holdsProgram_of_load (short : data.length ≤ 3584)
    (loaded : Machine.load data dialect random trace = .ok machine) :
    HoldsProgram data (Info.ofData path data) machine := by
  have capacity : Memory.capacity = 3584 := rfl
  rw [Machine.load, ofProgram_eq, if_pos short] at loaded
  cases loaded
  refine ⟨Memory.isImage_of_short short, ?_, ?_, ?_⟩
  · exact Memory.readBlock_writeBlock (by omega)
  · simp only [Info.ofData]
    omega
  · rw [Finset.range_eq_Ico, Finset.Ico_filter_le, Nat.card_Ico]
    simp only [Info.ofData]
    omega

theorem loadsWhole (data : List Byte) : LoadsWhole data where
  validated _ := validate_eq_ok_iff
  placed := exists_ofProgram_iff
  refused readable _ := readable.read_error_iff
  inspected _ _ := inspect_error_iff
  launched _ _ _ _ _ := launch_error_iff
  checkedBefore _ _ _ _ _ := launch_ne_programTooLarge
  accepted := by
    intro files path readable short shift dialect chosen random trace
    have opened : read files path = .ok data := readable.read_eq.trans (if_pos short)
    obtain ⟨machine, loaded, launched⟩ := exists_launch_of_read chosen opened random trace
    refine ⟨Info.ofData path data, machine, ?_, launched, holdsProgram_of_load short loaded⟩
    rw [inspect, opened]
    rfl

end Chip8.Rom
