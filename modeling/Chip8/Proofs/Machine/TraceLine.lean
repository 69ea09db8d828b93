import Chip8.Proofs.Machine.Fault

/-!
# Trace lines

A fetch leaves a line with the registers as they are before the instruction acts.  The line writes
the index register in full, so a trace that keeps its lines tells what the index register is.
-/

namespace Chip8

namespace Hex

def value (text : List Char) : Nat :=
  text.foldl (fun number digit => 16 * number + (digitValue? digit).getD 0) 0

theorem value_concat (text : List Char) (digit : Char) :
    value (text ++ [digit]) = 16 * value text + (digitValue? digit).getD 0 := by
  rw [value, List.foldl_append]
  rfl

theorem value_zeroFill (width : Nat) (text : List Char) :
    value (zeroFill width text) = value text := by
  have zeros : ∀ count, value (List.replicate count '0') = 0 := by
    intro count
    induction count with
    | zero => rfl
    | succ count ih =>
        rw [List.replicate_succ', value_concat, ih]
        rfl
  rw [zeroFill, value, List.foldl_append, ← value, zeros]
  rfl

theorem digitValue?_digitChar {digit : Nat} (single : digit < 16) :
    digitValue? (Nat.digitChar digit).toUpper = some digit := by
  revert single digit
  decide

theorem value_digits (number : Nat) : value ((digits number).map Char.toUpper) = number := by
  induction number using Nat.strongRecOn with
  | ind number ih =>
      rw [digits]
      by_cases single : number < 16
      · rw [Nat.toDigits_of_lt_base single]
        simp [value, digitValue?_digitChar single]
      · have shorter : number / 16 < number := by omega
        rw [Nat.toDigits_of_base_le (by decide) (by omega), List.map_append, List.map_singleton,
          value_concat, ← digits, ih _ shorter, digitValue?_digitChar (by omega), Option.getD_some]
        omega

theorem mem_digits {number : Nat} {letter : Char} (member : letter ∈ digits number) :
    ∃ digit < 16, letter = Nat.digitChar digit := by
  induction number using Nat.strongRecOn with
  | ind number ih =>
      rw [digits] at member
      by_cases single : number < 16
      · rw [Nat.toDigits_of_lt_base single] at member
        exact ⟨number, single, List.mem_singleton.mp member⟩
      · rw [Nat.toDigits_of_base_le (by decide) (by omega)] at member
        rcases List.mem_append.mp member with earlier | last
        · exact ih (number / 16) (by omega) earlier
        · exact ⟨number % 16, by omega, List.mem_singleton.mp last⟩

theorem toList_padded (width number : Nat) :
    (padded width number).toList = zeroFill width ((digits number).map Char.toUpper) := by
  have positive : ¬ (number : Int) < 0 := by omega
  rw [padded, if_neg positive, String.toList_ofList, Int.natAbs_natCast]

theorem padded_injective {width first second : Nat}
    (same : padded width first = padded width second) : first = second := by
  have values := congrArg (fun text : String => value text.toList) same
  simpa only [toList_padded, value_zeroFill, value_digits] using values

theorem mem_padded {width number : Nat} {letter : Char}
    (member : letter ∈ (padded width number).toList) :
    ∃ digit < 16, letter = (Nat.digitChar digit).toUpper := by
  rw [toList_padded] at member
  rcases List.mem_append.mp member with zero | letter
  · exact ⟨0, by decide, List.eq_of_mem_replicate zero⟩
  · obtain ⟨lower, spelled, rfl⟩ := List.mem_map.mp letter
    obtain ⟨digit, single, rfl⟩ := mem_digits spelled
    exact ⟨digit, single, rfl⟩

theorem space_notMem_padded {width number : Nat} : ' ' ∉ (padded width number).toList := by
  intro member
  obtain ⟨digit, single, same⟩ := mem_padded member
  have read := digitValue?_digitChar single
  rw [← same] at read
  cases read

end Hex

theorem takeWhile_word {word rest : List Char} (solid : ' ' ∉ word) :
    (word ++ ' ' :: rest).takeWhile (· ≠ ' ') = word := by
  rw [List.takeWhile_append_of_pos, List.takeWhile_cons_of_neg, List.append_nil]
  · decide
  · intro letter member
    have other : letter ≠ ' ' := fun space => solid (space ▸ member)
    exact decide_eq_true other

theorem Registers.toList_description (registers : Registers) : ∃ rest,
    registers.description.toList =
      ("RegisterFile(PC=".toList ++ ((Hex.padded 3 registers.pc).toList ++ " I=".toList)) ++
        ((Hex.padded 3 registers.index).toList ++ ' ' :: rest) := by
  refine ⟨"SP=".toList ++ ((toString registers.sp).toList ++ (" ".toList ++
    (registers.valuesText.toList ++ ")".toList))), ?_⟩
  have gap : " SP=".toList = ' ' :: "SP=".toList := by decide
  unfold description
  simp only [toString, String.toList_append, List.append_assoc, gap, List.cons_append]

namespace Machine

theorem toList_traceLine (address : Int) (word : Word) (registers : Registers) :
    (traceLine address word registers).toList =
      s!"{Hex.padded 3 address}: {Hex.padded 4 word.toNat}  ".toList ++
        registers.description.toList := by
  unfold traceLine
  simp only [toString, String.toList_append]

theorem index_of_traceLine {address : Int} {word : Word} {first second : Registers}
    (counter : first.pc = second.pc) (left : 0 ≤ first.index) (right : 0 ≤ second.index)
    (same : traceLine address word first = traceLine address word second) :
    first.index = second.index := by
  obtain ⟨low, named⟩ := Int.eq_ofNat_of_zero_le left
  obtain ⟨high, named'⟩ := Int.eq_ofNat_of_zero_le right
  have lines := congrArg String.toList same
  rw [toList_traceLine, toList_traceLine] at lines
  have descriptions := List.append_cancel_left lines
  obtain ⟨rest, spelled⟩ := first.toList_description
  obtain ⟨rest', spelled'⟩ := second.toList_description
  rw [spelled, spelled', counter, named, named'] at descriptions
  have words := congrArg (List.takeWhile (· ≠ ' ')) (List.append_cancel_left descriptions)
  rw [takeWhile_word Hex.space_notMem_padded, takeWhile_word Hex.space_notMem_padded] at words
  rw [named, named', Hex.padded_injective (String.toList_inj.mp words)]

end Machine

namespace Trace

/-- The trace drops every line of an instruction. -/
def Blind (trace : Trace) : Prop := ∀ line, trace.log instructionLevel line = trace

/-- The latest line of the trace is this one, as the sink writes it. -/
def EndsWith (trace : Trace) (line : String) : Prop :=
  match trace.sink with
  | .discard => False
  | .console printed => printed.back? = some s!"[CHIP8:{instructionLevel}] {line}"
  | .buffer _ lines => lines.back? = some line

theorem EndsWith.unique {trace : Trace} {line other : String} (ends : trace.EndsWith line)
    (also : trace.EndsWith other) : line = other := by
  obtain ⟨level, sink⟩ := trace
  cases sink with
  | discard => exact ends.elim
  | console printed =>
      have letters := congrArg String.toList (Option.some.inj (ends.symm.trans also))
      simp only [toString, String.toList_append] at letters
      exact String.toList_inj.mp (List.append_cancel_left letters)
  | buffer limit lines => exact Option.some.inj (ends.symm.trans also)

theorem back?_keep {limit : Int} {lines : Array String} (room : 0 < limit ∨ lines ≠ #[])
    (line : String) : (keep limit lines line).back? = some line := by
  simp only [keep]
  split
  · rename_i full
    obtain ⟨kept⟩ := lines
    cases kept with
    | nil =>
        have some : 0 < limit := room.resolve_right fun present => present rfl
        have single : limit < 1 := full
        omega
    | cons oldest rest =>
        rw [← Array.getLast?_toList, Array.toList_extract]
        simp [List.take_of_length_le]
  · exact Array.back?_push

theorem keep_of_none {limit : Int} (none : ¬ 0 < limit) (line : String) :
    keep limit #[] line = #[] := by
  simp only [keep]
  split
  · rfl
  · rename_i room
    have single : 1 ≤ limit := Int.not_lt.mp room
    omega

theorem blind_or_endsWith (trace : Trace) :
    trace.Blind ∨ ∀ line, (trace.log instructionLevel line).EndsWith line := by
  obtain ⟨level, sink⟩ := trace
  by_cases accepted : (⟨level, sink⟩ : Trace).enabled instructionLevel = true
  · cases sink with
    | discard =>
        refine Or.inl fun line => ?_
        simp only [log, accepted, if_true]
    | console printed =>
        refine Or.inr fun line => ?_
        simp only [log, accepted, if_true, EndsWith]
        exact Array.back?_push
    | buffer limit lines =>
        by_cases room : 0 < limit ∨ lines ≠ #[]
        · refine Or.inr fun line => ?_
          simp only [log, accepted, if_true, EndsWith]
          exact back?_keep room line
        · obtain ⟨narrow, empty⟩ := not_or.mp room
          refine Or.inl fun line => ?_
          cases not_not.mp empty
          simp only [log, accepted, if_true, keep_of_none narrow]
  · refine Or.inl fun line => ?_
    simp only [log, accepted]
    rfl

end Trace

/-- The index register that the instruction of a word leaves behind, from the registers afterwards
and the index register before.  No instruction sets both the index register and what it sets it
from. -/
def Word.indexFrom (word : Word) (v : Fin 16 → Nat) (index : Int) : Int :=
  match (Instruction.decode word).map Form.ofInstruction with
  | some .loadIndex => (word.toNat % 4096 : Nat)
  | some .addIndex => (index + v (slotAt (word.toNat / 256 : Nat))) % 65536
  | some .loadGlyph => (v (slotAt (word.toNat / 256 : Nat)) % 16 * 5 : Nat)
  | _ => index

theorem Form.index_of_act {form : Form} {word : Word} (covers : form.Covers word.toNat)
    (address : Int) (view : View) : (form.act word.toNat address view).2.index =
      word.indexFrom (form.act word.toNat address view).2.v view.index := by
  rw [Word.indexFrom, covers_iff.mp covers]
  cases form with
  | returnFromCall | call | readDelay =>
      simp only [act]
      split <;> rfl
  | skipIfByte | skipUnlessByte | skipIfEqual | skipUnlessEqual | skipIfKey | skipUnlessKey =>
      simp only [act, View.skipIf]
      split <;> rfl
  | _ => rfl

theorem Word.indexFrom_of_uncovered {word : Word} (uncovered : ∀ form : Form, ¬ form.Covers word.toNat)
    (v : Fin 16 → Nat) (index : Int) : word.indexFrom v index = index := by
  rw [indexFrom, Form.decode_eq_none_iff.mpr uncovered]
  rfl

namespace Machine

variable {machine first second : Machine}

theorem index_of_step (sound : machine.Sound) (running : machine.runState = .running) :
    machine.step.2.view.index =
      machine.nextWord.indexFrom machine.step.2.view.v machine.view.index := by
  by_cases covered : ∃ form : Form, form.Covers machine.view.word
  · obtain ⟨form, covers⟩ := covered
    have after : machine.step.2.view = _ := congrArg Prod.snd (sound.step_follows running covers)
    rw [after, ← toNat_readWord]
    exact Form.index_of_act (covers_nextWord.mpr covers) ..
  · have uncovered := not_exists.mp covered
    rw [step_of_uncovered running uncovered, view_fetch, Word.indexFrom_of_uncovered
      fun form covers => uncovered form (covers_nextWord.mp covers)]
    rfl

/-- The trace of a machine tells what its index register is, once an instruction was carried out
and unless the trace drops the lines. -/
structure Traced (machine : Machine) : Prop where
  fresh : machine.instructionCount = 0 → machine.registers.index = 0
  latest : machine.trace.Blind ∨ machine.instructionCount = 0 ∨ ∃ registers : Registers,
    machine.trace.EndsWith (traceLine machine.lastAddress machine.lastOpcode registers) ∧
      registers.pc = (machine.lastAddress + 2) % 4096 ∧ 0 ≤ registers.index ∧
      machine.view.index = machine.lastOpcode.indexFrom machine.view.v registers.index

theorem Sound.taken {value : Int} {after : Machine} (sound : machine.Sound)
    (delivered : machine.deliverKey value = (.ok (), after)) :
    Form.awaitKey.Covers machine.lastOpcode.toNat ∧ ∃ x byte, after =
      { machine with registers := machine.registers.set x byte, runState := .running } := by
  cases state : machine.runState with
  | running =>
      rw [deliverKey_of_running state] at delivered
      cases delivered
  | awaitingKey register =>
      have waiting := sound.waiting register state
      rw [waiting.register] at state
      by_cases key : 0 ≤ value ∧ value < 16
      · rw [deliverKey_of_key state key] at delivered
        cases delivered
        exact ⟨waiting.fetched, _, _, rfl⟩
      · rw [deliverKey_of_outside state key] at delivered
        cases delivered

namespace Traced

theorem load {program : List Byte} {shift : ShiftDialect} {random : RandomSource} {trace : Trace}
    {start : Machine} (loaded : Machine.load program shift random trace = .ok start) :
    start.Traced := by
  obtain ⟨memory, rfl⟩ := load_eq loaded
  exact ⟨fun _ => rfl, Or.inr (Or.inl rfl)⟩

theorem step_running (sound : machine.Sound) (running : machine.runState = .running)
    (traced : machine.Traced) : machine.step.2.Traced := by
  obtain ⟨record, count⟩ := step_recorded running
  constructor
  · intro none
    cases answer : machine.step.1 with
    | ok result =>
        rw [answer] at count
        exact absurd (count.symm.trans none) (Nat.succ_ne_zero _)
    | error error =>
        obtain ⟨_, cause, stuck, _⟩ := stuck_of_step sound answer
        rw [answer] at count
        rw [step_of_stuck sound running stuck, fetch_eq]
        exact traced.fresh (count.symm.trans none)
  · rcases machine.trace.blind_or_endsWith with blind | ends
    · refine Or.inl ?_
      rw [record.trace, blind]
      exact blind
    · refine Or.inr (Or.inr ⟨{ machine.registers with pc := (machine.registers.pc + 2) % 4096 },
        ?_, ?_, sound.inRange.index.1, ?_⟩)
      · rw [record.trace, record.lastAddress, record.lastOpcode]
        exact ends _
      · rw [record.lastAddress]
      · rw [record.lastOpcode]
        exact index_of_step sound running

theorem serve (sound : machine.Sound) (traced : machine.Traced) (request : Request) :
    (machine.serve request).2.Traced := by
  cases request with
  | decrementTimers | setKeypad mask => exact { traced with }
  | step =>
      cases state : machine.runState with
      | running => exact traced.step_running sound state
      | awaitingKey register =>
          rw [Machine.serve, step_of_awaiting state]
          exact traced
  | deliverKey value =>
      rw [Machine.serve]
      obtain ⟨error, refused⟩ | ⟨registers, taken⟩ := machine.deliverKey_cases value
      · rw [refused]
        exact traced
      · obtain ⟨waited, x, byte, same⟩ := sound.taken taken
        rw [taken, same]
        refine ⟨traced.fresh, traced.latest.imp_right (Or.imp_right ?_)⟩
        rintro ⟨registers, ends, counter, started, index⟩
        refine ⟨registers, ends, counter, started, ?_⟩
        rw [Word.indexFrom, Form.covers_iff.mp waited] at index ⊢
        exact index

theorem serveAll (sound : machine.Sound) (traced : machine.Traced) (requests : List Request) :
    (machine.serveAll requests).Traced :=
  (@serveAll_preserves machine (fun after => after.Sound ∧ after.Traced)
    (fun _ request holds => ⟨holds.1.serve request, holds.2.serve holds.1 request⟩)
    ⟨sound, traced⟩ requests).2

theorem reachable (reachable : machine.Reachable) : machine.Traced := by
  obtain ⟨program, shift, random, trace, start, requests, loaded, rfl⟩ := reachable
  exact (load loaded).serveAll (Sound.load loaded) requests

/-- Machines that fetched the same and have one trace, which keeps its lines, have one index. -/
theorem index_eq (left : first.Traced) (right : second.Traced)
    (count : second.instructionCount = first.instructionCount)
    (opcode : second.lastOpcode = first.lastOpcode) (address : second.lastAddress = first.lastAddress)
    (v : second.view.v = first.view.v) (trace : second.trace = first.trace) :
    first.trace.Blind ∨ second.registers.index = first.registers.index := by
  by_cases fresh : first.instructionCount = 0
  · exact Or.inr ((right.fresh (count.trans fresh)).trans (left.fresh fresh).symm)
  rcases left.latest with blind | none | ⟨registers, ends, counter, started, index⟩
  · exact Or.inl blind
  · exact absurd none fresh
  rcases right.latest with blind | none | ⟨registers', ends', counter', started', index'⟩
  · exact Or.inl (trace ▸ blind)
  · exact absurd (count.symm.trans none) fresh
  refine Or.inr ?_
  rw [trace, opcode, address] at ends'
  rw [address] at counter'
  have same := index_of_traceLine (counter'.trans counter.symm) started' started
    (ends'.unique ends)
  rw [opcode, v, same, ← index] at index'
  exact index'

end Traced

end Machine

end Chip8
