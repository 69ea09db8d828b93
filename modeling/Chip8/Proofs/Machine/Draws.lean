import Chip8.Proofs.Machine.Encounter

/-!
# Random draws

The random source is a list of bytes with a finger on it.  Only one instruction moves the finger,
by one byte each time, so the values that a run puts into registers are fixed by the source and the
masks alone, however the draws are mixed with other requests.
-/

namespace Chip8

namespace RandomSource

theorem skip_tape (byteAt : Nat → Byte) (position count : Nat) :
    (tape byteAt position).skip count = tape byteAt (position + count) := by
  induction count generalizing position with
  | zero => rfl
  | succ count ih =>
      have drawn : (tape byteAt position).draw.2 = tape byteAt (position + 1) := rfl
      rw [skip, drawn, ih, Nat.add_right_comm, Nat.add_assoc]

end RandomSource

theorem Form.random_of_act {form : Form} {word : Nat} {address : Int} {view : View}
    (other : form ≠ .random) : (form.act word address view).2.random = view.random := by
  cases form with
  | random => exact absurd rfl other
  | returnFromCall | call | readDelay =>
      simp only [act]
      split <;> rfl
  | skipIfByte | skipUnlessByte | skipIfEqual | skipUnlessEqual | skipIfKey | skipUnlessKey =>
      simp only [act, View.skipIf]
      split <;> rfl
  | _ => rfl

namespace Machine

variable {machine start : Machine}

def Draws (met : Machine × Request) : Prop := met.2 = .step ∧ met.1.Executes .random

instance : DecidablePred Draws := fun _ => inferInstanceAs (Decidable (_ ∧ _))

/-- The machines of a run that are about to draw a byte, in order. -/
def drawers (machine : Machine) (requests : List Request) : List Machine :=
  ((machine.encounters requests).filter fun met => decide (Draws met)).map Prod.fst

def mask (machine : Machine) : Byte := machine.nextWord.lowByte

/-- What `Vx` holds after the next step, for the word at the program counter. -/
def result (machine : Machine) : Byte := machine.step.2.registers.get machine.nextWord.x

theorem step_of_random (executes : machine.Executes .random) :
    machine.step.2.random = machine.random.draw.2 ∧
      machine.result = machine.random.draw.1 &&& machine.mask := by
  have source : machine.fetch.random = machine.random := by rw [fetch_eq]
  rw [result, step_of_covers executes.running executes.covers, ← source]
  refine ⟨rfl, ?_⟩
  exact (Registers.get_set ..).trans (if_pos rfl)

theorem random_of_step (sound : machine.Sound) (other : ¬ machine.Executes .random) :
    machine.step.2.random = machine.random := by
  have only : OnlyBy View.random .random :=
    { advance := fun _ => rfl
      act := fun _ plain _ _ _ => Form.random_of_act plain }
  exact only.step sound other

theorem random_of_serve (sound : machine.Sound) (request : Request) :
    (machine.serve request).2.random =
      if Draws (machine, request) then machine.random.draw.2 else machine.random := by
  cases request with
  | decrementTimers | setKeypad mask => rfl
  | step =>
      by_cases draws : Draws (machine, .step)
      · rw [if_pos draws]
        exact (step_of_random draws.2).1
      · rw [if_neg draws]
        exact random_of_step sound fun executes => draws ⟨rfl, executes⟩
  | deliverKey value =>
      rw [if_neg (by rintro ⟨⟨⟩, _⟩), serve]
      obtain ⟨error, refused⟩ | ⟨registers, taken⟩ := machine.deliverKey_cases value
      · rw [refused]
      · rw [taken]

theorem drawers_cons (request : Request) (requests : List Request) :
    machine.drawers (request :: requests) = if Draws (machine, request) then
      machine :: (machine.serve request).2.drawers requests
      else (machine.serve request).2.drawers requests := by
  rw [drawers, encounters, List.filter_cons]
  by_cases draws : Draws (machine, request)
  · rw [if_pos (decide_eq_true draws), if_pos draws]
    rfl
  · rw [if_neg (by simpa using draws), if_neg draws]
    rfl

theorem random_of_serveAll (sound : machine.Sound) (requests : List Request) :
    (machine.serveAll requests).random =
      machine.random.skip (machine.drawers requests).length := by
  induction requests generalizing machine with
  | nil => rfl
  | cons request rest ih =>
      have first := random_of_serve sound request
      rw [serveAll_cons, ih (sound.serve request), drawers_cons, first]
      split <;> rfl

theorem results_eq (sound : machine.Sound) (requests : List Request) :
    (machine.drawers requests).map result =
      ((machine.drawers requests).map mask).mapIdx fun place mask =>
        machine.random.nth place &&& mask := by
  induction requests generalizing machine with
  | nil => rfl
  | cons request rest ih =>
      have first := random_of_serve sound request
      have later := ih (sound.serve request)
      rw [drawers_cons]
      split
      · rename_i draws
        rw [if_pos draws] at first
        rw [List.map_cons, List.map_cons, List.mapIdx_cons, later, first,
          (step_of_random draws.2).2]
        rfl
      · rename_i still
        rw [if_neg still] at first
        rw [later, first]

theorem random_of_load {program : List Byte} {shift : ShiftDialect} {random : RandomSource}
    {trace : Trace} (loaded : load program shift random trace = .ok start) :
    start.random = random := by
  obtain ⟨memory, rfl⟩ := load_eq loaded
  rfl

/-- What a run has to do with the random source that its machine was loaded with. -/
structure DrawsInOrder (random : RandomSource) (start : Machine) (requests : List Request) :
    Prop where
  source : (start.serveAll requests).random = random.skip (start.drawers requests).length
  position : ∀ byteAt position, random = .tape byteAt position →
    (start.serveAll requests).random = .tape byteAt (position + (start.drawers requests).length)
  /-- Each request draws one byte or none. -/
  serve : ∀ met ∈ start.encounters requests, (met.1.serve met.2).2.random =
    if Draws met then met.1.random.draw.2 else met.1.random
  results : (start.drawers requests).map result =
    ((start.drawers requests).map mask).mapIdx fun place mask => random.nth place &&& mask
  /-- Another run with this source and these masks repeats the values, whatever else it does. -/
  replay : ∀ program shift trace other others, load program shift random trace = .ok other →
    (start.drawers requests).map mask <+: (other.drawers others).map mask →
      (start.drawers requests).map result <+: (other.drawers others).map result

theorem drawsInOrder_of_load {program : List Byte} {shift : ShiftDialect} {random : RandomSource}
    {trace : Trace} (loaded : load program shift random trace = .ok start)
    (requests : List Request) : DrawsInOrder random start requests := by
  have sound := Sound.load loaded
  have fresh := random_of_load loaded
  have source := random_of_serveAll sound requests
  have results := results_eq sound requests
  rw [fresh] at source results
  refine
    { source
      position := ?_
      serve := fun met member => random_of_serve (sound_of_encounter sound member) met.2
      results
      replay := ?_ }
  · rintro byteAt position rfl
    rw [source, RandomSource.skip_tape]
  · intro program shift trace other others again masks
    have repeated := results_eq (Sound.load again) others
    rw [random_of_load again] at repeated
    rw [results, repeated]
    obtain ⟨rest, same⟩ := masks
    rw [← same, List.mapIdx_append]
    exact List.prefix_append ..

theorem drawsInOrder_of_game :
    let program : List Byte := [0xC1, 0x00, 0xF3, 0x0A, 0xC2, 0x0F]
    let start : Machine :=
      { memory := Memory.withFont.writeBlock Memory.programStart program, programSize := 6
        random := .cycle #[0x12, 0x34] }
    let requests : List Request := [.step, .decrementTimers, .step, .step, .deliverKey 7, .step]
    load program .vx (.cycle #[0x12, 0x34]) .silent = .ok start ∧
      DrawsInOrder (.cycle #[0x12, 0x34]) start requests ∧
      (start.drawers requests).map mask = [0x00, 0x0F] ∧
      (start.drawers requests).map result = [0x00, 0x04] := by
  intro program start requests
  have loaded : load program .vx (.cycle #[0x12, 0x34]) .silent = .ok start := rfl
  have draws : DrawsInOrder (.cycle #[0x12, 0x34]) start requests :=
    drawsInOrder_of_load loaded requests
  have masks : (start.drawers requests).map mask = [0x00, 0x0F] := by decide +kernel
  refine ⟨loaded, draws, masks, ?_⟩
  rw [draws.results, masks]
  rfl

end Machine

end Chip8
