import Chip8.Proofs.Machine.Fault
import Chip8.Proofs.Opcode.Stack
import Mathlib.Tactic.ByContra

/-!
# The call stack

Calls and returns are bookkept on a list beside the machine: a call that succeeds appends the
address behind it, a return that succeeds takes the last address off.  The slots below the depth
hold this list after any run of requests, so a return resumes behind the call that it belongs to.
-/

namespace Chip8.Machine

variable {machine : Machine}

/-- The return addresses after one more request. -/
def track (machine : Machine) (returns : List Int) : Request → List Int
  | .step =>
    match machine.runState, machine.step.1 with
    | .running, .ok _ =>
      if machine.view.word / 4096 = 2 then returns ++ [(machine.registers.pc + 2) % 4096]
      else if machine.view.word = 0x00EE then returns.dropLast
      else returns
    | _, _ => returns
  | _ => returns

def trackAll (machine : Machine) (returns : List Int) : List Request → List Int
  | [] => returns
  | request :: rest => trackAll (machine.serve request).2 (machine.track returns request) rest

theorem liveStack_eq_live (sound : machine.Sound) :
    machine.registers.liveStack = machine.view.live := by
  rw [Registers.liveStack_eq sound.inRange.sp.1, ← ofFn_get]
  rfl

theorem step_call (sound : machine.Sound) (running : machine.runState = .running)
    (call : machine.view.word / 4096 = 2) (room : machine.registers.sp < 16) :
    ∃ result, machine.step.1 = .ok result ∧
      machine.step.2.view.live = machine.view.live ++ [(machine.registers.pc + 2) % 4096] := by
  obtain ⟨after, performed, live⟩ :=
    @Form.live_of_call machine.view.advance machine.view.word machine.view.pc
      sound.inRange.sp.1 room
  have follows := sound.step_follows running (Form.covers_call_iff.mpr call)
  obtain ⟨result, stepped, same⟩ := ok_of_outcome (follows.trans performed)
  refine ⟨result, stepped, ?_⟩
  rw [same, live]
  rfl

theorem step_return (sound : machine.Sound) (running : machine.runState = .running)
    (back : machine.view.word = 0x00EE) (used : 0 < machine.registers.sp) :
    ∃ result, machine.step.1 = .ok result ∧
      machine.view.live = machine.step.2.view.live ++ [machine.step.2.registers.pc] := by
  obtain ⟨after, performed, live⟩ :=
    @Form.live_of_return machine.view.advance machine.view.word machine.view.pc
      used sound.inRange.sp.2
  have follows := sound.step_follows running (Form.covers_returnFromCall_iff.mpr back)
  obtain ⟨result, stepped, same⟩ := ok_of_outcome (follows.trans performed)
  refine ⟨result, stepped, ?_⟩
  have counter : machine.step.2.registers.pc = after.pc := congrArg View.pc same
  rw [same, counter]
  exact live

theorem step_other (sound : machine.Sound) (running : machine.runState = .running)
    (call : machine.view.word / 4096 ≠ 2) (back : machine.view.word ≠ 0x00EE) :
    machine.step.2.view.live = machine.view.live := by
  by_cases covered : ∃ form : Form, form.Covers machine.view.word
  · obtain ⟨form, covers⟩ := covered
    have after : machine.step.2.view = _ :=
      congrArg Prod.snd (sound.step_follows running covers)
    rw [after]
    refine Form.live_of_other ?_ ?_
    · rintro rfl
      exact call (Form.covers_call_iff.mp covers)
    · rintro rfl
      exact back (Form.covers_returnFromCall_iff.mp covers)
  · rw [step_of_uncovered running (not_exists.mp covered), view_fetch]
    rfl

theorem live_of_error {error : MachineError} (sound : machine.Sound)
    (raised : machine.step.1 = .error error) : machine.step.2.view.live = machine.view.live := by
  obtain ⟨running, cause, stuck, _⟩ := stuck_of_step sound raised
  rw [step_of_stuck sound running stuck, view_fetch]
  rfl

theorem room_of_ok {result : StepResult} (sound : machine.Sound)
    (running : machine.runState = .running) (call : machine.view.word / 4096 = 2)
    (stepped : machine.step.1 = .ok result) : machine.registers.sp < 16 := by
  have depth := sound.inRange.sp
  by_contra full
  have stuck : machine.Stuck .stackOverflow :=
    .overflow (Form.covers_call_iff.mpr call) (Int.le_antisymm depth.2 (Int.not_lt.mp full))
  rw [step_of_stuck sound running stuck] at stepped
  cases stepped

theorem used_of_ok {result : StepResult} (sound : machine.Sound)
    (running : machine.runState = .running) (back : machine.view.word = 0x00EE)
    (stepped : machine.step.1 = .ok result) : 0 < machine.registers.sp := by
  have depth := sound.inRange.sp
  by_contra empty
  have stuck : machine.Stuck .stackUnderflow :=
    .underflow (Form.covers_returnFromCall_iff.mpr back)
      (Int.le_antisymm (Int.not_lt.mp empty) depth.1)
  rw [step_of_stuck sound running stuck] at stepped
  cases stepped

/-- The live slots change as the list does. -/
theorem live_serve (sound : machine.Sound) (request : Request) :
    (machine.serve request).2.view.live = machine.track machine.view.live request := by
  cases request with
  | decrementTimers => rfl
  | setKeypad mask => rfl
  | deliverKey value =>
      cases state : machine.runState with
      | running =>
          rw [serve, deliverKey_of_running state]
          rfl
      | awaitingKey register =>
          by_cases key : 0 ≤ value ∧ value < 16
          · have named := (sound.waiting register state).register
            subst named
            rw [serve, deliverKey_of_key state key]
            rfl
          · rw [serve, deliverKey_of_outside state key]
            rfl
  | step =>
      rw [serve]
      cases state : machine.runState with
      | awaitingKey register =>
          simp only [track, state]
          rw [step_of_awaiting state]
      | running =>
          cases stepped : machine.step.1 with
          | error error =>
              simp only [track, state, stepped]
              exact live_of_error sound stepped
          | ok result =>
              simp only [track, state, stepped]
              by_cases call : machine.view.word / 4096 = 2
              · obtain ⟨_, _, live⟩ :=
                  step_call sound state call (room_of_ok sound state call stepped)
                rw [if_pos call]
                exact live
              · by_cases back : machine.view.word = 0x00EE
                · obtain ⟨_, _, live⟩ :=
                    step_return sound state back (used_of_ok sound state back stepped)
                  rw [if_neg call, if_pos back, live, List.dropLast_concat]
                · rw [if_neg call, if_neg back]
                  exact step_other sound state call back

theorem live_serveAll (sound : machine.Sound) (requests : List Request) :
    (machine.serveAll requests).view.live = machine.trackAll machine.view.live requests := by
  induction requests generalizing machine with
  | nil => rfl
  | cons request rest ih =>
      rw [serveAll_cons, ih (sound.serve request), live_serve sound request]
      rfl

theorem track_cases (returns : List Int) (request : Request) :
    machine.track returns request = returns ∨
      (∃ address, machine.track returns request = returns ++ [address]) ∨
      machine.track returns request = returns.dropLast := by
  cases request with
  | step =>
      simp only [track]
      split
      · split
        · exact Or.inr (Or.inl ⟨_, rfl⟩)
        · split
          · exact Or.inr (Or.inr rfl)
          · exact Or.inl rfl
      · exact Or.inl rfl
  | decrementTimers | setKeypad mask | deliverKey value => exact Or.inl rfl

/-- Return addresses stay where they are as long as the stack does not get shorter than they are. -/
theorem prefix_live_serve {base : List Int} (sound : machine.Sound) (request : Request)
    (kept : base <+: machine.view.live)
    (above : base.length ≤ (machine.serve request).2.view.live.length) :
    base <+: (machine.serve request).2.view.live := by
  rw [live_serve sound request] at above ⊢
  rcases track_cases machine.view.live request with same | ⟨address, longer⟩ | shorter
  · rw [same]
    exact kept
  · rw [longer]
    exact kept.trans (List.prefix_append ..)
  · -- What is taken off lies above the base, for the rest is at least as long.
    rw [shorter] at above ⊢
    exact List.prefix_of_prefix_length_le kept (List.dropLast_prefix _) above

theorem prefix_live_serveAll {base : List Int} (sound : machine.Sound) (requests : List Request)
    (kept : base <+: machine.view.live)
    (above : ∀ part, part <+: requests → base.length ≤ (machine.serveAll part).view.live.length) :
    base <+: (machine.serveAll requests).view.live := by
  induction requests generalizing machine with
  | nil => exact kept
  | cons request rest ih =>
      have first := prefix_live_serve sound request kept (above [request] ⟨rest, rfl⟩)
      refine ih (sound.serve request) first ?_
      rintro part ⟨tail, rfl⟩
      exact above (request :: part) ⟨tail, rfl⟩

/-- A call, and the requests from there to the return that belongs to it: in between the stack is
never as short as it was before the call. -/
structure Matches (caller : Machine) (between : List Request) : Prop where
  calls : caller.runState = .running ∧ caller.view.word / 4096 = 2
  called : ∃ result, caller.step.1 = .ok result
  inside : ∀ part, part <+: between →
    caller.registers.sp < (caller.step.2.serveAll part).registers.sp
  level : (caller.step.2.serveAll between).registers.sp = caller.registers.sp + 1
  returns : (caller.step.2.serveAll between).runState = .running ∧
    (caller.step.2.serveAll between).view.word = 0x00EE

theorem length_live (sound : machine.Sound) :
    (machine.view.live.length : Int) = machine.registers.sp :=
  View.length_live sound.inRange.sp.1 sound.inRange.sp.2

theorem return_of_matches {between : List Request} (sound : machine.Sound)
    (paired : machine.Matches between) :
    ∃ result, (machine.step.2.serveAll between).step.1 = .ok result ∧
      (machine.step.2.serveAll between).step.2.registers.pc = (machine.registers.pc + 2) % 4096 ∧
      (machine.step.2.serveAll between).step.2.view.live = machine.view.live := by
  obtain ⟨running, call⟩ := paired.calls
  obtain ⟨_, stepped⟩ := paired.called
  obtain ⟨_, _, called⟩ := step_call sound running call (room_of_ok sound running call stepped)
  have entered := sound.step_running running
  have callee := entered.serveAll between
  have depth := length_live sound
  -- The base is the stack just after the call.  At the return it is the whole stack.
  have kept : machine.step.2.view.live <+: (machine.step.2.serveAll between).view.live := by
    refine prefix_live_serveAll entered between (List.prefix_refl _) ?_
    intro part here
    have deeper := paired.inside part here
    have height := length_live (entered.serveAll part)
    rw [called, List.length_append, List.length_singleton]
    omega
  have whole : machine.step.2.view.live = (machine.step.2.serveAll between).view.live := by
    refine kept.eq_of_length ?_
    have height := length_live callee
    have level := paired.level
    rw [called, List.length_append, List.length_singleton]
    omega
  have used : 0 < (machine.step.2.serveAll between).registers.sp := by
    have started := sound.inRange.sp.1
    have level := paired.level
    simp only [view] at started
    omega
  obtain ⟨result, returned, taken⟩ := step_return callee paired.returns.1 paired.returns.2 used
  rw [← whole, called] at taken
  obtain ⟨below, address⟩ := List.append_inj' taken rfl
  exact ⟨result, returned, (List.singleton_inj.mp address).symm, below.symm⟩

structure StackIs (machine : Machine) (returns : List Int) : Prop where
  live : machine.registers.liveStack = returns
  depth : machine.registers.sp = returns.length
  overflow : machine.runState = .running → machine.view.word / 4096 = 2 →
    ((∃ error, machine.step.1 = .error error) ↔ returns.length = 16)
  underflow : machine.runState = .running → machine.view.word = 0x00EE →
    ((∃ error, machine.step.1 = .error error) ↔ returns = [])
  resumes : machine.runState = .running → machine.view.word = 0x00EE →
    ∀ result, machine.step.1 = .ok result → returns.getLast? = some machine.step.2.registers.pc

theorem stackIs_live (sound : machine.Sound) : machine.StackIs machine.view.live := by
  have depth := length_live sound
  have bounds := sound.inRange.sp
  simp only [view] at bounds
  refine ⟨liveStack_eq_live sound, depth.symm, ?_, ?_, ?_⟩
  · intro running call
    constructor
    · rintro ⟨error, raised⟩
      by_contra short
      obtain ⟨_, stepped, _⟩ := step_call sound running call (by omega)
      rw [stepped] at raised
      cases raised
    · intro full
      have stuck : machine.Stuck .stackOverflow :=
        .overflow (Form.covers_call_iff.mpr call) (by omega)
      exact ⟨_, (stuck_iff sound running).mpr stuck⟩
  · intro running back
    constructor
    · rintro ⟨error, raised⟩
      by_contra taken
      have filled : machine.view.live.length ≠ 0 :=
        fun none => taken (List.eq_nil_of_length_eq_zero none)
      obtain ⟨_, stepped, _⟩ := step_return sound running back (by omega)
      rw [stepped] at raised
      cases raised
    · intro empty
      rw [empty] at depth
      have stuck : machine.Stuck .stackUnderflow :=
        .underflow (Form.covers_returnFromCall_iff.mpr back) depth.symm
      exact ⟨_, (stuck_iff sound running).mpr stuck⟩
  · intro running back result stepped
    obtain ⟨_, _, live⟩ := step_return sound running back (used_of_ok sound running back stepped)
    rw [live, List.getLast?_concat]

/-- From a loaded program on, the call stack is the list of the calls that have not returned; so
each return resumes behind the call that it belongs to, whatever happened in between. -/
theorem stackIs_of_load {program : List Byte} {shift : ShiftDialect} {random : RandomSource}
    {trace : Trace} {start : Machine} (loaded : load program shift random trace = .ok start) :
    (∀ requests, (start.serveAll requests).StackIs (start.trackAll [] requests)) ∧
      ∀ before between, (start.serveAll before).Matches between →
        let caller := start.serveAll before
        let callee := caller.step.2.serveAll between
        (∃ result, callee.step.1 = .ok result) ∧
          callee.step.2.registers.pc = (caller.registers.pc + 2) % 4096 ∧
          callee.step.2.registers.liveStack = caller.registers.liveStack := by
  have fresh : start.view.live = [] := by
    obtain ⟨memory, rfl⟩ := load_eq loaded
    rfl
  have sound := Sound.load loaded
  constructor
  · intro requests
    have tracked := live_serveAll sound requests
    rw [fresh] at tracked
    rw [← tracked]
    exact stackIs_live (sound.serveAll requests)
  · intro before between paired caller callee
    have inCaller : caller.Sound := sound.serveAll before
    have inCallee : callee.Sound := (inCaller.step_running paired.calls.1).serveAll between
    obtain ⟨result, returned, resumed, same⟩ := return_of_matches inCaller paired
    refine ⟨⟨result, returned⟩, resumed, ?_⟩
    rw [liveStack_eq_live (inCallee.step_running paired.returns.1), liveStack_eq_live inCaller]
    exact same

theorem stackIs_of_subroutine :
    let program : List Byte := [0x22, 0x04, 0x12, 0x02, 0x00, 0xEE]
    let start : Machine :=
      { memory := Memory.withFont.writeBlock Memory.programStart program, programSize := 6 }
    load program .vx .zeros .silent = .ok start ∧
      (start.serveAll [.step]).StackIs (start.trackAll [] [.step]) ∧
      start.Matches [] ∧ start.step.2.step.2.registers.pc = 0x202 := by
  intro program start
  have loaded : load program .vx .zeros .silent = .ok start := rfl
  obtain ⟨stack, resumes⟩ := stackIs_of_load loaded
  have sound := Sound.load loaded
  have byte (place : Nat) (inside : place < 6) :
      start.memory.read (0x200 + place) = program[place] := read_program (by decide) inside
  have first : start.view.word = 0x2204 :=
    start.word_of_reads (byte 0 (by decide)) (byte 1 (by decide))
  have call : start.view.word / 4096 = 2 := by rw [first]
  have follows := sound.step_follows rfl (Form.covers_call_iff.mpr call)
  obtain ⟨result, stepped, after⟩ := ok_of_outcome (follows.trans (by rw [first]; rfl))
  have counter : start.step.2.view.pc = 0x204 := by rw [after]; rfl
  have cells : start.step.2.view.cell = start.view.cell := by rw [after]; rfl
  have second : start.step.2.view.word = 0x00EE := by
    rw [View.word, counter, cells, view_cellAt, view_cellAt]
    exact congrArg₂ (fun high low : Byte => 256 * high.toNat + low.toNat) (byte 4 (by decide))
      (byte 5 (by decide))
  have depth : start.step.2.view.sp = 1 := by rw [after]; rfl
  have state : start.step.2.view.runState = .running := by rw [after]; rfl
  have paired : start.Matches [] :=
    { calls := ⟨rfl, call⟩
      called := ⟨result, stepped⟩
      inside := by
        intro part here
        rw [List.prefix_nil.mp here]
        exact lt_of_lt_of_eq (by decide : (0 : Int) < 1) depth.symm
      level := depth
      returns := ⟨state, second⟩ }
  exact ⟨loaded, stack [.step], paired, (resumes [] [] paired).2.1⟩

end Chip8.Machine
