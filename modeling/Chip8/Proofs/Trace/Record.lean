import Chip8.Proofs.Machine.Encounter
import Chip8.Proofs.Trace.Line
import Mathlib.Data.List.Induction

namespace Chip8

namespace Trace

variable {level : Int} {limit : Nat}

def logAll (trace : Trace) (lines : List String) : Trace := lines.foldl (·.log instructionLevel) trace

theorem logAll_concat (trace : Trace) (lines : List String) (line : String) :
    trace.logAll (lines ++ [line]) = (trace.logAll lines).log instructionLevel line :=
  List.foldl_append ..

theorem logAll_of_disabled {trace : Trace} (low : trace.level < instructionLevel)
    (lines : List String) : trace.logAll lines = trace := by
  have refused : ¬ trace.enabled instructionLevel = true := by simp [enabled, low]
  induction lines with
  | nil => rfl
  | cons line rest ih =>
      rw [logAll, List.foldl_cons, log, if_neg refused]
      exact ih

/-- One more line: the buffer that held the last lines of some holds the last lines of all. -/
theorem keep_last {lines : Array String} {logged : List String} (line : String)
    (last : lines.toList = logged.drop (logged.length - limit)) :
    (keep limit lines line).toList =
      (logged ++ [line]).drop ((logged ++ [line]).length - limit) := by
  have size : lines.size = logged.length - (logged.length - limit) := by
    rw [← Array.length_toList, last, List.length_drop]
  have start : logged.length - limit ≤ logged.length := Nat.sub_le ..
  have total : logged.length - limit + (lines.size + 1 - limit) =
      (logged ++ [line]).length - limit := by
    rw [List.length_append, List.length_singleton]
    omega
  rw [toList_keep limit lines line (by omega), last, ← List.drop_append_of_le_length start,
    List.drop_drop, total]

theorem logAll_buffer (accepts : instructionLevel ≤ level) (limit : Nat) (logged : List String) :
    ∃ lines : Array String, (buffer level limit).logAll logged = ⟨level, .buffer limit lines⟩ ∧
      lines.toList = logged.drop (logged.length - limit) := by
  induction logged using List.reverseRecOn with
  | nil => exact ⟨#[], rfl, List.drop_nil.symm⟩
  | append_singleton logged line ih =>
      obtain ⟨lines, same, last⟩ := ih
      refine ⟨keep limit lines line, ?_, keep_last line last⟩
      have enabled : (⟨level, .buffer limit lines⟩ : Trace).enabled instructionLevel = true :=
        decide_eq_true accepts
      rw [logAll_concat, same, log, if_pos enabled]

end Trace

namespace Machine

variable {machine start : Machine}

/-- The request makes the machine fetch: it is a step, and no key is awaited. -/
def Fetches (met : Machine × Request) : Prop := met.2 = .step ∧ met.1.runState = .running

instance : DecidablePred Fetches := fun _ => inferInstanceAs (Decidable (_ ∧ _))

/-- The machines of a run that are about to fetch, in order. -/
def fetchers (machine : Machine) (requests : List Request) : List Machine :=
  ((machine.encounters requests).filter fun met => decide (Fetches met)).map Prod.fst

/-- The fetch that the next step makes: its word, where it stands, and the registers as the
instruction will find them. -/
def nextFetch (machine : Machine) : Fetch where
  address := machine.registers.pc
  word := machine.nextWord
  pc := (machine.registers.pc + 2) % 4096
  index := machine.registers.index
  sp := machine.registers.sp
  values := machine.registers.values

def nextLine (machine : Machine) : String :=
  traceLine machine.registers.pc machine.nextWord
    { machine.registers with pc := (machine.registers.pc + 2) % 4096 }

theorem Sound.ofLine?_nextLine (sound : machine.Sound) :
    Fetch.ofLine? machine.nextLine = some machine.nextFetch :=
  Fetch.ofLine?_traceLine sound.inRange.pc.1 (Int.emod_nonneg _ (by decide)) sound.inRange.index.1
    sound.inRange.sp.1

theorem trace_of_serve (request : Request) : (machine.serve request).2.trace =
    if Fetches (machine, request) then machine.trace.log Trace.instructionLevel machine.nextLine
    else machine.trace := by
  cases request with
  | decrementTimers | setKeypad mask => rfl
  | step =>
      rw [serve]
      cases state : machine.runState with
      | running =>
          rw [if_pos ⟨rfl, state⟩]
          exact (step_recorded state).1.trace
      | awaitingKey register =>
          rw [step_of_awaiting state, if_neg]
          rintro ⟨_, running⟩
          cases state.symm.trans running
  | deliverKey value =>
      rw [if_neg (by rintro ⟨⟨⟩, _⟩)]
      exact (deliverKey_undisturbed value).trace

theorem fetchers_concat (requests : List Request) (request : Request) :
    machine.fetchers (requests ++ [request]) = machine.fetchers requests ++
      if Fetches (machine.serveAll requests, request) then [machine.serveAll requests] else [] := by
  rw [fetchers, encounters_append, List.filter_append, List.map_append]
  refine congrArg (machine.fetchers requests ++ ·) ?_
  by_cases fetches : Fetches (machine.serveAll requests, request)
  · simp [encounters, fetches]
  · simp [encounters, fetches]

theorem trace_of_serveAll (requests : List Request) : (machine.serveAll requests).trace =
    machine.trace.logAll ((machine.fetchers requests).map nextLine) := by
  induction requests using List.reverseRecOn with
  | nil => rfl
  | append_singleton requests request ih =>
      rw [serveAll_concat, trace_of_serve, fetchers_concat, List.map_append, ih]
      by_cases fetches : Fetches (machine.serveAll requests, request)
      · rw [if_pos fetches, if_pos fetches, List.map_singleton, Trace.logAll_concat]
      · rw [if_neg fetches, if_neg fetches, List.map_nil, List.append_nil]

theorem sound_of_fetcher (sound : start.Sound) {requests : List Request}
    (member : machine ∈ start.fetchers requests) : machine.Sound := by
  obtain ⟨met, found, rfl⟩ := List.mem_map.mp member
  exact sound_of_encounter sound (List.mem_filter.mp found).1

/-- What a buffer of this level and limit records of a run. -/
structure RecordsFetches (level : Int) (limit : Nat) (start : Machine) (requests : List Request) :
    Prop where
  /-- A fetch gives one line, whether or not the instruction fails; no other request gives one. -/
  line : ∀ met ∈ start.encounters requests, (met.1.serve met.2).2.trace =
    if met.2 = .step ∧ met.1.runState = .running then
      met.1.trace.log Trace.instructionLevel met.1.nextLine
    else met.1.trace
  /-- The buffer holds the last lines of all, in their order, as many as the limit allows. -/
  kept : Trace.instructionLevel ≤ level →
    (start.serveAll requests).trace.lines.toList <:+ (start.fetchers requests).map nextLine ∧
      (start.serveAll requests).trace.lines.size = min limit (start.fetchers requests).length
  /-- Each line tells where its fetch was made, which word it found, and what all registers were
  before the instruction acted. -/
  read : ∀ machine ∈ start.fetchers requests,
    Fetch.ofLine? machine.nextLine = some machine.nextFetch
  silent : level < Trace.instructionLevel → (start.serveAll requests).trace.lines = #[]

theorem recordsFetches_of_load {program : List Byte} {shift : ShiftDialect} {random : RandomSource}
    {level : Int} {limit : Nat}
    (loaded : load program shift random (.buffer level limit) = .ok start)
    (requests : List Request) : RecordsFetches level limit start requests := by
  have sound := Sound.load loaded
  have trace := @trace_of_serveAll start requests
  have fresh : start.trace = .buffer level limit := by
    obtain ⟨memory, rfl⟩ := load_eq loaded
    rfl
  rw [fresh] at trace
  refine ⟨fun met _ => trace_of_serve met.2, ?_, ?_, ?_⟩
  · intro accepts
    obtain ⟨lines, same, last⟩ :=
      Trace.logAll_buffer accepts limit ((start.fetchers requests).map nextLine)
    have held : (start.serveAll requests).trace.lines = lines := by
      rw [trace, same]
      rfl
    rw [held]
    constructor
    · rw [last]
      exact List.drop_suffix ..
    · rw [← Array.length_toList, last, List.length_drop, List.length_map]
      omega
  · intro machine member
    exact (sound_of_fetcher sound member).ofLine?_nextLine
  · intro low
    rw [trace, Trace.logAll_of_disabled low]
    rfl

theorem recordsFetches_of_question :
    let program : List Byte := [0x61, 0x2A, 0xF3, 0x0A, 0x50, 0x11]
    let start : Machine :=
      { memory := Memory.withFont.writeBlock Memory.programStart program, programSize := 6
        trace := .buffer 2 2 }
    let requests : List Request := [.step, .step, .step, .deliverKey 7, .step]
    load program .vx .zeros (.buffer 2 2) = .ok start ∧ RecordsFetches 2 2 start requests ∧
      (start.fetchers requests).map (fun machine => machine.nextFetch.word) =
        [0x612A, 0xF30A, 0x5011] ∧
      (start.serveAll requests).trace.lines.size = 2 := by
  intro program start requests
  have loaded : load program .vx .zeros (.buffer 2 2) = .ok start := rfl
  have records : RecordsFetches 2 2 start requests := recordsFetches_of_load loaded requests
  have words : (start.fetchers requests).map (fun machine => machine.nextFetch.word) =
      [0x612A, 0xF30A, 0x5011] := by decide +kernel
  have length := congrArg List.length words
  rw [List.length_map] at length
  refine ⟨loaded, records, words, ?_⟩
  rw [(records.kept (Int.le_refl 2)).2, length]
  rfl

end Machine

end Chip8
