/-!
# Trace logs

A trace log accepts lines up to its level.  What it does with them depends on its sink: drop them,
print them under their level, or keep the latest ones.
-/

namespace Chip8

inductive Trace.Sink where
  | discard
  | console (printed : Array String)
  | buffer (limit : Int) (lines : Array String)
  deriving DecidableEq, Repr

/-- A sink and the highest level it accepts. -/
structure Trace where
  level : Int
  sink : Trace.Sink
  deriving DecidableEq, Repr

namespace Trace

def instructionLevel : Int := 2

def defaultLimit : Int := 1000

def silent : Trace := ⟨0, .discard⟩

def console (level : Int := instructionLevel) : Trace := ⟨level, .console ∅⟩

def buffer (level : Int := instructionLevel) (limit : Int := defaultLimit) : Trace :=
  ⟨level, .buffer limit ∅⟩

def enabled (trace : Trace) (level : Int) : Bool := decide (level ≤ trace.level)

/-- Adds a line at the end and, if they have become too many, drops the oldest one. -/
def keep (limit : Int) (lines : Array String) (line : String) : Array String :=
  let longer := lines.push line
  if limit < longer.size then longer.extract 1 longer.size else longer

def log (trace : Trace) (level : Int) (line : String) : Trace :=
  if trace.enabled level then
    match trace.sink with
    | .discard => trace
    | .console printed =>
      { trace with sink := .console (printed.push s!"[CHIP8:{level}] {line}") }
    | .buffer limit lines => { trace with sink := .buffer limit (keep limit lines line) }
  else
    trace

def setLevel (trace : Trace) (level : Int) : Trace := { trace with level := level }

/-- Changes the limit of a buffer; the lines stay as they are until the next one comes. -/
def setLimit (trace : Trace) (limit : Int) : Trace :=
  match trace.sink with
  | .buffer _ lines => { trace with sink := .buffer limit lines }
  | _ => trace

def lines (trace : Trace) : Array String :=
  match trace.sink with
  | .buffer _ lines => lines
  | _ => ∅

def printed (trace : Trace) : Array String :=
  match trace.sink with
  | .console printed => printed
  | _ => ∅

/-- A full buffer gives up its oldest line for a new one. -/
theorem toList_keep (limit : Nat) (lines : Array String) (line : String)
    (bounded : lines.size ≤ limit) :
    (Trace.keep limit lines line).toList =
      (lines.toList ++ [line]).drop (lines.size + 1 - limit) := by
  have size : (lines.push line).size = lines.size + 1 := Array.size_push line
  by_cases full : lines.size = limit
  · have overfull : (limit : Int) < (lines.push line).size := by omega
    have dropped : lines.size + 1 - limit = 1 := by omega
    unfold Trace.keep
    have short : (lines.toList ++ [line]).tail.length ≤ lines.size := by simp
    rw [dropped, if_pos overfull]
    simp [List.take_of_length_le short]
  · have room : ¬ (limit : Int) < (lines.push line).size := by omega
    have kept : lines.size + 1 - limit = 0 := by omega
    unfold Trace.keep
    rw [kept, if_neg room]
    simp

end Trace

end Chip8
