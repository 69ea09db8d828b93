import Chip8.Text.Hex

namespace Chip8

inductive Fault.Cause where
  | invalidOpcode
  | stackOverflow
  | stackUnderflow
  | other (text : Option String)
  deriving DecidableEq, Repr

/-- A fatal failure to execute the word `opcode` at `address`. -/
structure Fault where
  cause : Fault.Cause
  opcode : Int
  address : Int
  deriving DecidableEq, Repr

def Fault.message (fault : Fault) : String :=
  let opcode := Hex.padded 4 fault.opcode
  let address := Hex.padded 3 fault.address
  match fault.cause with
  | .invalidOpcode => s!"invalid opcode {opcode} at {address}"
  | .stackOverflow => s!"call stack overflow: {opcode} at {address}"
  | .stackUnderflow => s!"return with empty call stack at {address}"
  | .other none => s!"fault executing {opcode} at {address}"
  | .other (some text) => text

/-- The kinds of failure, some of which are special cases of others. -/
inductive FailureKind where
  | general
  | load
  | execution
  | invalidOpcode
  | stackOverflow
  | stackUnderflow
  | notAwaitingKey
  deriving DecidableEq, Repr

namespace FailureKind

/-- A kind and all kinds it specialises, the most special first. -/
def lineage : FailureKind → List FailureKind
  | general => [general]
  | load => [load, general]
  | execution => [execution, general]
  | invalidOpcode => [invalidOpcode, execution, general]
  | stackOverflow => [stackOverflow, execution, general]
  | stackUnderflow => [stackUnderflow, execution, general]
  | notAwaitingKey => [notAwaitingKey, general]

end FailureKind

def Fault.kind (fault : Fault) : FailureKind :=
  match fault.cause with
  | .invalidOpcode => .invalidOpcode
  | .stackOverflow => .stackOverflow
  | .stackUnderflow => .stackUnderflow
  | .other _ => .execution

end Chip8
