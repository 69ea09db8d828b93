namespace Chip8

inductive LogLevel where
  | debug
  | info
  | warning
  | error
  deriving DecidableEq, Repr

namespace LogLevel

def name : LogLevel → String
  | debug => "DEBUG"
  | info => "INFO"
  | warning => "WARNING"
  | error => "ERROR"

def rank : LogLevel → Nat
  | debug => 10
  | info => 20
  | warning => 30
  | error => 40

end LogLevel

structure LogRecord where
  level : LogLevel
  source : String
  message : String
  deriving DecidableEq, Repr

namespace LogRecord

def line (record : LogRecord) : String :=
  s!"{record.level.name} {record.source}: {record.message}"

def atLeast (record : LogRecord) (level : LogLevel) : Bool :=
  decide (level.rank ≤ record.level.rank)

end LogRecord

end Chip8
