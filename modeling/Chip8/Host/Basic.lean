import Chip8.Binary64
import Chip8.Display.Picture
import Chip8.Keypad
import Chip8.LogRecord
import Chip8.Machine.Basic

/-!
# The host

What surrounds a machine: an output device, the keypad, a clock and a log.  Requests to the host
are actions that may fail; whatever a failed action did before it failed stays done.
-/

namespace Chip8

inductive HostError where
  | machine (error : MachineError)
  | toldToFail (call : String)
  | screenCall (call : String)
  | terminalClosed
  | windowClosed
  | noVideo
  | embeddedNul
  | picture (wrong : WrongPictureSize)
  | rateTooLarge
  | timeTooLarge
  | budgetInfinite
  | interrupted
  | other (text : String)
  deriving DecidableEq, Repr

def HostError.message : HostError → String
  | machine error => error.message
  | toldToFail call => s!"{call} failed"
  | screenCall call => s!"{call}() returned ERR"
  | terminalClosed => "TerminalFrontend.draw() called before initialize()"
  | windowClosed => "PygameFrontend.draw() called before initialize()"
  | noVideo => "video system not initialized"
  | embeddedNul => "embedded null character"
  | picture wrong => wrong.message
  | rateTooLarge => "int too large to convert to float"
  | timeTooLarge => Binary64.RatioError.tooLarge.message
  | budgetInfinite => "cannot convert float infinity to integer"
  | interrupted => ""
  | other text => text

/-- Something done to a state `σ` that may fail. -/
abbrev Action (σ : Type) := ExceptT HostError (StateM σ)

/-- A clock that counts microseconds. -/
structure Clock where
  micros : Int := 0
  perReading : Int := 0
  deriving DecidableEq, Repr

namespace Clock

def seconds? (micros : Int) : Option Float := Binary64.ofRatio? micros 1000000

def advance (clock : Clock) (micros : Int) : Clock :=
  { clock with micros := clock.micros + micros }

def afterReading (clock : Clock) : Clock := clock.advance clock.perReading

end Clock

structure Host (δ : Type) where
  device : δ
  keypad : Keypad := {}
  clock : Clock := {}
  log : Array LogRecord := ∅

namespace Host

variable {δ : Type}

def note (record : LogRecord) : Action (Host δ) Unit :=
  modify fun host => { host with log := host.log.push record }

def now : Action (Host δ) Float := do
  modify fun host => { host with clock := host.clock.afterReading }
  match Clock.seconds? (← get).clock.micros with
  | some seconds => return seconds
  | none => throw .timeTooLarge

def sleep (micros : Int) : Action (Host δ) Unit :=
  modify fun host => { host with clock := host.clock.advance micros }

def changeKeypad (change : Keypad → Keypad) : Action (Host δ) Unit :=
  modify fun host => { host with keypad := change host.keypad }

def changeDevice (change : δ → δ) : Action (Host δ) Unit :=
  modify fun host => { host with device := change host.device }

end Host

/-- Performs `body` and then `cleanup`, whether `body` failed or not; an error of `cleanup` wins
over one of `body`. -/
def thenAlways {σ : Type} (body cleanup : Action σ Unit) : Action σ Unit := fun state =>
  let (outcome, reached) := body.run.run state
  match cleanup.run.run reached with
  | (.error error, final) => (.error error, final)
  | (.ok (), final) => (outcome, final)

end Chip8
