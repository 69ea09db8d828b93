import Chip8.Host.Frontend

namespace Chip8

inductive Recorder.Part where
  | start
  | poll
  | draw
  | stop
  | speed
  deriving DecidableEq, Repr

namespace Recorder.Part

def name : Part → String
  | start => "initialize"
  | poll => "poll"
  | draw => "draw"
  | stop => "shutdown"
  | speed => "speed"

def ofName? (text : String) : Option Part :=
  [start, poll, draw, stop, speed].find? fun part => part.name = text

end Recorder.Part

inductive Recorder.Call where
  | start
  | draw (display : Display)
  | stop
  | speed (rate : Float)

inductive Recorder.Event where
  | keyDown (key : Int)
  | keyUp (key : Int)
  | releaseAll
  | pause (on : Bool)
  | advance (micros : Int)
  | failFrom (part : Recorder.Part)
  deriving DecidableEq, Repr

structure Recorder where
  paused : Bool := false
  failing : List Recorder.Part := []
  calls : Array Recorder.Call := ∅
  /-- What happens at each of the next polls; after that the user quits. -/
  script : List (List Recorder.Event) := []

namespace Recorder

def happen : Event → Action (Host Recorder) Unit
  | .keyDown key => Host.changeKeypad fun keypad => keypad.raise key true
  | .keyUp key => Host.changeKeypad fun keypad => keypad.raise key false
  | .releaseAll => Host.changeKeypad Keypad.clear
  | .pause on => Host.changeDevice fun device => { device with paused := on }
  | .advance micros => Host.sleep micros
  | .failFrom part =>
    Host.changeDevice fun device => { device with failing := part :: device.failing }

def failIfTold (part : Part) : Action (Host Recorder) Unit := do
  if (← get).device.failing.contains part then
    throw (.toldToFail part.name)

/-- Records a request, which then may fail. -/
def record (part : Part) (call : Call) : Action (Host Recorder) Unit := do
  Host.changeDevice fun device => { device with calls := device.calls.push call }
  failIfTold part

def playNext : Action (Host Recorder) Bool := do
  match (← get).device.script with
  | [] => return false
  | events :: rest =>
    Host.changeDevice fun device => { device with script := rest }
    events.forM happen
    return true

end Recorder

instance : Frontend Recorder where
  start := Recorder.record .start .start
  poll := do
    Recorder.failIfTold .poll
    Recorder.playNext
  draw display := Recorder.record .draw (.draw display)
  stop := Recorder.record .stop .stop
  reportSpeed rate := Recorder.record .speed (.speed rate)
  paused device := device.paused

end Chip8
