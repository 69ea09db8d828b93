import Chip8.Host.Frontend
import Chip8.Keyboard.Poller
import Chip8.Terminal.Screen

/-!
# The terminal front end

Shows the display inside a box, two pixel rows to a text row, and reads the keyboard through a
poller.  Opening the terminal changes its modes; whatever happens, closing it restores them as far
as it can and always gives the screen back.
-/

namespace Chip8

structure Terminal where
  screen : Terminal.Screen
  isOpen : Bool := false
  poller : Option Keyboard.Poller := none

namespace Terminal

def logSource : String := "chip8emu.platform.terminal"

def boxWidth : Nat := Display.width + 2

def boxHeight : Nat := Display.height / 2 + 2

def escapeMillis : Nat := 25

def note (level : LogLevel) (message : String) : Action (Host Terminal) Unit :=
  Host.note ⟨level, logSource, message⟩

def changeScreen (change : Screen → Screen) : Action (Host Terminal) Unit :=
  Host.changeDevice fun terminal => { terminal with screen := change terminal.screen }

def attempt (call : Call) : Action (Host Terminal) Bool := do
  let (succeeds, screen) := (← get).device.screen.call call
  changeScreen fun _ => screen
  return succeeds

def require (call : Call) : Action (Host Terminal) Unit := do
  unless ← attempt call do
    throw (.screenCall call.name)

/-- Sets the visibility of the cursor, if the terminal can. -/
def setCursor (visibility : Nat) : Action (Host Terminal) Unit := do
  unless ← attempt (.cursor visibility) do
    note .debug "Terminal cannot change cursor visibility"

def write (row column : Nat) (text : List Char) : Action (Host Terminal) Unit := do
  if ← attempt (.write row column) then
    changeScreen fun screen => (screen.put row column text).2

def border (left right : Char) : List Char :=
  left :: List.replicate (boxWidth - 2) '─' ++ [right]

def drawBox : Action (Host Terminal) Unit := do
  require .clear
  changeScreen Screen.cleared
  write 0 0 (border '┌' '┐')
  (List.range' 1 (boxHeight - 2)).forM fun row => do
    write row 0 ['│']
    write row (boxWidth - 1) ['│']
  write (boxHeight - 1) 0 (border '└' '┘')
  require .refresh

def setPoller (poller : Option Keyboard.Poller) : Action (Host Terminal) Unit :=
  Host.changeDevice fun terminal => { terminal with poller := poller }

def startThread : Action (Host Terminal) Unit := do
  match (← get).device.poller with
  | none => return
  | some poller =>
    setPoller (some { poller with threaded := true })
    let _ ← attempt (.threadStart Keyboard.Poller.threadName)

/-- Waits for the poller's thread, which ends if the poller has been stopped. -/
def joinThread : Action (Host Terminal) Unit := do
  match (← get).device.poller with
  | none => return
  | some poller =>
    if poller.threaded then
      let _ ← attempt (.threadJoin Keyboard.Poller.joinTimeout poller.stopped)
      setPoller (some { poller with threaded := false })

def stopThread : Action (Host Terminal) Unit := do
  match (← get).device.poller with
  | none => return
  | some poller =>
    setPoller (some { poller with stopped := true })
    joinThread

def start : Action (Host Terminal) Unit := do
  require .openScreen
  Host.changeDevice fun terminal => { terminal with isOpen := true }
  require .noEcho
  require .rawInput
  require (.keypadMode true)
  require (.noDelay true)
  require (.escapeDelay escapeMillis)
  setCursor 0
  require .size
  let screen := (← get).device.screen
  if screen.rows < boxHeight ∨ screen.columns < boxWidth then
    note .warning (s!"Terminal is {screen.columns}x{screen.rows}; " ++
      s!"{boxWidth}x{boxHeight} is needed to show the whole screen")
  drawBox
  setPoller (some {})
  startThread

/-- Whether the user has not asked to quit. -/
def poll : Action (Host Terminal) Bool := do
  match (← get).device.poller with
  | none => return true
  | some poller => return !poller.quit

def drawBytes (bytes : List Byte) : Action (Host Terminal) Unit := do
  unless (← get).device.isOpen do
    throw .terminalClosed
  match Pixels.unpack bytes with
  | .error wrong => throw (.picture wrong)
  | .ok pixels =>
    (pixels.textLines.zipIdx 1).forM fun (line, row) => write row 1 line
    require .refresh

def restoreModes : Action (Host Terminal) Unit := do
  require (.keypadMode false)
  require .lineInput
  require .echo
  setCursor 1

/-- Stops the poller and gives the screen back.  The terminal counts as open until all of that has
succeeded. -/
def stop : Action (Host Terminal) Unit := do
  stopThread
  setPoller none
  if (← get).device.isOpen then
    thenAlways restoreModes (require .closeScreen)
    Host.changeDevice fun terminal => { terminal with isOpen := false }

def pollKeyboard : Action (Host Terminal) Unit := do
  match (← get).device.poller with
  | none => return
  | some poller =>
    let now ← Host.now
    let host ← get
    let pending := host.device.screen.pending
    let (polled, keypad) := poller.poll host.keypad now (Keyboard.Poller.readable pending)
    changeScreen fun screen => { screen with pending := Keyboard.Poller.unread pending }
    Host.changeKeypad fun _ => keypad
    setPoller (some polled)

def type (codes : List Int) : Action (Host Terminal) Unit :=
  changeScreen fun screen => { screen with pending := screen.pending ++ codes }

/-- One round of the poller's thread, a poll and a sleep, unless the poller has been stopped. -/
def threadRound : Action (Host Terminal) Bool := do
  match (← get).device.poller with
  | none => return false
  | some poller =>
    if poller.stopped then
      return false
    pollKeyboard
    Host.sleep Keyboard.Poller.interval
    return true

/-- The poller's thread.  Each of its sleeps brings the next of the given codes, and when there are
none left, a request to stop. -/
def runThread : List (List Int) → Action (Host Terminal) Unit
  | [] => do
    if ← threadRound then
      Host.changeDevice fun terminal =>
        { terminal with
          poller := terminal.poller.map fun poller => { poller with stopped := true } }
  | codes :: rest => do
    if ← threadRound then
      type codes
      runThread rest

end Terminal

instance : Frontend Terminal where
  start := Terminal.start
  poll := Terminal.poll
  draw display := Terminal.drawBytes display.toBytes
  stop := Terminal.stop
  reportSpeed _ := return
  paused _ := false

end Chip8
