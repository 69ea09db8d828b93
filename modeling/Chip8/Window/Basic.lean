import Chip8.Host.Frontend
import Chip8.Window.Canvas
import Chip8.Window.Input

namespace Chip8

/-- A window on surfaces of a kind, and the events waiting for it.  A picture is put on `surface`,
scaled to the size of `screen` and pasted there; `shown` is what the user sees of the screen. -/
structure Window (σ : Type) where
  scale : Nat
  title : String
  isOpen : Bool := false
  caption : String := ""
  screen : Option σ := none
  surface : Option σ := none
  shown : Option σ := none
  queue : List Window.Event := []
  input : Window.Input := {}

namespace Window

def logSource : String := "chip8emu.platform.window"

def paletteLogSource : String := "chip8emu.shell.frame_renderer"

def defaultScale : Int := 10

def clampScale (asked : Int) : Nat := (max 1 (min 30 asked)).toNat

def titleFor (program : String) : String :=
  if program = "" then "CHIP8EMU" else s!"CHIP8EMU  ({program})"

variable {σ : Type}

def create (scale : Int) (program : String) : Window σ :=
  { scale := clampScale scale, title := titleFor program }

/-- The width and the height with which the window opens. -/
def size (window : Window σ) : Nat × Nat :=
  (Display.width * window.scale, Display.height * window.scale)

def creationRecord : LogRecord :=
  let foreground := Hex.padded 6 Palette.defaultForeground
  let background := Hex.padded 6 Palette.defaultBackground
  ⟨.info, paletteLogSource,
    s!"FrameRenderer: {Display.width}x{Display.height} (fg={foreground}, bg={background})"⟩

def bareCaption : String := "pygame window"

/-- Changes what the title bar says.  That cannot have a NUL character in it. -/
def setCaption (caption : String) : Action (Host (Window σ)) Unit := do
  if caption.contains '\x00' then
    throw .embeddedNul
  Host.changeDevice fun window => { window with caption }

/-- Opens the window, or opens it again, with nothing but black in it. -/
def start [Canvas σ] : Action (Host (Window σ)) Unit := do
  let window := (← get).device
  let screen : σ := Canvas.create window.size
  Host.changeDevice fun window =>
    { window with
      isOpen := true, caption := bareCaption, screen := some screen, shown := some screen }
  setCaption window.title
  let surface : σ := Canvas.create (Display.width, Display.height)
  let filled := Canvas.fill screen .black
  Host.changeDevice fun window =>
    { window with screen := some filled, surface := some surface, shown := some filled }
  Host.note ⟨.info, logSource,
    s!"Window: {Display.width}x{Display.height} native, {window.size.1}x{window.size.2} display " ++
      s!"(scale={window.scale})"⟩

def discardEvents : Action (Host (Window σ)) Unit :=
  Host.changeDevice fun window => { window with queue := [] }

def post (events : List Event) : Action (Host (Window σ)) Unit := do
  unless (← get).device.isOpen do
    throw .noVideo
  Host.changeDevice fun window => { window with queue := window.queue ++ events }

def handle (event : Event) : Action (Host (Window σ)) Unit :=
  modify fun host =>
    let response := host.device.input.handle host.keypad event
    { host with
      device := { host.device with input := response.input }
      keypad := response.keypad
      log := host.log ++ response.log }

/-- Handles the waiting events; `false` once the user asked to quit. -/
def poll : Action (Host (Window σ)) Bool := do
  let window := (← get).device
  unless window.isOpen do
    throw .noVideo
  discardEvents
  window.queue.forM handle
  return !(← get).device.input.quit

/-- Shows a picture, given as bytes, in the size that the window has by now. -/
def drawBytes [Canvas σ] (bytes : List Byte) : Action (Host (Window σ)) Unit := do
  let window := (← get).device
  match window.screen, window.surface with
  | some screen, some surface =>
    match Pixels.unpack bytes with
    | .error wrong => throw (.picture wrong)
    | .ok pixels =>
      let drawn := Canvas.takeOver surface (Palette.standard.byColumns pixels)
      let scaled := Canvas.scale drawn (Canvas.size screen)
      let pasted := Canvas.paste screen scaled
      Host.changeDevice fun window =>
        { window with screen := some pasted, surface := some drawn, shown := some pasted }
  | _, _ => throw .windowClosed

def colourAt [Canvas σ] (window : Window σ) (x y : Int) : Except BoundsError Colour :=
  let seen := window.shown.bind fun surface => Canvas.colour? surface x.toNat y.toNat
  match decide (0 ≤ x ∧ 0 ≤ y), seen with
  | true, some colour => .ok colour
  | _, _ => .error .windowPixel

def reportSpeed (rate : Float) : Action (Host (Window σ)) Unit := do
  let window := (← get).device
  let suffix := if window.input.paused then "paused" else s!"{Binary64.roundedText rate} ips"
  setCaption s!"{window.title}  [{suffix}]"

def stop : Action (Host (Window σ)) Unit := do
  Host.note ⟨.info, logSource, "Shutting down"⟩
  Host.changeDevice fun window =>
    { window with isOpen := false, screen := none, surface := none, shown := none, queue := [] }

end Window

instance {σ : Type} [Canvas σ] : Frontend (Window σ) where
  start := Window.start
  poll := Window.poll
  draw display := Window.drawBytes display.toBytes
  stop := Window.stop
  reportSpeed := Window.reportSpeed
  paused window := window.input.paused

end Chip8
