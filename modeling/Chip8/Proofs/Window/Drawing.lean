import Chip8.Proofs.Display.Views
import Chip8.Proofs.Host.Action
import Chip8.Proofs.Window.Canvas
import Chip8.Window.Basic

namespace Chip8.Window

variable {σ : Type}

theorem run_setCaption {caption : String} (clean : caption.contains '\x00' = false)
    (host : Host (Window σ)) : (setCaption caption).run.run host =
      (.ok (), { host with device := { host.device with caption } }) := by
  rw [setCaption, clean]
  rfl

variable [Canvas σ]

/-- The window can show pictures, in some size. -/
structure Works (window : Window σ) (size : Nat × Nat) : Prop where
  screen : ∃ screen, window.screen = some screen ∧ Canvas.size screen = size
  surface : ∃ surface, window.surface = some surface ∧ Canvas.size surface = (64, 32)

/-- Each place of a window of some size shows a pixel that it overlaps. -/
def Shows (window : Window σ) (size : Nat × Nat) (display : Display) : Prop :=
  ∀ column row : Nat, column < size.1 → row < size.2 → ∃ (x : Fin 64) (y : Fin 32),
    Canvas.Overlaps x 64 column size.1 ∧ Canvas.Overlaps y 32 row size.2 ∧
      window.colourAt column row = .ok (Palette.standard.colour (display.pixel x y))

/-- A place that lies in one pixel as a whole shows that one. -/
theorem Shows.colourAt_eq {window : Window σ} {size : Nat × Nat} {display : Display}
    (shows : window.Shows size display) {x : Fin 64} {y : Fin 32} {column row : Nat}
    (across : Canvas.Within x 64 column size.1) (down : Canvas.Within y 32 row size.2) :
    window.colourAt column row = .ok (Palette.standard.colour (display.pixel x y)) := by
  obtain ⟨x', y', overX, overY, seen⟩ := shows column row (across.lt x.isLt) (down.lt y.isLt)
  rw [seen, Fin.ext (across.eq_of_overlaps overX), Fin.ext (down.eq_of_overlaps overY)]

/-- The window after its user gave it another size, whatever is seen of it then. -/
def resized (window : Window σ) (screen : σ) : Window σ :=
  { window with screen := some screen, shown := some screen }

theorem Works.resized {window : Window σ} {size : Nat × Nat} (works : window.Works size)
    (screen : σ) : (window.resized screen).Works (Canvas.size screen) :=
  ⟨⟨screen, rfl, rfl⟩, works.surface⟩

theorem colourAt_of_seen {window : Window σ} {column row : Nat} {surface : σ} {colour : Colour}
    (shown : window.shown = some surface) (seen : Canvas.colour? surface column row = some colour) :
    window.colourAt column row = .ok colour := by
  simp [colourAt, shown, seen]

def opened (window : Window σ) : Window σ :=
  let screen := Canvas.fill (Canvas.create window.size) .black
  { window with
    isOpen := true
    caption := window.title
    screen := some screen
    surface := some (Canvas.create (Display.width, Display.height))
    shown := some screen }

theorem run_start {host : Host (Window σ)} (clean : host.device.title.contains '\x00' = false) :
    ∃ log, start.run.run host = (.ok (), { host with device := host.device.opened, log }) := by
  rw [start, Action.run_get, Action.run_bind]
  change ∃ log, (setCaption host.device.title >>= fun _ => _).run.run _ = _
  rw [Action.run_bind, run_setCaption clean]
  exact ⟨_, rfl⟩

variable [LawfulCanvas σ] {host : Host (Window σ)} {size : Nat × Nat}

theorem works_opened (window : Window σ) : window.opened.Works window.size where
  screen := ⟨_, rfl, by rw [LawfulCanvas.size_fill, LawfulCanvas.size_create]⟩
  surface := ⟨_, rfl, LawfulCanvas.size_create _⟩

theorem colour?_takeOver_byColumns {surface : σ} (native : Canvas.size surface = (64, 32))
    (display : Display) (x : Fin 64) (y : Fin 32) :
    Canvas.colour? (Canvas.takeOver surface (Palette.standard.byColumns display.pixelRows)) x y =
      some (Palette.standard.colour (display.pixel x y)) := by
  have wide : (Palette.standard.byColumns display.pixelRows).length = (Canvas.size surface).1 := by
    rw [native, Palette.length_byColumns]
  have high : ∀ column ∈ Palette.standard.byColumns display.pixelRows,
      column.length = (Canvas.size surface).2 := by
    intro column member
    rw [native,
      Palette.length_of_mem_byColumns _ (fun _ => Display.length_of_mem_pixelRows) member]
    simp [Display.pixelRows]
  rw [LawfulCanvas.colour?_takeOver x y wide high, display.getElem?_byColumns]

theorem run_draw (works : host.device.Works size) (display : Display) :
    ∃ after, (drawBytes display.toBytes).run.run host = (.ok (), after) ∧
      after.device.Works size ∧ after.device.Shows size display := by
  obtain ⟨⟨screen, hasScreen, rfl⟩, surface, hasSurface, native⟩ := works
  let drawn := Canvas.takeOver surface (Palette.standard.byColumns display.pixelRows)
  let scaled := Canvas.scale drawn (Canvas.size screen)
  let pasted := Canvas.paste screen scaled
  have drawn_size : Canvas.size drawn = (64, 32) :=
    (LawfulCanvas.size_takeOver surface _).trans native
  refine ⟨{ host with device := { host.device with
    screen := some pasted, surface := some drawn, shown := some pasted } }, ?_, ?_, ?_⟩
  · rw [drawBytes, Action.run_get]
    simp only [hasScreen, hasSurface, Display.unpack_toBytes]
    rfl
  · exact ⟨⟨pasted, rfl, LawfulCanvas.size_paste _ _⟩, drawn, rfl, drawn_size⟩
  · intro column row column_lt row_lt
    obtain ⟨x, y, across, down, same⟩ :=
      LawfulCanvas.colour?_scale drawn (by rw [drawn_size]; decide) (by rw [drawn_size]; decide)
        column_lt row_lt
    rw [drawn_size] at across down
    refine ⟨⟨x, across.lt column_lt⟩, ⟨y, down.lt row_lt⟩, across, down, ?_⟩
    have seen : Canvas.colour? pasted column row = _ :=
      (LawfulCanvas.colour?_paste column row (LawfulCanvas.size_scale _ _)).trans
        (same.trans (colour?_takeOver_byColumns native display ⟨x, across.lt column_lt⟩
          ⟨y, down.lt row_lt⟩))
    exact colourAt_of_seen rfl seen

end Chip8.Window
