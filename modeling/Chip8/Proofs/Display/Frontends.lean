import Chip8.Proofs.Display.Views
import Chip8.Proofs.Terminal.Opening
import Chip8.Proofs.Window.Drawing

namespace Chip8

namespace Display

variable {σ : Type} [Canvas σ]

/-- Both front ends show the picture, and a pixel looks the same on both. -/
structure ShownAlike (display : Display) (window : Host (Window σ)) (size : Nat × Nat)
    (terminal : Host Terminal) : Prop where
  drawn : ((Frontend.draw display).run.run window).1 = .ok () ∧
    ((Frontend.draw display).run.run terminal).1 = .ok ()
  works : ((Frontend.draw display).run.run window).2.device.Works size ∧
    ((Frontend.draw display).run.run terminal).2.device.Works
  same (x : Fin 64) (y : Fin 32) :
    1 + y.val / 2 < terminal.device.screen.rows → 1 + x.val < terminal.device.screen.columns →
    ∃ glyph ∈ glyphs,
      ((Frontend.draw display).run.run terminal).2.device.screen.cell (1 + y.val / 2) (1 + x.val) =
        some glyph ∧
      ∀ {column row : Nat}, Canvas.Within x 64 column size.1 → Canvas.Within y 32 row size.2 →
        ((Frontend.draw display).run.run window).2.device.colourAt column row =
          .ok (Palette.standard.colour (halfLit y glyph))
  shows : ((Frontend.draw display).run.run window).2.device.Shows size display

theorem shownAlike [LawfulCanvas σ] (display : Display) {window : Host (Window σ)}
    {size : Nat × Nat} {terminal : Host Terminal} (works : window.device.Works size)
    (works' : terminal.device.Works) : display.ShownAlike window size terminal := by
  obtain ⟨drawn, ranWindow, showsOn, shown⟩ := Window.run_draw works display
  obtain ⟨written, ranTerminal, worksOn, cells⟩ := Terminal.run_draw works' display
  have onWindow : (Frontend.draw display).run.run window = (.ok (), drawn) := ranWindow
  have onTerminal : (Frontend.draw display).run.run terminal = (.ok (), written) := ranTerminal
  refine ⟨?_, ?_, ?_, ?_⟩
  · exact ⟨congrArg Prod.fst onWindow, congrArg Prod.fst onTerminal⟩
  · rw [onWindow, onTerminal]
    exact ⟨showsOn, worksOn.works⟩
  · intro x y line_lt place_lt
    obtain ⟨glyph, known, found, lit⟩ := display.exists_glyph x y
    rw [onWindow, onTerminal]
    refine ⟨glyph, known, cells found (by omega) place_lt, fun across down => ?_⟩
    rw [lit]
    exact shown.colourAt_eq across down
  · rw [onWindow]
    exact shown

/-- The pixels that a display was handed on as, in all the ways to show them. -/
structure PicturedBy (display : Display) (pixels : Pixels) : Prop where
  agrees (x : Fin 64) (y : Fin 32) : display.Agrees pixels x y
  lines : pixels.textLines.length = 16 ∧ ∀ line ∈ pixels.textLines, line.length = 64
  decoded : (rowsOfText pixels.textLines).map Pixels.packBits = display.snapshot

theorem picturedBy (display : Display) : display.PicturedBy display.pixelRows where
  agrees := display.agrees
  lines := by
    refine ⟨by simp [Pixels.length_textLines, pixelRows], fun line shown => ?_⟩
    exact Pixels.length_of_mem_textLines (fun _ => length_of_mem_pixelRows) shown
  decoded := by
    rw [Pixels.rowsOfText_textLines (by simp [pixelRows]) fun _ => length_of_mem_pixelRows,
      map_packBits_pixelRows]

/-- How the views of a display go together. -/
structure ViewsAgree (display : Display) (σ : Type) [Canvas σ] : Prop where
  restored : ofBytes? display.snapshot.flatten = some display
  pictured : ∃ pixels, Pixels.unpack display.snapshot.flatten = .ok pixels ∧
    display.PicturedBy pixels
  drawn {window : Host (Window σ)} {size : Nat × Nat} {terminal : Host Terminal} :
    window.device.Works size → terminal.device.Works → display.ShownAlike window size terminal
  /-- Front ends that have been opened show every pixel, also after the window was resized. -/
  opened {window : Host (Window σ)} {terminal : Host Terminal} :
    window.device.title.contains '\x00' = false →
    (∀ earlier call, terminal.device.screen.fails earlier call = false) →
    ∃ window' terminal',
      Frontend.start.run.run window = (.ok (), window') ∧
        Frontend.start.run.run terminal = (.ok (), terminal') ∧
        display.ShownAlike window' window.device.size terminal' ∧
        (∀ (x : Fin 64) (y : Fin 32), ∀ right < window.device.scale, ∀ down < window.device.scale,
          ((Frontend.draw display).run.run window').2.device.colourAt
              (x.val * window.device.scale + right : Nat)
              (y.val * window.device.scale + down : Nat) =
            .ok (Palette.standard.colour (display.pixel x y))) ∧
        ∀ screen, display.ShownAlike { window' with device := window'.device.resized screen }
          (Canvas.size screen) terminal'

theorem viewsAgree {σ : Type} [Canvas σ] [LawfulCanvas σ] (display : Display) :
    display.ViewsAgree σ where
  restored := display.ofBytes?_toBytes
  pictured := ⟨display.pixelRows, display.unpack_toBytes, display.picturedBy⟩
  drawn := display.shownAlike
  opened := by
    intro window terminal clean reliable
    obtain ⟨log, onWindow⟩ := Window.run_start clean
    obtain ⟨_, terminal', onTerminal, stage⟩ := Terminal.leads_start terminal (.closed reliable)
    have works := window.device.works_opened
    let window' : Host (Window σ) := { window with device := window.device.opened, log }
    have alike : display.ShownAlike window' window.device.size terminal' :=
      display.shownAlike works stage.works
    refine ⟨window', terminal', onWindow, onTerminal, alike, ?_,
      fun screen => display.shownAlike (works.resized screen) stage.works⟩
    intro x y right right_lt down down_lt
    exact alike.shows.colourAt_eq (Canvas.within_mul_add right_lt) (Canvas.within_mul_add down_lt)

/-- A sprite that wraps around a corner, on surfaces of one kind and on a terminal. -/
theorem viewsAgree_of_rasters :
    let display := (blank.drawSprite 62 30 [0xF0, 0x90, 0xF0]).1
    LawfulCanvas Raster ∧ ∃ (window : Host (Window Raster)) (terminal : Host Terminal),
      Frontend.start.run.run { device := Window.create 10 "PONG" } = (.ok (), window) ∧
        Frontend.start.run.run { device := { screen := .blank 24 80 fun _ _ => false } } =
          (.ok (), terminal) ∧
        display.ShownAlike window (640, 320) terminal ∧
        display.ShownAlike
          { window with device := window.device.resized (Canvas.create (100, 50)) } (100, 50)
          terminal := by
  intro display
  let window : Host (Window Raster) := { device := Window.create 10 "PONG" }
  let terminal : Host Terminal := { device := { screen := .blank 24 80 fun _ _ => false } }
  have clean : window.device.title.contains '\x00' = false := by
    simp [window, Window.create, Window.titleFor]
    decide
  have reliable : ∀ earlier call, terminal.device.screen.fails earlier call = false :=
    fun _ _ => rfl
  have agree : display.ViewsAgree Raster := viewsAgree display
  obtain ⟨window', terminal', onWindow, onTerminal, shown, _, resized⟩ :=
    agree.opened clean reliable
  exact ⟨inferInstance, window', terminal', onWindow, onTerminal, shown, resized _⟩

end Display

end Chip8
