import Chip8.Proofs.Display.Packing
import Chip8.Proofs.Host.Action
import Chip8.Terminal.Basic

namespace Chip8.Terminal

open Chip8.Action (run_bind)

namespace Screen

def cell (screen : Screen) (row column : Nat) : Option Char :=
  screen.grid[row]?.bind fun cells => cells[column]?

structure Fitted (screen : Screen) : Prop where
  rows : screen.grid.size = screen.rows.toNat
  columns : ∀ {row : Nat} {line : Array Char}, screen.grid[row]? = some line →
    line.size = screen.columns.toNat

theorem size_overwrite (cells : Array Char) (column : Nat) (text : List Char) :
    (overwrite cells column text).size = cells.size := by
  induction text generalizing cells column with
  | nil => rfl
  | cons c rest ih => rw [overwrite, ih, Array.size_setIfInBounds]

theorem getElem?_overwrite (cells : Array Char) (column : Nat) (text : List Char) {place : Nat}
    (inside : place < cells.size) :
    (overwrite cells column text)[place]? =
      if column ≤ place ∧ place < column + text.length then text[place - column]?
      else cells[place]? := by
  induction text generalizing cells column with
  | nil =>
      rw [if_neg (by simp)]
      rfl
  | cons c rest ih =>
      rw [overwrite, ih _ _ (by rwa [Array.size_setIfInBounds]), List.length_cons]
      rcases Nat.lt_trichotomy place column with before | same | after
      · rw [if_neg (by omega), if_neg (by omega), Array.getElem?_setIfInBounds_ne (by omega)]
      · subst same
        rw [if_neg (by omega), if_pos (by omega), Array.getElem?_setIfInBounds_self_of_lt inside]
        simp
      · obtain ⟨offset, rfl⟩ : ∃ offset, place = column + 1 + offset :=
          ⟨place - (column + 1), by omega⟩
        have shift : column + 1 + offset - column = offset + 1 := by omega
        by_cases covered : offset < rest.length
        · rw [if_pos (by omega), if_pos (by omega), shift, List.getElem?_cons_succ,
            Nat.add_sub_cancel_left]
        · rw [if_neg (by omega), if_neg (by omega), Array.getElem?_setIfInBounds_ne (by omega)]

variable {screen : Screen} {row column : Nat}

theorem Fitted.put (fitted : screen.Fitted) (row column : Nat) (text : List Char) :
    (screen.put row column text).2.Fitted := by
  rw [Screen.put]
  split
  · exact fitted
  · refine ⟨Array.size_modify.trans fitted.rows, ?_⟩
    intro place line found
    rw [Array.getElem?_modify] at found
    split at found
    · obtain ⟨old, there, rfl⟩ := Option.map_eq_some_iff.mp found
      exact (size_overwrite old column text).trans (fitted.columns there)
    · exact fitted.columns found

theorem cell_put (fitted : screen.Fitted) {r c : Nat} (row_lt : r < screen.rows)
    (column_lt : c < screen.columns) (text : List Char) :
    (screen.put row column text).2.cell r c =
      if r = row ∧ column ≤ c ∧ c < column + text.length then text[c - column]?
      else screen.cell r c := by
  rw [Screen.put]
  split
  · rename_i outside
    rw [if_neg (by omega)]
  · simp only [cell, Array.getElem?_modify]
    by_cases same : row = r
    · subst same
      have inside : row < screen.grid.size := by
        rw [fitted.rows]
        omega
      have found := Array.getElem?_eq_getElem inside
      have wide := fitted.columns found
      rw [if_pos rfl, found, Option.map_some, Option.bind_some, Option.bind_some,
        getElem?_overwrite _ column text (by omega)]
      simp
    · rw [if_neg same, if_neg (by omega)]

theorem put_eq (screen : Screen) (row column : Nat) (text : List Char) :
    ∃ grid, (screen.put row column text).2 = { screen with grid } := by
  rw [put]
  split
  · exact ⟨screen.grid, rfl⟩
  · exact ⟨_, rfl⟩

end Screen

/-- The terminal is open, and drawing on it does not fail. -/
structure Works (terminal : Terminal) : Prop where
  isOpen : terminal.isOpen = true
  fitted : terminal.screen.Fitted
  writes : ∀ earlier row column, terminal.screen.fails earlier (.write row column) = false
  refreshes : ∀ earlier, terminal.screen.fails earlier .refresh = false

structure WorksOn (before after : Terminal) : Prop where
  works : after.Works
  rows : after.screen.rows = before.screen.rows
  columns : after.screen.columns = before.screen.columns

theorem WorksOn.trans {before between after : Terminal} (first : WorksOn before between)
    (second : WorksOn between after) : WorksOn before after :=
  ⟨second.works, second.rows.trans first.rows, second.columns.trans first.columns⟩

variable {host : Host Terminal}

theorem run_attempt (call : Call) : (attempt call).run.run host =
    (.ok (!host.device.screen.fails host.device.screen.calls call),
      { host with device := { host.device with screen := (host.device.screen.call call).2 } }) := rfl

theorem run_write_eq (row column : Nat) (text : List Char)
    (succeeds : host.device.screen.fails host.device.screen.calls (.write row column) = false) :
    (write row column text).run.run host =
      let called := (host.device.screen.call (.write row column)).2
      (.ok (), { host with
        device := { host.device with screen := (called.put row column text).2 } }) := by
  rw [write, run_bind, run_attempt, succeeds]
  rfl

theorem run_write (works : host.device.Works) (row column : Nat) (text : List Char) :
    ∃ after, (write row column text).run.run host = (.ok (), after) ∧
      WorksOn host.device after.device ∧
      ∀ {r c : Nat}, r < host.device.screen.rows → c < host.device.screen.columns →
        after.device.screen.cell r c =
          if r = row ∧ column ≤ c ∧ c < column + text.length then text[c - column]?
          else host.device.screen.cell r c := by
  let called := (host.device.screen.call (.write row column)).2
  have fitted : called.Fitted := ⟨works.fitted.rows, works.fitted.columns⟩
  let put := (called.put row column text).2
  have kept : ∃ grid, put = { called with grid } := called.put_eq row column text
  refine ⟨_, run_write_eq row column text (works.writes _ _ _), ?_, ?_⟩
  · obtain ⟨grid, kept⟩ := kept
    have fits : put.Fitted := fitted.put row column text
    change WorksOn host.device { host.device with screen := put }
    rw [kept] at fits ⊢
    exact ⟨⟨works.isOpen, fits, works.writes, works.refreshes⟩, rfl, rfl⟩
  · intro r c row_lt column_lt
    exact Screen.cell_put fitted row_lt column_lt text

/-- Lines that are written one below the other stand there, and above them nothing changes. -/
theorem run_writeLines (works : host.device.Works) (lines : List (List Char)) (start : Nat) :
    ∃ after, ((lines.zipIdx start).forM fun (line, row) => write row 1 line).run.run host =
        (.ok (), after) ∧
      WorksOn host.device after.device ∧
      (∀ r < start, ∀ {c : Nat}, r < host.device.screen.rows → c < host.device.screen.columns →
        after.device.screen.cell r c = host.device.screen.cell r c) ∧
      ∀ {place x : Nat} {text : List Char} {glyph : Char},
        lines[place]? = some text → text[x]? = some glyph →
        start + place < host.device.screen.rows → 1 + x < host.device.screen.columns →
        after.device.screen.cell (start + place) (1 + x) = some glyph := by
  induction lines generalizing start host with
  | nil => exact ⟨host, rfl, ⟨works, rfl, rfl⟩, fun _ _ _ _ _ => rfl, fun found => by cases found⟩
  | cons first rest ih =>
      obtain ⟨written, ran, worksOn, cells⟩ := run_write works start 1 first
      obtain ⟨after, ranRest, worksRest, above, below⟩ := ih worksOn.works (start + 1)
      rw [worksOn.rows, worksOn.columns] at above below
      refine ⟨after, ?_, worksOn.trans worksRest, ?_, ?_⟩
      · rw [List.zipIdx_cons, List.forM, run_bind, ran]
        exact ranRest
      · intro r early c row_lt column_lt
        rw [above r (by omega) row_lt column_lt, cells row_lt column_lt, if_neg (by omega)]
      · intro place x text glyph found shown row_lt column_lt
        cases place with
        | zero =>
            cases found
            have inside : x < first.length := (List.getElem?_eq_some_iff.mp shown).1
            rw [Nat.add_zero, above start (by omega) (by omega) (by omega),
              cells (by omega) (by omega), if_pos (by omega), Nat.add_sub_cancel_left, shown]
        | succ place =>
            have under := below found shown (by omega) column_lt
            rwa [Nat.add_right_comm] at under

/-- Inside its box the terminal shows the characters of the picture, as far as there is room. -/
theorem run_draw (works : host.device.Works) (display : Display) :
    ∃ after, (drawBytes display.toBytes).run.run host = (.ok (), after) ∧
      WorksOn host.device after.device ∧
      ∀ {line x : Nat} {glyph : Char},
        (display.pixelRows.textLines[line]?.bind fun text => text[x]?) = some glyph →
        1 + line < host.device.screen.rows → 1 + x < host.device.screen.columns →
        after.device.screen.cell (1 + line) (1 + x) = some glyph := by
  obtain ⟨written, ran, worksOn, _, cells⟩ := run_writeLines works display.pixelRows.textLines 1
  let screen := (written.device.screen.call .refresh).2
  refine ⟨{ written with device := { written.device with screen } }, ?_, ?_, ?_⟩
  · have refreshed : (require .refresh).run.run written =
        (.ok (), { written with device := { written.device with screen } }) := by
      rw [require, run_bind, run_attempt, worksOn.works.refreshes]
      rfl
    rw [drawBytes, Action.run_get, works.isOpen, Display.unpack_toBytes]
    let showLines : Action (Host Terminal) Unit :=
      (display.pixelRows.textLines.zipIdx 1).forM fun (line, row) => write row 1 line
    have shown : showLines.run.run host = (.ok (), written) := ran
    change (showLines >>= fun _ => require .refresh).run.run host = _
    rw [run_bind, shown]
    exact refreshed
  · obtain ⟨isOpen, fitted, writes, refreshes⟩ := worksOn.works
    exact ⟨⟨isOpen, ⟨fitted.rows, fitted.columns⟩, writes, refreshes⟩,
      worksOn.rows, worksOn.columns⟩
  · intro line x glyph found row_lt column_lt
    obtain ⟨text, there, shown⟩ := Option.bind_eq_some_iff.mp found
    exact cells there shown row_lt column_lt

end Chip8.Terminal
