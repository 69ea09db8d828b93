namespace Chip8.Terminal

inductive Call where
  | openScreen
  | noEcho
  | rawInput
  | keypadMode (on : Bool)
  | noDelay (on : Bool)
  | escapeDelay (millis : Nat)
  | cursor (visibility : Nat)
  | clear
  | refresh
  | lineInput
  | echo
  | closeScreen
  | size
  | write (row column : Nat)
  | threadStart (name : String)
  | threadJoin (timeout : Int) (stopping : Bool)
  deriving DecidableEq, Repr

def Call.name : Call → String
  | openScreen => "initscr"
  | noEcho => "noecho"
  | rawInput => "cbreak"
  | keypadMode _ => "keypad"
  | noDelay _ => "nodelay"
  | escapeDelay _ => "set_escdelay"
  | cursor _ => "curs_set"
  | clear => "clear"
  | refresh => "refresh"
  | lineInput => "nocbreak"
  | echo => "echo"
  | closeScreen => "endwin"
  | size => "getmaxyx"
  | write _ _ => "addstr"
  | threadStart _ => "thread_start"
  | threadJoin _ _ => "thread_join"

/-- The screen, its pending key codes, and its calls so far, the latest first. -/
structure Screen where
  /-- The size as the terminal tells it; there is no room on a screen of negative size. -/
  rows : Int := 24
  columns : Int := 80
  grid : Array (Array Char) := ∅
  pending : List Int := []
  calls : List Call := []
  /-- Which calls fail: told by the calls before and the call itself. -/
  fails : List Call → Call → Bool := fun _ _ => false

namespace Screen

def cleared (screen : Screen) : Screen :=
  let line := Array.replicate screen.columns.toNat ' '
  { screen with grid := Array.replicate screen.rows.toNat line }

def blank (rows columns : Int) (fails : List Call → Call → Bool) : Screen :=
  cleared { rows, columns, fails }

def call (screen : Screen) (call : Call) : Bool × Screen :=
  (!screen.fails screen.calls call, { screen with calls := call :: screen.calls })

def overwrite (line : Array Char) (column : Nat) : List Char → Array Char
  | [] => line
  | c :: rest => overwrite (line.setIfInBounds column c) (column + 1) rest

/-- Writes a text into a row; tells whether there was room for all of it.  A text may not start
outside the screen, pass its right edge, or end exactly at its last cell. -/
def put (screen : Screen) (row column : Nat) (text : List Char) : Bool × Screen :=
  if screen.rows ≤ row ∨ screen.columns ≤ column then
    (false, screen)
  else
    let stop : Int := column + text.length
    let fits := decide (stop < screen.columns ∨ stop = screen.columns ∧ row + 1 ≠ screen.rows)
    (fits, { screen with grid := screen.grid.modify row (overwrite · column text) })

def lines (screen : Screen) : List (List Char) :=
  screen.grid.toList.map fun line => (line.toList.reverse.dropWhile (· = ' ')).reverse

end Screen

end Chip8.Terminal
