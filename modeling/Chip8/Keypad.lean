import Chip8.Text.Hex

/-!
# The keypad

Sixteen keys with two views of what is held: events change the staged view, and the run loop
captures it once a cycle, so that the machine never sees half of a change.  Beside them one fresh
press is latched, the latest one, until it is taken: only a press that finds its key up is fresh.
-/

namespace Chip8

/-- A set of keys; bit `k` stands for key `k`. -/
abbrev KeySet := BitVec 16

def KeySet.count : Nat := 16

def KeySet.all : KeySet := BitVec.allOnes 16

def KeySet.ofInt (mask : Int) : KeySet := BitVec.ofInt 16 mask

def KeySet.single (key : Fin 16) : KeySet := BitVec.twoPow 16 key

def KeySet.has (keys : KeySet) (key : Fin 16) : Bool := keys.getLsbD key

theorem KeySet.has_single (key other : Fin 16) :
    (KeySet.single key).has other = decide (key = other) := by
  simp only [KeySet.has, KeySet.single, BitVec.getLsbD_twoPow, key.isLt, decide_true, Bool.true_and]
  exact decide_eq_decide.mpr Fin.val_inj

/-- Held keys as the host last reported and as the machine last saw them, and the fresh press. -/
structure Keypad where
  staged : KeySet := 0
  captured : KeySet := 0
  pressed : Option (Fin 16) := none
  deriving DecidableEq, Repr

namespace Keypad

def capture (keypad : Keypad) : Keypad := { keypad with captured := keypad.staged }

/-- A key goes down; the press is fresh if the key was up. -/
def press (keypad : Keypad) (key : Fin 16) : Keypad :=
  { keypad with
    staged := keypad.staged ||| KeySet.single key
    pressed := if keypad.staged.has key then keypad.pressed else some key }

def release (keypad : Keypad) (key : Fin 16) : Keypad :=
  { keypad with staged := keypad.staged &&& ~~~KeySet.single key }

def key? (number : Int) : Option (Fin 16) :=
  if inside : 0 ≤ number ∧ number < 16 then some ⟨number.toNat, by omega⟩ else none

/-- An event for the key with the given number; other numbers change nothing. -/
def raise (keypad : Keypad) (number : Int) (down : Bool) : Keypad :=
  match key? number with
  | none => keypad
  | some key => if down then keypad.press key else keypad.release key

def take (keypad : Keypad) : Option (Fin 16) × Keypad :=
  (keypad.pressed, { keypad with pressed := none })

def clear (_ : Keypad) : Keypad := {}

/-- A change that an input source makes to a keypad. -/
inductive Event where
  | raise (number : Int) (down : Bool)
  | clear
  deriving DecidableEq, Repr

def happen (keypad : Keypad) : Event → Keypad
  | .raise number down => keypad.raise number down
  | .clear => keypad.clear

def happenAll (keypad : Keypad) (events : List Event) : Keypad := events.foldl happen keypad

def description (keypad : Keypad) : String :=
  s!"KeypadState(mask={Hex.padded 4 keypad.captured.toNat})"

theorem key?_val (key : Fin 16) : key? key.val = some key := by
  have inside : 0 ≤ (key.val : Int) ∧ (key.val : Int) < 16 := by omega
  rw [key?, dif_pos inside]
  rfl

theorem eq_of_key? {number : Int} {key : Fin 16} (named : key? number = some key) :
    number = key.val := by
  rw [key?] at named
  split at named
  · cases named
    simp only
    omega
  · cases named

theorem has_press (keypad : Keypad) (key other : Fin 16) :
    (keypad.press key).staged.has other = (keypad.staged.has other || decide (key = other)) := by
  have single := KeySet.has_single key other
  simp only [KeySet.has] at single
  simp only [press, KeySet.has, BitVec.getLsbD_or, single]

theorem has_release (keypad : Keypad) (key other : Fin 16) :
    (keypad.release key).staged.has other = (keypad.staged.has other && !decide (key = other)) := by
  have single := KeySet.has_single key other
  simp only [KeySet.has] at single
  simp only [release, KeySet.has, BitVec.getLsbD_and, BitVec.getLsbD_not, single, other.isLt,
    decide_true, Bool.true_and]

end Keypad

end Chip8
