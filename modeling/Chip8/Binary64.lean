/-!
# Exact work with binary64 numbers

A finite binary64 number is `± m · 2 ^ e`, with `m` below `2 ^ 53`.  Here quotients of integers are
rounded to the nearest such number, ties to the even one, and such numbers are turned back into
integers, all in exact integer arithmetic.
-/

namespace Chip8.Binary64

def implicitBit : Nat := 0x10000000000000

def minExponent : Int := -1074

/-- `numerator / denominator`, rounded to the nearest integer, a tie to the even one. -/
def roundedQuotient (numerator denominator : Nat) : Nat :=
  let quotient := numerator / denominator
  let rest := numerator % denominator
  if 2 * rest > denominator ∨ (2 * rest = denominator ∧ quotient % 2 = 1) then
    quotient + 1
  else
    quotient

def scaled (numerator denominator : Nat) (exponent : Int) : Nat × Nat :=
  if 0 ≤ exponent then
    (numerator, denominator <<< exponent.toNat)
  else
    (numerator <<< (-exponent).toNat, denominator)

/-- The exponent for which the quotient scaled by it has 53 binary digits, or the least exponent if
that is greater. -/
def exponentFor (numerator denominator : Nat) : Int :=
  let guess : Int := (numerator.log2 : Int) - denominator.log2 - 52
  let (upper, lower) := scaled numerator denominator guess
  max minExponent (if upper / lower < implicitBit then guess - 1 else guess)

def pattern? (significand : Nat) (exponent : Int) : Option Nat :=
  if significand < implicitBit then
    some significand
  else
    let bits := (exponent + 1075).toNat * implicitBit + (significand - implicitBit)
    if bits < 2047 * implicitBit then some bits else none

/-- The number nearest to a quotient, unless the quotient is too large for any.  Zero by a negative
number is the negative zero.  The denominator must not be zero. -/
def ofRatio? (numerator denominator : Int) : Option Float :=
  let magnitude? : Option Float :=
    if numerator = 0 then
      some 0.0
    else
      let exponent := exponentFor numerator.natAbs denominator.natAbs
      let (upper, lower) := scaled numerator.natAbs denominator.natAbs exponent
      (pattern? (roundedQuotient upper lower) exponent).map fun bits =>
        Float.ofBits (UInt64.ofNat bits)
  let negative := decide (numerator < 0) != decide (denominator < 0)
  magnitude?.map fun magnitude => if negative then -magnitude else magnitude

inductive RatioError where
  | divisionByZero
  | tooLarge
  deriving DecidableEq, Repr

def RatioError.message : RatioError → String
  | divisionByZero => "division by zero"
  | tooLarge => "integer division result too large for a float"

def ofRatio (numerator denominator : Int) : Except RatioError Float :=
  if denominator = 0 then .error .divisionByZero
  else
    match ofRatio? numerator denominator with
    | some number => .ok number
    | none => .error .tooLarge

def ofInt? (value : Int) : Option Float := ofRatio? value 1

structure Parts where
  negative : Bool
  significand : Nat
  exponent : Int
  deriving Repr

def parts? (number : Float) : Option Parts :=
  let bits := number.toBits.toNat
  let negative := decide (0x8000000000000000 ≤ bits)
  let biased : Nat := bits / implicitBit % 2048
  let fraction : Nat := bits % implicitBit
  if biased = 2047 then none
  else if biased = 0 then some ⟨negative, fraction, minExponent⟩
  else some ⟨negative, implicitBit + fraction, (biased : Int) - 1075⟩

/-- A finite number without its fraction. -/
def truncate? (number : Float) : Option Int :=
  (parts? number).map fun parts =>
    let (upper, lower) := scaled parts.significand 1 (-parts.exponent)
    let magnitude : Int := (upper / lower : Nat)
    if parts.negative then -magnitude else magnitude

def roundedText (number : Float) : String :=
  match parts? number with
  | some parts =>
    let (upper, lower) := scaled parts.significand 1 (-parts.exponent)
    let sign := if parts.negative then "-" else ""
    s!"{sign}{roundedQuotient upper lower}"
  | none =>
    if number != number then "nan"
    else if number < 0 then "-inf"
    else "inf"

end Chip8.Binary64
