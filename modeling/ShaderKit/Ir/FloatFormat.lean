import ShaderKit.Ir.Scalar

/-!
# Binary formats of floats

Which bits stand for a fraction: exactly, or for the value nearest to it.  All of it is arithmetic on
natural numbers, so that nothing is rounded twice.
-/

namespace ShaderKit.Ir

/-- A binary floating-point format. -/
structure FloatFormat where
  /-- Bits of a significand, the leading one among them. -/
  precision : Nat
  /-- The exponent of the least positive value. -/
  least : Int
  /-- All values are below two to this power. -/
  limit : Int
  deriving DecidableEq

namespace FloatFormat

/-- Floats of 32 bits. -/
def single : FloatFormat := ⟨24, -149, 128⟩

/-- Floats of 64 bits. -/
def double : FloatFormat := ⟨53, -1074, 1024⟩

/-- The greatest power of two that is not above a positive fraction. -/
def leadingExponent (num den : Nat) : Int :=
  let guess : Int := num.log2 - den.log2
  let reached := if 0 ≤ guess then den * twoPow guess.toNat ≤ num
    else den ≤ num * twoPow (-guess).toNat
  if reached then guess else guess - 1

/-- The exponent of the last bit of values that are about as great as a fraction. -/
def unit (f : FloatFormat) (num den : Nat) : Int :=
  max f.least (leadingExponent num den - (f.precision - 1 : Int))

/-- A fraction in units of a power of two. -/
def inUnits (num den : Nat) (exponent : Int) : Nat × Nat :=
  if 0 ≤ exponent then (num, den * twoPow exponent.toNat)
  else (num * twoPow (-exponent).toNat, den)

/-- The exponent field of infinity, which is the last one. -/
def lastField (f : FloatFormat) : Nat := (f.limit - f.precision - f.least + 2).toNat

/-- The bits of infinity. -/
def infinity (f : FloatFormat) : Nat := f.lastField * twoPow (f.precision - 1)

/-- The bit that says that a value is negative. -/
def signBit (f : FloatFormat) : Nat := (f.lastField + 1) * twoPow (f.precision - 1)

/-- The bits of a significand with the exponent of its last bit.  A significand that has grown by one bit
in rounding gives the bits of the next power of two. -/
def pack (f : FloatFormat) (significand : Nat) (exponent : Int) : Option Nat :=
  let hidden := twoPow (f.precision - 1)
  let bits := if significand < hidden then significand
    else (exponent - f.least).toNat * hidden + significand
  if bits < f.infinity then some bits else none

/-- The bits of exactly this fraction, if it has any. -/
def exactBits? (f : FloatFormat) (num den : Nat) : Option Nat :=
  if num = 0 then some 0
  else
    let exponent := f.unit num den
    let (a, b) := inUnits num den exponent
    if a % b = 0 then f.pack (a / b) exponent else none

/-- The bits of the value nearest to a fraction; of two it is the one with an even significand.  Fractions
beyond all values have none. -/
def nearestBits? (f : FloatFormat) (num den : Nat) : Option Nat :=
  if num = 0 then some 0
  else
    let exponent := f.unit num den
    let (a, b) := inUnits num den exponent
    let low := a / b
    let rest := 2 * (a % b)
    let isUp := b < rest || (rest == b && low % 2 == 1)
    f.pack (if isUp then low + 1 else low) exponent

/-- The significand of the magnitude of a value, with the exponent of its last bit. -/
def magnitude (f : FloatFormat) (bits : Nat) : Nat × Int :=
  let hidden := twoPow (f.precision - 1)
  let field := bits / hidden % (f.lastField + 1)
  let fraction := bits % hidden
  if field = 0 then (fraction, f.least) else (hidden + fraction, f.least + field - 1)

end FloatFormat

end ShaderKit.Ir
