import ShaderKit.Ir.FloatFormat

/-!
# Number literals

A decimal or hexadecimal number with an optional suffix for its type.  Without a suffix a number is
abstract: an integer unless it has a point or an exponent.  Decimal floats are rounded to the nearest value
of their type, and hexadecimal ones have to be values of it.
-/

namespace ShaderKit.Wgsl

open Ir (FloatFormat Literal twoPow)

/-- What is wrong with a number. -/
inductive NumberFault
  /-- No number of its type is that large. -/
  | outOfRange
  | malformed
  /-- Numbers with 16 bits are not known. -/
  | half
  deriving DecidableEq

namespace Number

/-- A digit to base 16. -/
def isHexDigit (c : Char) : Bool :=
  c.isDigit || ('a' ≤ c && c ≤ 'f') || ('A' ≤ c && c ≤ 'F')

/-- The number that a digit stands for. -/
def digitValue (c : Char) : Nat :=
  if c.isDigit then c.toNat - '0'.toNat
  else if 'a' ≤ c then c.toNat - 'a'.toNat + 10
  else c.toNat - 'A'.toNat + 10

/-- The number that digits stand for. -/
def ofDigits (base : Nat) (digits : List Char) : Nat :=
  digits.foldl (fun n c => n * base + digitValue c) 0

/-- A number without its suffix: its value is `mantissa * base ^ exponent`. -/
structure Unsuffixed where
  mantissa : Nat
  /-- A power of ten, or of two for a hexadecimal number. -/
  exponent : Int := 0
  isHex : Bool := false
  /-- There is a point or an exponent. -/
  isFraction : Bool := false
  /-- A letter that follows can be the suffix of a float. -/
  allowsFloat : Bool := true
  /-- A letter that follows can be the suffix of an integer. -/
  allowsInteger : Bool := true

/-- The digits after a point, if there is one. -/
def fraction (isDigit : Char → Bool) : List Char → Option (List Char) × List Char
  | '.' :: rest => (some (rest.takeWhile isDigit), rest.dropWhile isDigit)
  | cs => (none, cs)

/-- A signed exponent after one of the given letters; there has to be a digit. -/
def exponent (letters : List Char) : List Char → Except NumberFault (Option Int) × List Char
  | [] => (.ok none, [])
  | c :: rest =>
    if !letters.contains c then (.ok none, c :: rest)
    else
      let (sign, digits) : Int × List Char := match rest with
        | '-' :: r => (-1, r)
        | '+' :: r => (1, r)
        | r => (1, r)
      let ds := digits.takeWhile Char.isDigit
      let rest := digits.dropWhile Char.isDigit
      if ds.isEmpty then (.error .malformed, rest)
      else (.ok (some (sign * ofDigits 10 ds)), rest)

/-- A decimal number.  Without a point and an exponent it does not start with a zero, unless that is
all. -/
def decimal (cs : List Char) : Except NumberFault Unsuffixed × List Char :=
  let whole := cs.takeWhile Char.isDigit
  let (part, rest) := fraction Char.isDigit (cs.dropWhile Char.isDigit)
  let digits := part.getD []
  if (whole ++ digits).isEmpty then (.error .malformed, rest)
  else match exponent ['e', 'E'] rest with
    | (.error fault, rest) => (.error fault, rest)
    | (.ok power, rest) =>
      let isFraction := part.isSome || power.isSome
      if !isFraction && 1 < whole.length && whole.head? == some '0' then (.error .malformed, rest)
      else
        (.ok { mantissa := ofDigits 10 (whole ++ digits)
               exponent := power.getD 0 - digits.length
               isFraction
               allowsInteger := !isFraction }, rest)

/-- What exponents of hexadecimal numbers are below. -/
def exponentLimit : Nat := twoPow 63

/-- A hexadecimal number, after its prefix.  Its digits make a number of 64 bits, where zeros at the end of
the fraction do not count. -/
def hexadecimal (cs : List Char) : Except NumberFault Unsuffixed × List Char :=
  let whole := cs.takeWhile isHexDigit
  let (part, rest) := fraction isHexDigit (cs.dropWhile isHexDigit)
  let digits := part.getD []
  if (whole ++ digits).isEmpty then (.error .malformed, rest)
  else match exponent ['p', 'P'] rest with
    | (.error fault, rest) => (.error fault, rest)
    | (.ok power, rest) =>
      let significant := (digits.reverse.dropWhile (· == '0')).reverse
      let mantissa := ofDigits 16 (whole ++ significant)
      let isFraction := part.isSome || power.isSome
      if isFraction && (twoPow 64 ≤ mantissa || exponentLimit ≤ (power.getD 0).natAbs) then
        (.error .outOfRange, rest)
      else
        (.ok { mantissa
               exponent := power.getD 0 - 4 * significant.length
               isHex := true
               isFraction
               allowsFloat := power.isSome
               allowsInteger := !isFraction }, rest)

/-- What the suffix of a number says about its type. -/
inductive Suffix
  | none | i | u | f | h | li | lu | lf
  deriving DecidableEq

/-- The suffix of a number, if its form allows it, and the rest. -/
def suffix (n : Unsuffixed) : List Char → Suffix × List Char
  | 'l' :: 'i' :: rest => if n.allowsInteger then (.li, rest) else (.none, 'l' :: 'i' :: rest)
  | 'l' :: 'u' :: rest => if n.allowsInteger then (.lu, rest) else (.none, 'l' :: 'u' :: rest)
  | 'i' :: rest => if n.allowsInteger then (.i, rest) else (.none, 'i' :: rest)
  | 'u' :: rest => if n.allowsInteger then (.u, rest) else (.none, 'u' :: rest)
  | 'l' :: 'f' :: rest => if n.allowsFloat then (.lf, rest) else (.none, 'l' :: 'f' :: rest)
  | 'f' :: rest => if n.allowsFloat then (.f, rest) else (.none, 'f' :: rest)
  | 'h' :: rest => if n.allowsFloat then (.h, rest) else (.none, 'h' :: rest)
  | cs => (.none, cs)

/-- Decimal exponents that no float comes near. -/
def farDecimal : Nat := 400

/-- The value as a fraction.  A decimal number that is beyond all floats is some power of ten that is, too,
and one that is next to nothing is zero. -/
def Unsuffixed.ratio (n : Unsuffixed) : Nat × Nat :=
  let size : Int := n.exponent + (Nat.toDigits 10 n.mantissa).length
  let power := fun base : Nat => Nat.pow base n.exponent.natAbs
  if n.mantissa = 0 then (0, 1)
  else if !n.isHex && (farDecimal : Int) < size then (Nat.pow 10 farDecimal, 1)
  else if !n.isHex && size < -(farDecimal : Int) then (0, 1)
  else
    let base := if n.isHex then 2 else 10
    if 0 ≤ n.exponent then (n.mantissa * power base, 1) else (n.mantissa, power base)

/-- The bits of a float.  A hexadecimal number has to be exactly in the format. -/
def Unsuffixed.bits? (n : Unsuffixed) (format : FloatFormat) : Option Nat :=
  if n.isHex then
    let leading : Int := n.mantissa.log2 + n.exponent
    if n.mantissa = 0 then some 0
    else if leading < format.least ∨ format.limit ≤ leading then none
    else
      let (num, den) := n.ratio
      format.exactBits? num den
  else
    let (num, den) := n.ratio
    format.nearestBits? num den

/-- An integer literal below a bound. -/
def integer (n : Unsuffixed) (bound : Nat) (make : Nat → Literal) : Except NumberFault Literal :=
  if n.mantissa < bound then .ok (make n.mantissa) else .error .outOfRange

/-- A float literal of a format. -/
def float (n : Unsuffixed) (format : FloatFormat) (make : Nat → Literal) :
    Except NumberFault Literal :=
  match n.bits? format with
  | some bits => .ok (make bits)
  | none => .error .outOfRange

/-- The literal that a number with a suffix stands for. -/
def literal (n : Unsuffixed) : Suffix → Except NumberFault Literal
  | .none =>
    if n.isFraction then float n .double fun bits => .abstractFloat (UInt64.ofNat bits)
    else integer n (twoPow 63) fun v => .abstractInt (Int64.ofNat v)
  | .i => integer n (twoPow 31) fun v => .i32 (Int32.ofNat v)
  | .u => integer n (twoPow 32) fun v => .u32 (UInt32.ofNat v)
  | .li => integer n (twoPow 63) fun v => .i64 (Int64.ofNat v)
  | .lu => integer n (twoPow 64) fun v => .u64 (UInt64.ofNat v)
  | .f => float n .single fun bits => .f32 (UInt32.ofNat bits)
  | .lf => float n .double fun bits => .f64 (UInt64.ofNat bits)
  | .h => .error .half

/-- Reads the number that starts here. -/
def read (cs : List Char) : Except NumberFault Literal × List Char :=
  let (n, rest) := match cs with
    | '0' :: 'x' :: rest | '0' :: 'X' :: rest => hexadecimal rest
    | cs => decimal cs
  match n with
  | .error fault => (.error fault, rest)
  | .ok n =>
    let (s, rest) := suffix n rest
    (literal n s, rest)

end Number

end ShaderKit.Wgsl
