import ShaderKit.Ir.FloatFormat
import ShaderKit.Wgsl.Fault

/-!
# Arithmetic on literals

What operators make of numbers that are known.  Signed integers of 32 bits wrap; unsigned ones, and integers
without a type, have to stay in range.  Floats have to stay finite, unless they have no type.
-/

namespace ShaderKit.Wgsl

open Ir (BinaryOp FloatFormat Literal Scalar UnaryOp twoPow)

namespace Literal

/-- A literal as it is, unless it has a width and is not a finite number. -/
def checked (l : Literal) : Except ValueFault Literal :=
  let finite := match l with
    | .f32 bits => (Float32.ofBits bits).isFinite
    | .f64 bits => (Float.ofBits bits).isFinite
    | _ => true
  if finite then .ok l else .error .notFinite

/-- The place of the type of a literal, when literals of different types are compared. -/
def rank : Literal → Nat
  | .f64 _ => 0
  | .f32 _ => 1
  | .u32 _ => 2
  | .i32 _ => 3
  | .u64 _ => 4
  | .i64 _ => 5
  | .bool _ => 6
  | .abstractInt _ => 7
  | .abstractFloat _ => 8

/-- How floats compare, if they do. -/
def floatOrder (a b : Float) : Option Ordering :=
  if a < b then some .lt else if b < a then some .gt else if a == b then some .eq else none

/-- The order of two literals; none if one is not a number. -/
def order : Literal → Literal → Option Ordering
  | .u32 a, .u32 b => some (compare a b)
  | .i32 a, .i32 b => some (compare a b)
  | .u64 a, .u64 b => some (compare a b)
  | .i64 a, .i64 b | .abstractInt a, .abstractInt b => some (compare a b)
  | .f32 a, .f32 b => floatOrder (Float32.ofBits a).toFloat (Float32.ofBits b).toFloat
  | .f64 a, .f64 b | .abstractFloat a, .abstractFloat b =>
    floatOrder (Float.ofBits a) (Float.ofBits b)
  | .bool a, .bool b => some (compare a.toNat b.toNat)
  | a, b => some (compare (rank a) (rank b))

/-- The outcome of a comparison.  Floats are equal if their bits are. -/
def comparison? (op : BinaryOp) (a b : Literal) : Option Bool :=
  match op with
  | .equal => some (a == b)
  | .notEqual => some (a != b)
  | .less => some (order a b == some .lt)
  | .lessEqual => some (order a b == some .lt || order a b == some .eq)
  | .greater => some (order a b == some .gt)
  | .greaterEqual => some (order a b == some .gt || order a b == some .eq)
  | _ => none

/-- How integers of a type are computed with. -/
structure IntegerRule where
  bits : Nat
  isSigned : Bool
  /-- Results that are out of range are reduced; otherwise they are faults. -/
  wraps : Bool
  make : Int → Literal

namespace IntegerRule

/-- Signed integers of 32 bits; results that are out of range are reduced. -/
def i32 : IntegerRule := ⟨32, true, true, fun n => .i32 (Int32.ofInt n)⟩

/-- Unsigned integers of 32 bits; results that are out of range are faults. -/
def u32 : IntegerRule := ⟨32, false, false, fun n => .u32 (UInt32.ofInt n)⟩

/-- Integers whose type is still open. -/
def abstractInt : IntegerRule := ⟨64, true, false, fun n => .abstractInt (Int64.ofInt n)⟩

variable (r : IntegerRule)

/-- The integer is in range. -/
def contains (n : Int) : Bool :=
  if r.isSigned then decide (-(twoPow (r.bits - 1) : Int) ≤ n ∧ n < (twoPow (r.bits - 1) : Int))
  else decide (0 ≤ n ∧ n < (twoPow r.bits : Int))

/-- The literal of an integer, which has to be in range unless results wrap. -/
def result (n : Int) : Except ValueFault Literal :=
  if r.wraps || r.contains n then .ok (r.make n) else .error .overflow

/-- The bits of an integer. -/
def bitsOf (n : Int) : Nat := (n % (twoPow r.bits : Int)).toNat

/-- An operator on bits. -/
def bitwise (f : Nat → Nat → Nat) (a b : Int) : Except ValueFault Literal :=
  .ok (r.make (f (r.bitsOf a) (r.bitsOf b) : Nat))

/-- An operator on two integers. -/
def binary (op : BinaryOp) (a b : Int) : Except ValueFault Literal :=
  match op with
  | .add => r.result (a + b)
  | .subtract => r.result (a - b)
  | .multiply => r.result (a * b)
  | .divide => if b = 0 then .error .divisionByZero else r.result (a.tdiv b)
  | .modulo =>
    if b = 0 then .error .divisionByZero
    else do
      let _ ← r.result (a.tdiv b)
      return r.make (a.tmod b)
  | .and => r.bitwise (· &&& ·) a b
  | .exclusiveOr => r.bitwise (· ^^^ ·) a b
  | .inclusiveOr => r.bitwise (· ||| ·) a b
  | _ => .error .operands

/-- A shift never moves out bits that matter to the left. -/
def shift (op : BinaryOp) (a : Int) (count : Nat) : Except ValueFault Literal :=
  match op with
  | .shiftLeft =>
    let shifted := a * (twoPow count : Int)
    if r.bits ≤ count then .error .shift
    else if r.contains shifted then .ok (r.make shifted) else .error .overflow
  | .shiftRight =>
    if r.bits ≤ count then .error .shift else .ok (r.make (a / (twoPow count : Int)))
  | _ => .error .operands

end IntegerRule

/-- What is left of the magnitude `a` when the magnitude `b` is taken away as often as possible. -/
def remainderBits (format : FloatFormat) (a b : Nat) : Option Nat :=
  let (m, e) := format.magnitude a
  let (n, d) := format.magnitude b
  let unit := min e d
  let rest := (m * twoPow (e - unit).toNat) % (n * twoPow (d - unit).toNat)
  if 0 ≤ unit then format.exactBits? (rest * twoPow unit.toNat) 1
  else format.exactBits? rest (twoPow (-unit).toNat)

/-- The remainder of a division whose quotient is cut to its whole part; it has the sign of `a`. -/
def remainder (a b : Float) : Float :=
  if !a.isFinite || b.isNaN || b == 0 then 0 / 0
  else if !b.isFinite then a
  else
    let bits := (remainderBits .double a.abs.toBits.toNat b.abs.toBits.toNat).getD 0
    let magnitude := Float.ofBits (UInt64.ofNat bits)
    if a.toBits >>> 63 == 1 then -magnitude else magnitude

/-- An operator on two floats of four bytes. -/
def binarySingle (op : BinaryOp) (a b : Float32) : Except ValueFault Literal :=
  match op with
  | .add => .ok (.f32 (a + b).toBits)
  | .subtract => .ok (.f32 (a - b).toBits)
  | .multiply => .ok (.f32 (a * b).toBits)
  | .divide => .ok (.f32 (a / b).toBits)
  | .modulo => .ok (.f32 (remainder a.toFloat b.toFloat).toFloat32.toBits)
  | _ => .error .operands

/-- An operator on two floats whose type is still open. -/
def binaryAbstract (op : BinaryOp) (a b : Float) : Except ValueFault Literal :=
  match op with
  | .add => .ok (.abstractFloat (a + b).toBits)
  | .subtract => .ok (.abstractFloat (a - b).toBits)
  | .multiply => .ok (.abstractFloat (a * b).toBits)
  | .divide => .ok (.abstractFloat (a / b).toBits)
  | .modulo => .ok (.abstractFloat (remainder a b).toBits)
  | _ => .error .operands

/-- The result of an operation other than a comparison. -/
def arithmetic (op : BinaryOp) : Literal → Literal → Except ValueFault Literal
  | .i32 a, .i32 b => IntegerRule.i32.binary op a.toInt b.toInt
  | .i32 a, .u32 b => IntegerRule.i32.shift op a.toInt b.toNat
  | .u32 a, .u32 b =>
    if op = .shiftLeft ∨ op = .shiftRight then IntegerRule.u32.shift op a.toNat b.toNat
    else IntegerRule.u32.binary op a.toNat b.toNat
  | .abstractInt a, .u32 b => IntegerRule.abstractInt.shift op a.toInt b.toNat
  | .abstractInt a, .abstractInt b => IntegerRule.abstractInt.binary op a.toInt b.toInt
  | .f32 a, .f32 b => binarySingle op (Float32.ofBits a) (Float32.ofBits b)
  | .abstractFloat a, .abstractFloat b => binaryAbstract op (Float.ofBits a) (Float.ofBits b)
  | .bool a, .bool b => match op with
    | .logicalAnd => .ok (.bool (a && b))
    | .logicalOr => .ok (.bool (a || b))
    | _ => .error .operands
  | _, _ => .error .operands

/-- An operator on two literals. -/
def binary (op : BinaryOp) (a b : Literal) : Except ValueFault Literal :=
  match comparison? op a b with
  | some holds => .ok (.bool holds)
  | none => do checked (← arithmetic op a b)

/-- An operator on one literal. -/
def unary (op : UnaryOp) (l : Literal) : Except ValueFault Literal :=
  match op, l with
  | .negate, .i32 n => .ok (.i32 (-n))
  | .negate, .i64 n => .ok (.i64 (-n))
  | .negate, .abstractInt n => .ok (.abstractInt (-n))
  | .negate, .f32 bits => .ok (.f32 (bits ^^^ 0x80000000))
  | .negate, .abstractFloat bits => .ok (.abstractFloat (bits ^^^ 0x8000000000000000))
  | .logicalNot, .bool b => .ok (.bool !b)
  | .bitwiseNot, .i32 n => .ok (.i32 (~~~n))
  | .bitwiseNot, .u32 n => .ok (.u32 (~~~n))
  | .bitwiseNot, .i64 n => .ok (.i64 (~~~n))
  | .bitwiseNot, .u64 n => .ok (.u64 (~~~n))
  | .bitwiseNot, .abstractInt n => .ok (.abstractInt (~~~n))
  | _, _ => .error .unaryOperand

/-- The bits of an integer as a float, rounded. -/
def integerBits (format : FloatFormat) (n : Int) : Nat :=
  let bits := (format.nearestBits? n.natAbs 1).getD 0
  if n < 0 then format.signBit + bits else bits

/-- The float of four bytes that is nearest to an integer. -/
def single (n : Int) : Literal := .f32 (UInt32.ofNat (integerBits .single n))

/-- The bits of the float of eight bytes that is nearest to an integer. -/
def double (n : Int) : UInt64 := UInt64.ofNat (integerBits .double n)

/-- An integer without a type as one that has a type. -/
def inRange (r : IntegerRule) (n : Int64) : Except ValueFault Literal :=
  if r.contains n.toInt then .ok (r.make n.toInt) else .error .lossy

/-- A literal as a value of another type.  A number without a type has to be in range; others are reduced
or moved into it. -/
def convert (target : Scalar) (l : Literal) : Except ValueFault Literal := do
  let refused : Except ValueFault Literal := .error .cast
  let converted ←
    if target = .i32 then match l with
      | .i32 n => .ok (.i32 n)
      | .u32 n => .ok (.i32 n.toInt32)
      | .f32 bits => .ok (.i32 (Float32.ofBits bits).toInt32)
      | .bool b => .ok (.i32 (if b then 1 else 0))
      | .abstractInt n => inRange .i32 n
      | .abstractFloat bits => .ok (.i32 (Float.ofBits bits).toInt32)
      | _ => refused
    else if target = .u32 then match l with
      | .i32 n => .ok (.u32 n.toUInt32)
      | .u32 n => .ok (.u32 n)
      | .f32 bits => .ok (.u32 (Float32.ofBits bits).toUInt32)
      | .bool b => .ok (.u32 (if b then 1 else 0))
      | .abstractInt n => inRange .u32 n
      | .abstractFloat bits => .ok (.u32 (Float.ofBits bits).toUInt32)
      | _ => refused
    else if target = .i64 then match l with
      | .i32 n => .ok (.i64 n.toInt64)
      | .u32 n => .ok (.i64 n.toUInt64.toInt64)
      | .i64 n | .abstractInt n => .ok (.i64 n)
      | .u64 n => .ok (.i64 n.toInt64)
      | .f32 bits => .ok (.i64 (Float32.ofBits bits).toFloat.toInt64)
      | .f64 bits | .abstractFloat bits => .ok (.i64 (Float.ofBits bits).toInt64)
      | .bool b => .ok (.i64 (if b then 1 else 0))
    else if target = .u64 then match l with
      | .i32 n => .ok (.u64 n.toInt64.toUInt64)
      | .u32 n => .ok (.u64 n.toUInt64)
      | .i64 n => .ok (.u64 n.toUInt64)
      | .abstractInt n => if 0 ≤ n then .ok (.u64 n.toUInt64) else .error .lossy
      | .u64 n => .ok (.u64 n)
      | .f32 bits => .ok (.u64 (Float32.ofBits bits).toFloat.toUInt64)
      | .f64 bits | .abstractFloat bits => .ok (.u64 (Float.ofBits bits).toUInt64)
      | .bool b => .ok (.u64 (if b then 1 else 0))
    else if target = .f32 then match l with
      | .i32 n => .ok (single n.toInt)
      | .u32 n => .ok (single n.toNat)
      | .f32 bits => .ok (.f32 bits)
      | .bool b => .ok (single (if b then 1 else 0))
      | .abstractInt n => .ok (single n.toInt)
      | .abstractFloat bits =>
        let rounded := (Float.ofBits bits).toFloat32
        if rounded.isInf then .error .lossy else .ok (.f32 rounded.toBits)
      | _ => refused
    else if target = .f64 then match l with
      | .i32 n => .ok (.f64 (double n.toInt))
      | .u32 n => .ok (.f64 (double n.toNat))
      | .f32 bits => .ok (.f64 (Float32.ofBits bits).toFloat.toBits)
      | .bool b => .ok (.f64 (double (if b then 1 else 0)))
      | .abstractInt n => .ok (.f64 (double n.toInt))
      | .f64 bits | .abstractFloat bits => .ok (.f64 bits)
      | _ => refused
    else if target = .bool then match l with
      | .i32 n => .ok (.bool (n != 0))
      | .u32 n => .ok (.bool (n != 0))
      | .f32 bits => .ok (.bool (Float32.ofBits bits != 0))
      | .bool b => .ok (.bool b)
      | _ => refused
    else if target = .abstractFloat then match l with
      | .abstractInt n => .ok (.abstractFloat (double n.toInt))
      | .abstractFloat bits => .ok (.abstractFloat bits)
      | _ => refused
    else if target = .abstractInt then match l with
      | .abstractInt n => .ok (.abstractInt n)
      | _ => refused
    else refused
  checked converted

/-- The one of an integer type. -/
def one? (s : Scalar) : Option Literal :=
  ([.i32 1, .u32 1, .i64 1, .u64 1] : List Literal).find? (·.scalar = s)

/-- A whole number that can be an index. -/
def index? : Literal → Option Nat
  | .u32 n => some n.toNat
  | .i32 n => if 0 ≤ n then some n.toInt.toNat else none
  | _ => none

end Literal

end ShaderKit.Wgsl
