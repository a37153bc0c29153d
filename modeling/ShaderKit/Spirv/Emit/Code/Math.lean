import ShaderKit.Spirv.Emit.Code.Operator

/-!
# Emitting built-in functions

Most built-in functions are functions of the standard set.  Bit fields are cut to what the number has,
because the instructions for them are not defined beyond that.
-/

namespace ShaderKit.Spirv.CodeM

open Ir (ExprId Literal MathFunction Scalar Shape VectorSize)

/-- Functions that have a number in the standard set, for floats, signed and unsigned integers. -/
def standardNumber : MathFunction → OpcodeByKind
  | .abs => { float := some 4, sint := some 5 }
  | .min => { float := some 37, sint := some 39, uint := some 38 }
  | .max => { float := some 40, sint := some 42, uint := some 41 }
  | .clamp => { float := some 43 }
  | .cos => { float := some 14 }
  | .cosh => { float := some 20 }
  | .sin => { float := some 13 }
  | .sinh => { float := some 19 }
  | .tan => { float := some 15 }
  | .tanh => { float := some 21 }
  | .acos => { float := some 17 }
  | .asin => { float := some 16 }
  | .atan => { float := some 18 }
  | .atan2 => { float := some 25 }
  | .asinh => { float := some 22 }
  | .acosh => { float := some 23 }
  | .atanh => { float := some 24 }
  | .radians => { float := some 11 }
  | .degrees => { float := some 12 }
  | .ceil => { float := some 9 }
  | .floor => { float := some 8 }
  | .round => { float := some 2 }
  | .fract => { float := some 10 }
  | .trunc => { float := some 3 }
  | .modf => { float := some 36 }
  | .frexp => { float := some 52 }
  | .ldexp => { float := some 53 }
  | .exp => { float := some 27 }
  | .exp2 => { float := some 29 }
  | .log => { float := some 28 }
  | .log2 => { float := some 30 }
  | .pow => { float := some 26 }
  | .cross => { float := some 68 }
  | .distance => { float := some 67 }
  | .length => { float := some 66 }
  | .normalize => { float := some 69 }
  | .faceForward => { float := some 70 }
  | .reflect => { float := some 71 }
  | .refract => { float := some 72 }
  | .sign => { float := some 6, sint := some 7 }
  | .fma => { float := some 50 }
  | .step => { float := some 48 }
  | .smoothStep => { float := some 49 }
  | .sqrt => { float := some 31 }
  | .inverseSqrt => { float := some 32 }
  | .inverse => { float := some 34 }
  | .determinant => { float := some 33 }
  | .firstTrailingBit => { sint := some 73, uint := some 73 }
  | .firstLeadingBit => { sint := some 74, uint := some 75 }
  | .pack4x8snorm => { float := some 54 }
  | .pack4x8unorm => { float := some 55 }
  | .pack2x16snorm => { float := some 56 }
  | .pack2x16unorm => { float := some 57 }
  | .pack2x16float => { float := some 58 }
  | .unpack4x8snorm => { uint := some 63 }
  | .unpack4x8unorm => { uint := some 64 }
  | .unpack2x16snorm => { uint := some 60 }
  | .unpack2x16unorm => { uint := some 61 }
  | .unpack2x16float => { uint := some 62 }
  | _ => {}

/-- Functions that are instructions of their own. -/
def functionOpcode? : MathFunction → Option Nat
  | .outer => some 147
  | .transpose => some 84
  | .reverseBits => some 204
  | .countOneBits => some 205
  | .quantizeToF16 => some 116
  | _ => none

/-- A bit field, cut to the bits of a number: its start and its length. -/
def bitField (offset count : ExprId) (width : Nat) : CodeM (Id × Id) := do
  let u32 ← EmitM.scalarType .u32
  let bits ← EmitM.number width
  let start ← standard u32 leastUnsigned [← value offset, bits]
  let room ← result Op.iSub u32 [bits, start]
  return (start, ← standard u32 leastUnsigned [← value count, room])

/-- The sum of the products of components. -/
def integerDot (n : VectorSize) (s : Scalar) (a b : Id) : CodeM Id := do
  let type ← EmitM.scalarType s
  let product (i : Nat) : CodeM Id := do
    let x ← result Op.compositeExtract type [a, UInt32.ofNat i]
    result Op.iMul type [x, ← result Op.compositeExtract type [b, UInt32.ofNat i]]
  let first ← product 0
  (List.range (n.toNat - 1)).foldlM (fun sum i => do
    result Op.iAdd type [sum, ← product (i + 1)]) first

/-- Four bytes put into a number, or taken out of one. -/
def packBytes (e arg : ExprId) (s : Scalar) : CodeM Id := do
  let vector ← value arg
  let part ← EmitM.scalarType s
  let u32 ← EmitM.scalarType .u32
  let zero ← EmitM.number 0
  let packed ← (List.range 4).foldlM (fun sum i => do
    let x ← result Op.compositeExtract part [vector, UInt32.ofNat i]
    let x ← if s.kind = .uint then pure x else result Op.bitcast u32 [x]
    result 201 u32 [sum, x, ← EmitM.number (8 * i), ← EmitM.number 8]) zero
  let _ ← typeIdOf e
  return packed

/-- The four bytes of a word as numbers. -/
def unpackBytes (e arg : ExprId) (s : Scalar) : CodeM Id := do
  let part ← EmitM.scalarType s
  let word ← value arg
  let word ← if s.kind = .uint then pure word else result Op.bitcast part [word]
  let parts ← (List.range 4).mapM fun i => do
    result (if s.kind = .uint then 203 else 202) part
      [word, ← EmitM.number (8 * i), ← EmitM.number 8]
  result Op.compositeConstruct (← typeIdOf e) parts

/-- Zeros above the highest bit that is set. -/
def leadingZeros (type : Id) (shape : Shape) (s : Scalar) (x : Id) : CodeM Id := do
  let literal (n : Nat) : Literal := if s.kind = .sint then .i32 n.toInt32 else .u32 n.toUInt32
  let top ← everywhere shape (literal 31)
  let highest ← standard type 75 [x]
  let count ← result Op.iSub type [top, highest]
  if s.kind = .uint then return count
  let zero ← everywhere shape (literal 0)
  let truth : Shape := match shape with
    | .vector n _ => .vector n .bool
    | _ => .scalar .bool
  let negative ← result 177 (← shapeType truth) [x, zero]
  result Op.select type [negative, zero, count]

/-- The value of a mathematical function. -/
def math (e : ExprId) (f : MathFunction) (args : List ExprId) : CodeM Id := do
  let type ← typeIdOf e
  let arg :: rest := args | throw .layout
  let shape ← shapeOf arg
  let some s := shape.scalar? | throw .layout
  match f, rest with
  | .abs, [] => if s.kind = .uint then return ← value arg
  | .clamp, [low, high] =>
    if s.kind ≠ .float then
      let (least, greatest) := if s.kind = .sint then (39, 42) else (38, 41)
      let x ← standard type greatest [← value arg, ← value low]
      return ← standard type least [x, ← value high]
  | .saturate, [] =>
    let zero ← everywhere shape (← zeroOf s)
    return ← standard type 43 [← value arg, zero, ← everywhere shape (← oneOf s)]
  | .dot, [other] =>
    if s.kind = .float then return ← result 148 type [← value arg, ← value other]
    if let .vector n s := shape then return ← integerDot n s (← value arg) (← value other)
  | .mix, [other, ratio] =>
    let r ← value ratio
    let r ← match shape, ← shapeOf ratio with
      | .vector n _, .scalar s => splat n s r
      | _, _ => pure r
    return ← standard type 46 [← value arg, ← value other, r]
  | .countTrailingZeros, [] =>
    let all ← everywhere shape (if s.kind = .sint then .i32 32 else .u32 32)
    return ← standard type leastUnsigned [all, ← standard type 73 [← value arg]]
  | .countLeadingZeros, [] => return ← leadingZeros type shape s (← value arg)
  | .extractBits, [offset, count] =>
    let (start, length) ← bitField offset count (8 * s.width)
    return ← result (if s.kind = .sint then 202 else 203) type [← value arg, start, length]
  | .insertBits, [bits, offset, count] =>
    let (start, length) ← bitField offset count (8 * s.width)
    return ← result 201 type [← value arg, ← value bits, start, length]
  | .pack4xI8, [] => return ← packBytes e arg .i32
  | .pack4xU8, [] => return ← packBytes e arg .u32
  | .unpack4xI8, [] => return ← unpackBytes e arg .i32
  | .unpack4xU8, [] => return ← unpackBytes e arg .u32
  | _, _ => pure ()
  let operands ← args.mapM value
  match functionOpcode? f with
  | some op => result op type operands
  | none => do standard type (← opcodeFor (standardNumber f) s.kind) operands

end ShaderKit.Spirv.CodeM
