import ShaderKit.Wgsl.Value.Operator

/-!
# Built-in functions on values

Functions that work component by component.  Other functions are only known when the program runs.
-/

namespace ShaderKit.Wgsl

open Ir (FloatFormat Literal MathFunction twoPow)

namespace Literal

/-- A whole part, where a half goes to the even neighbour. -/
def roundHalfEven (x : Float) : Float :=
  let below := x.floor
  let part := x - below
  if part == 0.5 then
    let even := if (below / 2).floor * 2 == below then below else below + 1
    if x.toBits >>> 63 == 1 && even == 0 then -0.0 else even
  else x.round

/-- A float with the sign of another. -/
def copySign (x : Float32) (sign : Float32) : Float32 :=
  Float32.ofBits ((x.toBits &&& 0x7fffffff) ||| (sign.toBits &&& 0x80000000))

/-- A function of one single. -/
def singleFunction? : MathFunction → Option (Float32 → Float32)
  | .abs => some Float32.abs
  | .saturate => some fun x => if x < 0 then 0 else if 1 < x then 1 else x
  | .cos => some Float32.cos
  | .cosh => some Float32.cosh
  | .sin => some Float32.sin
  | .sinh => some Float32.sinh
  | .tan => some Float32.tan
  | .tanh => some Float32.tanh
  | .acos => some Float32.acos
  | .asin => some Float32.asin
  | .atan => some Float32.atan
  | .asinh => some Float32.asinh
  | .acosh => some Float32.acosh
  | .atanh => some Float32.atanh
  | .radians => some fun x => x * Float32.ofBits 0x3c8efa35
  | .degrees => some fun x => x * Float32.ofBits 0x42652ee1
  | .ceil => some Float32.ceil
  | .floor => some Float32.floor
  | .round => some fun x => (roundHalfEven x.toFloat).toFloat32
  | .fract => some fun x => x - x.floor
  | .trunc => some fun x => copySign x.abs.floor x
  | .exp => some Float32.exp
  | .exp2 => some Float32.exp2
  | .log => some Float32.log
  | .log2 => some Float32.log2
  | .sign => some fun x => copySign 1 x
  | .sqrt => some Float32.sqrt
  | .inverseSqrt => some fun x => 1 / x.sqrt
  | _ => none

/-- The positions of the bits that are set in a word, in ascending order. -/
def setBits (word : UInt32) : List Nat := (List.range 32).filter word.toNat.testBit

/-- A function of the bits of a 32-bit integer.  Where no bit is the one asked for, all bits are set. -/
def wordFunction? (isNegative : Bool) : MathFunction → Option (UInt32 → UInt32)
  | .countOneBits => some fun w => UInt32.ofNat (setBits w).length
  | .countTrailingZeros => some fun w => UInt32.ofNat ((setBits w).head?.getD 32)
  | .countLeadingZeros => some fun w => UInt32.ofNat ((setBits w).getLast?.elim 32 (31 - ·))
  | .reverseBits => some fun w =>
    UInt32.ofNat ((setBits w).foldl (fun sum i => sum + twoPow (31 - i)) 0)
  | .firstTrailingBit => some fun w => (setBits w).head?.elim 0xffffffff UInt32.ofNat
  | .firstLeadingBit => some fun w =>
    (setBits (if isNegative then ~~~w else w)).getLast?.elim 0xffffffff UInt32.ofNat
  | _ => none

/-- A product plus a number, rounded once. -/
def fusedSum (x y z : Float32) : Float32 :=
  let exact (v : Float32) : Int × Int :=
    let (m, e) := FloatFormat.single.magnitude v.abs.toBits.toNat
    (if v < 0 then -(m : Int) else m, e)
  let (a, d) := exact x
  let (b, e) := exact y
  let (c, f) := exact z
  let unit := min (d + e) f
  let sum := a * b * (twoPow (d + e - unit).toNat : Int) + c * (twoPow (f - unit).toNat : Int)
  if sum == 0 then x * y + z
  else
    let bits := if 0 ≤ unit then FloatFormat.single.nearestBits? (sum.natAbs * twoPow unit.toNat) 1
      else FloatFormat.single.nearestBits? sum.natAbs (twoPow (-unit).toNat)
    let magnitude := Float32.ofBits (UInt32.ofNat (bits.getD FloatFormat.single.infinity))
    if sum < 0 then -magnitude else magnitude

/-- A float as a literal, which has to be finite. -/
def single32 (x : Float32) : Except ValueFault Literal := checked (.f32 x.toBits)

/-- The numbers that functions of any number take. -/
def isNumber : Literal → Bool
  | .f64 _ | .bool _ => false
  | _ => true

/-- The smaller or the greater of two numbers. -/
def least (a b : Literal) : Literal := if order b a == some .lt then b else a

/-- The greater one of two literals. -/
def greatest (a b : Literal) : Literal := if order a b == some .lt then b else a

/-- Whether literals have the same type as the first of them. -/
def isUniform : List Literal → Bool
  | [] => true
  | first :: rest => rest.all (·.scalar = first.scalar)

/-- A number without its sign. -/
def magnitude : Literal → Except ValueFault Literal
  | .i32 n => .ok (.i32 (if n < 0 then -n else n))
  | .i64 n => .ok (.i64 (if n < 0 then -n else n))
  | .f32 bits => .ok (.f32 (bits &&& 0x7fffffff))
  | l => if isNumber l then .ok l else .error .argument

/-- The sign of a number. -/
def signOf : Literal → Except ValueFault Literal
  | .i32 n => .ok (.i32 (Int32.ofInt n.toInt.sign))
  | .f32 bits => single32 (copySign 1 (Float32.ofBits bits))
  | _ => .error .argument

/-- A built-in function of literals. -/
def math (f : MathFunction) (args : List Literal) : Except ValueFault Literal :=
  if !isUniform args then .error .argument
  else match f, args with
    | .abs, [a] => magnitude a
    | .sign, [a] => signOf a
    | .min, [a, b] => if isNumber a then .ok (least a b) else .error .argument
    | .max, [a, b] => if isNumber a then .ok (greatest a b) else .error .argument
    | .clamp, [a, low, high] =>
      if !isNumber a then .error .argument
      else if order low high == some .gt then .error .clampRange
      else .ok (least (greatest a low) high)
    | .fma, [.f32 a, .f32 b, .f32 c] =>
      single32 (fusedSum (Float32.ofBits a) (Float32.ofBits b) (Float32.ofBits c))
    | .pow, [.f32 a, .f32 b] => single32 (Float32.pow (Float32.ofBits a) (Float32.ofBits b))
    | .step, [.f32 edge, .f32 a] =>
      single32 (if Float32.ofBits edge ≤ Float32.ofBits a then 1 else 0)
    | f, [.f32 a] => match singleFunction? f with
      | some g => single32 (g (Float32.ofBits a))
      | none => .error .argument
    | f, [.i32 n] => match wordFunction? (n < 0) f with
      | some g => .ok (.i32 (g n.toUInt32).toInt32)
      | none => .error .argument
    | f, [.u32 n] => match wordFunction? false f with
      | some g => .ok (.u32 (g n))
      | none => .error .argument
    | _, _ => .error .argument

end Literal

namespace Value

/-- The functions that are known for values. -/
def knownFunctions : List MathFunction :=
  [.abs, .min, .max, .clamp, .saturate, .cos, .cosh, .sin, .sinh, .tan, .tanh, .acos, .asin,
   .atan, .asinh, .acosh, .atanh, .radians, .degrees, .ceil, .floor, .round, .fract, .trunc,
   .exp, .exp2, .log, .log2, .pow, .sign, .fma, .step, .sqrt, .inverseSqrt,
   .countTrailingZeros, .countLeadingZeros, .countOneBits, .reverseBits, .firstTrailingBit,
   .firstLeadingBit]

/-- How many arguments a function takes. -/
def argumentCount : MathFunction → Nat
  | .min | .max | .atan2 | .ldexp | .pow | .dot | .outer | .cross | .distance | .reflect
  | .step => 2
  | .clamp | .faceForward | .refract | .fma | .mix | .smoothStep | .extractBits => 3
  | .insertBits => 4
  | _ => 1

/-- Whether a scalar is one of those that a function works on. -/
def worksOn (f : MathFunction) (s : Ir.Scalar) : Bool :=
  match f with
  | .abs | .min | .max | .clamp => s.kind != .bool
  | .sign => s.kind == .sint || s.kind.isFloat || s.kind == .abstractInt
  | .countTrailingZeros | .countLeadingZeros | .countOneBits | .reverseBits | .firstTrailingBit
  | .firstLeadingBit => s.kind == .sint || s.kind == .uint
  | _ => s.kind.isFloat

/-- A built-in function of values that are nested less than `fuel` deep.  All vectors have the type of the
first one. -/
def mathIn (f : MathFunction) : Nat → List Value → Evaluation Value
  | 0, _ => throw .argument
  | fuel + 1, args => do
    let args ← args.mapM composed
    match args with
    | literal _ :: _ =>
      match args.mapM fun | literal l => some l | _ => none with
      | some literals => ofLiteral (Literal.math f literals)
      | none => throw .argument
    | compose t _ :: _ =>
      let some (.vector n s) ← Evaluation.shape? t | throw .argument
      if !worksOn f s then throw .argument
      let groups ← args.mapM fun
        | compose u components => do
          if (← Evaluation.shape? u) ≠ some (.vector n s) then throw .argument
          return flattened (some (.vector n s)) components
        | _ => throw .argument
      let results ← (List.range n.toNat).mapM fun i =>
        match groups.mapM (·[i]?) with
        | some group => mathIn f fuel group
        | none => throw .argument
      return compose t results
    | _ => throw .argument

/-- A built-in function. -/
def math (f : MathFunction) (args : List Value) : Evaluation Value := do
  if args.length ≠ argumentCount f then throw .argumentCount
  if !knownFunctions.contains f then throw .unsupported
  mathIn f (args.foldl (fun d v => max d v.depth) 0 + expansionDepth) args

end Value

end ShaderKit.Wgsl
