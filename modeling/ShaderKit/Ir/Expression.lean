import ShaderKit.Ir.Type

/-!
# Expressions

An expression refers to its operands by their index in the same function, and every operand comes before
its use.
-/

namespace ShaderKit.Ir

/-- Index into the expressions of a function, or of the module's global expressions. -/
abbrev ExprId := Nat

/-- Index into a module's constants. -/
abbrev ConstantId := Nat

/-- Index into a module's overrides. -/
abbrev OverrideId := Nat

/-- Index into a module's global variables. -/
abbrev GlobalId := Nat

/-- Index into a function's local variables. -/
abbrev LocalId := Nat

/-- Index into a module's functions. -/
abbrev FunctionId := Nat

/-- Operators on one value. -/
inductive UnaryOp
  | negate | logicalNot | bitwiseNot
  deriving DecidableEq

/-- Operators on two values. -/
inductive BinaryOp
  | add | subtract | multiply | divide | modulo
  | equal | notEqual | less | lessEqual | greater | greaterEqual
  | and | exclusiveOr | inclusiveOr | logicalAnd | logicalOr
  | shiftLeft | shiftRight
  deriving DecidableEq

/-- Along which axis of the screen a value changes; along both, for the width. -/
inductive DerivativeAxis
  | x | y | width
  deriving DecidableEq

/-- Over which of its neighbours a fragment takes a derivative. -/
inductive DerivativeControl
  | coarse | fine | none
  deriving DecidableEq

/-- Tests of one value. -/
inductive RelationalFunction
  | all | any | isNan | isInf
  deriving DecidableEq

/-- Mathematical functions of one to four values. -/
inductive MathFunction
  | abs | min | max | clamp | saturate
  | cos | cosh | sin | sinh | tan | tanh | acos | asin | atan | atan2 | asinh | acosh | atanh
  | radians | degrees
  | ceil | floor | round | fract | trunc | modf | frexp | ldexp
  | exp | exp2 | log | log2 | pow
  | dot | outer | cross | distance | length | normalize | faceForward | reflect | refract
  | sign | fma | mix | step | smoothStep | sqrt | inverseSqrt | inverse | transpose
  | determinant | quantizeToF16
  | countTrailingZeros | countLeadingZeros | countOneBits | reverseBits | extractBits
  | insertBits | firstTrailingBit | firstLeadingBit
  | pack4x8snorm | pack4x8unorm | pack2x16snorm | pack2x16unorm | pack2x16float
  | pack4xI8 | pack4xU8
  | unpack4x8snorm | unpack4x8unorm | unpack2x16snorm | unpack2x16unorm | unpack2x16float
  | unpack4xI8 | unpack4xU8
  deriving DecidableEq

/-- The level of detail that a sample is taken at. -/
inductive SampleLevel
  | auto | zero
  | exact (level : ExprId)
  | bias (bias : ExprId)
  | gradient (x y : ExprId)
  deriving DecidableEq

/-- What an image can be asked for. -/
inductive ImageQuery
  | size (level : Option ExprId)
  | levels | layers | samples
  deriving DecidableEq

/-- Expressions, whose operands are named by their number. -/
inductive Expression
  | literal (value : Literal)
  | constant (constant : ConstantId)
  | overridden (override : OverrideId)
  | zero (type : TypeId)
  | compose (type : TypeId) (components : List ExprId)
  | access (base index : ExprId)
  | accessIndex (base : ExprId) (index : Nat)
  | splat (size : VectorSize) (value : ExprId)
  | swizzle (size : VectorSize) (vector : ExprId) (pattern : List Nat)
  | argument (index : Nat)
  | global (variable_ : GlobalId)
  | localVar (variable_ : LocalId)
  | load (pointer : ExprId)
  | imageSample (image sampler : ExprId) (gather : Option Nat) (coordinate : ExprId)
      (arrayIndex offset : Option ExprId) (level : SampleLevel) (depthRef : Option ExprId)
  | imageLoad (image coordinate : ExprId) (arrayIndex sample level : Option ExprId)
  | imageQuery (image : ExprId) (query : ImageQuery)
  | unary (op : UnaryOp) (operand : ExprId)
  | binary (op : BinaryOp) (left right : ExprId)
  | select (condition accept reject : ExprId)
  | derivative (axis : DerivativeAxis) (control : DerivativeControl) (operand : ExprId)
  | relational (function : RelationalFunction) (argument : ExprId)
  | math (function : MathFunction) (arg : ExprId) (arg1 arg2 arg3 : Option ExprId)
  /-- Conversion to a scalar kind.  With a width the value is converted, without one its bits are
  reinterpreted. -/
  | convert (operand : ExprId) (kind : ScalarKind) (width : Option Nat)
  | callResult (function : FunctionId)
  | atomicResult (type : TypeId) (comparison : Bool)
  | workGroupUniformLoadResult (type : TypeId)
  | arrayLength (array : ExprId)
  | rayQueryProceedResult
  /-- What a ray hits: the hit that is settled on, or the one that is looked at. -/
  | rayQueryIntersection (query : ExprId) (committed : Bool)
  | subgroupBallotResult
  | subgroupResult (type : TypeId)
  deriving DecidableEq

namespace Expression

/-- Expressions that are in scope in the whole function and are never emitted. -/
def isPreEmitted : Expression → Bool
  | literal _ | constant _ | overridden _ | zero _ | argument _ | global _ | localVar _ => true
  | _ => false

/-- Results of statements; they come into scope with their statement. -/
def isStatementResult : Expression → Bool
  | callResult _ | atomicResult .. | workGroupUniformLoadResult _ | rayQueryProceedResult
  | subgroupBallotResult | subgroupResult _ => true
  | _ => false

/-- The operands, in the order in which they are written. -/
def operands : Expression → List ExprId
  | literal _ | constant _ | overridden _ | zero _ | argument _ | global _ | localVar _
  | callResult _ | atomicResult .. | workGroupUniformLoadResult _ | rayQueryProceedResult
  | subgroupBallotResult | subgroupResult _ => []
  | compose _ components => components
  | access base index => [base, index]
  | accessIndex base _ => [base]
  | splat _ value => [value]
  | swizzle _ vector _ => [vector]
  | load pointer => [pointer]
  | imageSample image sampler _ coordinate arrayIndex offset level depthRef =>
    let levels := match level with
      | .auto | .zero => []
      | .exact e | .bias e => [e]
      | .gradient x y => [x, y]
    [image, sampler, coordinate] ++ arrayIndex.toList ++ offset.toList ++ levels
      ++ depthRef.toList
  | imageLoad image coordinate arrayIndex sample level =>
    [image, coordinate] ++ arrayIndex.toList ++ sample.toList ++ level.toList
  | imageQuery image query => match query with
    | .size (some level) => [image, level]
    | _ => [image]
  | unary _ operand | derivative _ _ operand | relational _ operand | convert operand _ _
  | arrayLength operand | rayQueryIntersection operand _ => [operand]
  | binary _ left right => [left, right]
  | select condition accept reject => [condition, accept, reject]
  | math _ arg arg1 arg2 arg3 => arg :: arg1.toList ++ arg2.toList ++ arg3.toList

end Expression

end ShaderKit.Ir
