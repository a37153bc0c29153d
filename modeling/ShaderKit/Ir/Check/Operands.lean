import ShaderKit.Ir.Check.Components

/-!
# Operands of operators and built-in functions

Which operand types each operator and each built-in function takes.
-/

namespace ShaderKit.Ir.Check

/-- A scalar or vector of scalars that satisfy a condition. -/
def isOf (good : Scalar → Bool) : Shape → Bool
  | .scalar s | .vector _ s => good s
  | _ => false

/-- A vector of such scalars. -/
def isVectorOf (good : Scalar → Bool) : Shape → Bool
  | .vector _ s => good s
  | _ => false

/-- A vector of that many scalars of a kind. -/
def isVectorOfSize (size : VectorSize) (kind : ScalarKind) : Shape → Bool
  | .vector n s => n == size && s.kind == kind
  | _ => false

/-- Such a scalar. -/
def isScalarOf (good : Scalar → Bool) : Shape → Bool
  | .scalar s => good s
  | _ => false

/-- A float of a width. -/
def isConcreteFloat (s : Scalar) : Bool := s.kind == .float

/-- An integer of a width. -/
def isConcreteInteger (s : Scalar) : Bool := s.kind == .sint || s.kind == .uint

/-- A number of a width. -/
def isNumber (s : Scalar) : Bool := isConcreteFloat s || isConcreteInteger s

/-- A truth value. -/
def isTruth (s : Scalar) : Bool := s.kind == .bool

/-- An integer of four bytes. -/
def isWord (s : Scalar) : Bool := isConcreteInteger s && s.width == 4

/-- An index: a scalar integer. -/
def isIndex : Shape → Bool := isScalarOf isConcreteInteger

/-- The number of components of a vector; none for a scalar. -/
def vectorSize? : Shape → Option VectorSize
  | .vector n _ => some n
  | _ => none

/-- Whether the size of values is known from the shape alone. -/
def isSized : Shape → Bool
  | .array _ .dynamic _ | .image .. | .sampler _ | .bindingArray .. | .accelerationStructure
  | .rayQuery => false
  | _ => true

/-- The operand suits the operator. -/
def goodUnary (op : UnaryOp) (a : Shape) : Bool :=
  match op, a.scalar?.map Scalar.kind with
  | .negate, some .float | .negate, some .sint => true
  | .logicalNot, some .bool => true
  | .bitwiseNot, some .sint | .bitwiseNot, some .uint => true
  | _, _ => false

/-- Operands of a product: equal scalars, a scalar with anything made of it, or sizes that fit. -/
def goodProduct : Shape → Shape → Bool
  | .scalar s, .scalar t | .vector _ s, .scalar t | .scalar s, .vector _ t => isNumber s && s == t
  | .scalar s, .matrix _ _ t | .matrix _ _ t, .scalar s => isConcreteFloat s && s.width == t.width
  | .vector n s, .vector m t => isNumber s && s == t && n == m
  | .matrix columns _ s, .vector n t => isConcreteFloat t && s.width == t.width && columns == n
  | .vector n t, .matrix _ rows s => isConcreteFloat t && s.width == t.width && rows == n
  | .matrix columns _ s, .matrix _ rows t => s.width == t.width && columns == rows
  | _, _ => false

/-- The operands suit the operator. -/
def goodBinary (op : BinaryOp) (a b : Shape) : Bool :=
  match op with
  | .add | .subtract =>
    let isMatrix := match a with
      | .matrix .. => true
      | _ => false
    (isOf isNumber a || isMatrix) && a == b
  | .divide | .modulo | .less | .lessEqual | .greater | .greaterEqual => isOf isNumber a && a == b
  | .multiply => goodProduct a b
  | .equal | .notEqual => isSized a && a == b
  | .logicalAnd | .logicalOr => isOf isTruth a && a == b
  | .and | .inclusiveOr => isOf (fun s => isTruth s || isConcreteInteger s) a && a == b
  | .exclusiveOr => isOf isConcreteInteger a && a == b
  | .shiftLeft | .shiftRight =>
    isOf isConcreteInteger a && isOf (·.kind == .uint) b && vectorSize? a == vectorSize? b

/-- One condition chooses between values of one type, or one for each component. -/
def goodSelect (condition accept reject : Shape) : Bool :=
  let good := match condition, accept with
    | .scalar c, .scalar _ | .scalar c, .vector .. => isTruth c
    | .vector n c, .vector m _ => isTruth c && n == m
    | _, _ => false
  good && accept == reject

/-- The operand suits the test. -/
def goodRelational (f : RelationalFunction) (a : Shape) : Bool :=
  match f with
  | .all | .any => isVectorOf isTruth a
  | .isNan | .isInf => isOf isConcreteFloat a

/-- A given number of operands of one type. -/
def sameArguments (count : Nat) (good : Shape → Bool) (args : List Shape) : Bool :=
  match args with
  | [] => false
  | a :: rest => args.length == count && good a && rest.all (· == a)

/-- Operands of a built-in function. -/
def goodMath (f : MathFunction) (args : List Shape) : Bool :=
  let float := isOf isConcreteFloat
  let number := isOf (·.kind != .bool)
  let floatVector := isVectorOf isConcreteFloat
  match f, args with
  | .abs, _ => sameArguments 1 number args
  | .min, _ | .max, _ => sameArguments 2 number args
  | .clamp, _ => sameArguments 3 number args
  | .sign, _ => sameArguments 1 (isOf fun s => s.kind == .float || s.kind == .sint) args
  | .atan2, _ | .pow, _ | .distance, _ | .step, _ => sameArguments 2 float args
  | .fma, _ | .smoothStep, _ => sameArguments 3 float args
  | .faceForward, _ => sameArguments 3 float args
  | .ldexp, [a, b] =>
    float a && isOf (·.kind == .sint) b && vectorSize? a == vectorSize? b
  | .dot, _ => sameArguments 2 (isVectorOf isNumber) args
  | .outer, _ | .reflect, _ => sameArguments 2 floatVector args
  | .cross, _ => sameArguments 2 (isVectorOfSize .three .float) args
  | .refract, [a, b, .scalar s] =>
    floatVector a && a == b && isConcreteFloat s && a.scalar? == some s
  | .normalize, _ => sameArguments 1 floatVector args
  | .mix, [a, b, c] =>
    float a && a == b && (c == a || a.scalar?.any fun s => c == .scalar s)
  | .inverse, [.matrix columns rows _] | .determinant, [.matrix columns rows _] => columns == rows
  | .transpose, [.matrix ..] => true
  | .quantizeToF16, _ => sameArguments 1 (isOf (· == .f32)) args
  | .countTrailingZeros, _ | .countLeadingZeros, _ | .countOneBits, _ | .reverseBits, _
  | .firstTrailingBit, _ | .firstLeadingBit, _ => sameArguments 1 (isOf isWord) args
  | .extractBits, [a, b, c] => isOf isWord a && b == .scalar .u32 && c == .scalar .u32
  | .insertBits, [a, b, c, d] =>
    isOf isWord a && a == b && c == .scalar .u32 && d == .scalar .u32
  | .pack4x8snorm, _ | .pack4x8unorm, _ => sameArguments 1 (isVectorOfSize .four .float) args
  | .pack2x16snorm, _ | .pack2x16unorm, _ | .pack2x16float, _ =>
    sameArguments 1 (isVectorOfSize .two .float) args
  | .pack4xI8, _ => sameArguments 1 (isVectorOfSize .four .sint) args
  | .pack4xU8, _ => sameArguments 1 (isVectorOfSize .four .uint) args
  | .unpack4x8snorm, _ | .unpack4x8unorm, _ | .unpack2x16snorm, _ | .unpack2x16unorm, _
  | .unpack2x16float, _ | .unpack4xI8, _ | .unpack4xU8, _ =>
    sameArguments 1 (isScalarOf (·.kind == .uint)) args
  | .ldexp, _ | .refract, _ | .mix, _ | .inverse, _ | .determinant, _ | .transpose, _
  | .extractBits, _ | .insertBits, _ => false
  | _, _ => sameArguments 1 float args

end ShaderKit.Ir.Check
