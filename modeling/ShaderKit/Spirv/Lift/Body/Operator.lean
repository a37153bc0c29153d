import ShaderKit.Spirv.Lift.Body.State
import ShaderKit.Spirv.Opcode

/-!
# Lifting operators

Arithmetic, comparisons, conversions and the standard instruction set.  An integer operator works on any
mix of signs in SPIR-V; here both sides must agree, so operands of the other sign are reinterpreted
first.
-/

namespace ShaderKit.Spirv

open Ir (BinaryOp DerivativeAxis DerivativeControl MathFunction RelationalFunction ScalarKind Shape
  UnaryOp)

/-- How the operands of a binary operator are made to agree. -/
inductive OperandRule
  | asIs
  /-- Both have the kind of the result. -/
  | likeResult
  /-- Both have the kind of the first operand. -/
  | likeFirst
  /-- Both have this kind. -/
  | of (kind : ScalarKind)
  /-- The second is unsigned. -/
  | shift
  deriving DecidableEq

/-- The opcodes of operators on one value. -/
def unaryOps : List (Nat × UnaryOp) :=
  [(126, .negate), (127, .negate), (168, .logicalNot), (200, .bitwiseNot)]

/-- The opcodes of operators on two values, with what becomes of their operands. -/
def binaryOps : List (Nat × BinaryOp × OperandRule) :=
  [(128, .add, .likeResult), (129, .add, .asIs), (130, .subtract, .likeResult),
   (131, .subtract, .asIs), (132, .multiply, .likeResult), (133, .multiply, .asIs),
   (134, .divide, .asIs), (135, .divide, .likeResult), (136, .divide, .asIs),
   (137, .modulo, .asIs), (138, .modulo, .likeResult), (140, .modulo, .asIs),
   (142, .multiply, .asIs), (143, .multiply, .asIs), (144, .multiply, .asIs),
   (145, .multiply, .asIs), (146, .multiply, .asIs),
   (164, .equal, .asIs), (165, .notEqual, .asIs), (166, .logicalOr, .asIs),
   (167, .logicalAnd, .asIs), (170, .equal, .likeFirst), (171, .notEqual, .likeFirst),
   (172, .greater, .of .uint), (173, .greater, .of .sint), (174, .greaterEqual, .of .uint),
   (175, .greaterEqual, .of .sint), (176, .less, .of .uint), (177, .less, .of .sint),
   (178, .lessEqual, .of .uint), (179, .lessEqual, .of .sint),
   (180, .equal, .asIs), (181, .equal, .asIs), (182, .notEqual, .asIs), (183, .notEqual, .asIs),
   (184, .less, .asIs), (185, .less, .asIs), (186, .greater, .asIs), (187, .greater, .asIs),
   (188, .lessEqual, .asIs), (189, .lessEqual, .asIs), (190, .greaterEqual, .asIs),
   (191, .greaterEqual, .asIs),
   (194, .shiftRight, .shift), (195, .shiftRight, .shift), (196, .shiftLeft, .shift),
   (197, .inclusiveOr, .likeResult), (198, .exclusiveOr, .likeResult),
   (199, .and, .likeResult)]

/-- The opcodes of derivatives. -/
def derivativeOps : List (Nat × DerivativeAxis × DerivativeControl) :=
  [(207, .x, .none), (208, .y, .none), (209, .width, .none), (210, .x, .fine), (211, .y, .fine),
   (212, .width, .fine), (213, .x, .coarse), (214, .y, .coarse), (215, .width, .coarse)]

/-- The opcodes of tests. -/
def relationalOps : List (Nat × RelationalFunction) :=
  [(154, .any), (155, .all), (156, .isNan), (157, .isInf)]

/-- Instructions that are functions of their operands here. -/
def functionOps : List (Nat × MathFunction) :=
  [(84, .transpose), (147, .outer), (148, .dot), (204, .reverseBits), (205, .countOneBits)]

/-- The functions of the standard instruction set, by number, with how many arguments they take. -/
def standardFunctions : List (Nat × MathFunction × Nat) :=
  [(1, .round, 1), (2, .round, 1), (3, .trunc, 1), (4, .abs, 1), (5, .abs, 1), (6, .sign, 1),
   (7, .sign, 1), (8, .floor, 1), (9, .ceil, 1), (10, .fract, 1), (11, .radians, 1),
   (12, .degrees, 1), (13, .sin, 1), (14, .cos, 1), (15, .tan, 1), (16, .asin, 1),
   (17, .acos, 1), (18, .atan, 1), (19, .sinh, 1), (20, .cosh, 1), (21, .tanh, 1),
   (22, .asinh, 1), (23, .acosh, 1), (24, .atanh, 1), (25, .atan2, 2), (26, .pow, 2),
   (27, .exp, 1), (28, .log, 1), (29, .exp2, 1), (30, .log2, 1), (31, .sqrt, 1),
   (32, .inverseSqrt, 1), (33, .determinant, 1), (34, .inverse, 1), (36, .modf, 1),
   (37, .min, 2), (38, .min, 2), (39, .min, 2), (40, .max, 2), (41, .max, 2), (42, .max, 2),
   (43, .clamp, 3), (44, .clamp, 3), (45, .clamp, 3), (46, .mix, 3), (48, .step, 2),
   (49, .smoothStep, 3), (50, .fma, 3), (52, .frexp, 1), (53, .ldexp, 2),
   (54, .pack4x8snorm, 1), (55, .pack4x8unorm, 1), (56, .pack2x16snorm, 1),
   (57, .pack2x16unorm, 1), (58, .pack2x16float, 1), (60, .unpack2x16snorm, 1),
   (61, .unpack2x16unorm, 1), (62, .unpack2x16float, 1), (63, .unpack4x8snorm, 1),
   (64, .unpack4x8unorm, 1), (66, .length, 1), (67, .distance, 2), (68, .cross, 2),
   (69, .normalize, 1), (70, .faceForward, 3), (71, .reflect, 2), (72, .refract, 3),
   (73, .firstTrailingBit, 1), (74, .firstLeadingBit, 1), (75, .firstLeadingBit, 1),
   (79, .min, 2), (80, .max, 2), (81, .clamp, 3)]

namespace BodyM

/-- The operand, reinterpreted unless it has the wanted type already. -/
def retyped (v : ValueEntry) (e : Ir.ExprId) (wanted : Id) (kind : ScalarKind) : BodyM Ir.ExprId :=
  if v.type = wanted then return e else push (.convert e kind none)

/-- The operand, reinterpreted unless it has the wanted kind already. -/
def ofKind (v : ValueEntry) (e : Ir.ExprId) (kind : ScalarKind) : BodyM Ir.ExprId := do
  if (← kindOfId v.type) = kind then return e else push (.convert e kind none)

/-- The value of an operator on two values. -/
def binary (op : BinaryOp) (rule : OperandRule) (type id left right : Id) : BodyM Unit := do
  let l ← entry left
  let a ← valueOf left l
  let r ← entry right
  let b ← valueOf right r
  let (a, b) ← match rule with
    | .asIs => pure (a, b)
    | .shift => do pure (a, ← push (.convert b .uint none))
    | .of kind => do
      pure (← ofKind l a kind, ← ofKind r b kind)
    | .likeResult | .likeFirst => do
      let wanted := if rule = .likeResult then type else l.type
      let kind ← kindOfId wanted
      pure (← retyped l a wanted kind, ← retyped r b wanted kind)
  define id type (← push (.binary op a b))

/-- What is negated has the kind of the result; the other operators take their operand as it is. -/
def unary (op : UnaryOp) (type id operand : Id) : BodyM Unit := do
  let v ← entry operand
  let e ← valueOf operand v
  let e ← if op = .negate then retyped v e type (← kindOfId type) else pure e
  define id type (← push (.unary op e))

/-- The arguments of a function call, at most four of them. -/
def call (f : MathFunction) (type id : Id) (arguments : List Id) : BodyM Unit := do
  match ← arguments.mapM value with
  | a :: rest => define id type (← push (.math f a rest[0]? rest[1]? rest[2]?))
  | [] => throw (.operandType id)

/-- The arguments of a function on bits.  Those that count bits are unsigned. -/
def bitFunction (f : MathFunction) (type id : Id) (arguments counts : List Id) : BodyM Unit := do
  let operands ← arguments.mapM value
  let counts ← counts.mapM fun c => do
    let v ← entry c
    ofKind v (← valueOf c v) .uint
  match operands ++ counts with
  | a :: rest => define id type (← push (.math f a rest[0]? rest[1]? rest[2]?))
  | [] => throw (.operandType id)

/-- A remainder with the sign of the divisor, from a quotient rounded down. -/
def flooredRemainder (type id left right : Id) : BodyM Unit := do
  let x ← value left
  let y ← value right
  let quotient ← push (.binary .divide x y)
  let whole ← push (.math .floor quotient none none none)
  let product ← push (.binary .multiply whole y)
  define id type (← push (.binary .subtract x product))

/-- The same of integers, whose quotient is that of floats.  The width of the conversions is the size of
the whole result, so that only scalars are converted to what they should be. -/
def flooredIntegerRemainder (type id left right : Id) : BodyM Unit := do
  let x ← value left
  let y ← value right
  let kind ← kindOfId type
  let size := (← shapeOfId type).size % 256
  let fx ← push (.convert x .float (some size))
  let fy ← push (.convert y .float (some size))
  let quotient ← push (.binary .divide fx fy)
  let floored ← push (.math .floor quotient none none none)
  let whole ← push (.convert floored kind (some size))
  let product ← push (.binary .multiply whole y)
  define id type (← push (.binary .subtract x product))

/-- A conversion to the type of the result; a bitcast keeps the bits. -/
def conversion (isBitcast : Bool) (type id operand : Id) : BodyM Unit := do
  let e ← value operand
  match ← shapeOfId type with
  | .scalar s | .vector _ s | .matrix _ _ s =>
    let width := if s.kind = .bool then some 1 else if isBitcast then none else some s.width
    define id type (← push (.convert e s.kind width))
  | _ => throw (.operandType type)

/-- Instructions of the standard set. -/
def standard (type id : Id) (number : Word) (arguments : List Id) : BodyM Unit := do
  match standardFunctions.lookup number.toNat with
  | some (f, count) =>
    if arguments.length = count then call f type id arguments
    else throw (.extendedInstruction number)
  | none => throw (.extendedInstruction number)

/-- Lifts an instruction with a result that depends on its operands alone, or says that it is none of
these. -/
def operatorInstruction? (op : Nat) (type id : Id) (operands : List Operand) : BodyM Bool := do
  match operands with
  | .id set :: .word number :: rest =>
    if op = Op.extInst then
      if (← getThe Lift).standardSet ≠ some set then throw (.undefinedId set)
      standard type id number (rest.filterMap (·.ref?))
      return true
    else return false
  | [.id a] =>
    if let some u := unaryOps.lookup op then
      unary u type id a
      return true
    if let some (axis, control) := derivativeOps.lookup op then
      define id type (← push (.derivative axis control (← value a)))
      return true
    if let some f := relationalOps.lookup op then
      define id type (← push (.relational f (← value a)))
      return true
    if let some f := functionOps.lookup op then
      call f type id [a]
      return true
    if 109 ≤ op ∧ op ≤ 115 ∨ op = 124 then
      conversion (op == 124) type id a
      return true
    return false
  | [.id a, .id b] =>
    if let some (o, rule) := binaryOps.lookup op then
      binary o rule type id a b
      return true
    if op = 139 ∨ op = 141 then
      if op = 139 then flooredIntegerRemainder type id a b else flooredRemainder type id a b
      return true
    if let some f := functionOps.lookup op then
      call f type id [a, b]
      return true
    return false
  | [.id a, .id b, .id c] =>
    if op = 169 then
      define id type (← push (.select (← value a) (← value b) (← value c)))
      return true
    if op = 202 ∨ op = 203 then
      bitFunction .extractBits type id [a] [b, c]
      return true
    return false
  | [.id a, .id b, .id c, .id d] =>
    if op = 201 then
      bitFunction .insertBits type id [a, b] [c, d]
      return true
    return false
  | _ => return false

end BodyM

end ShaderKit.Spirv
