import ShaderKit.Spirv.Emit.Code.Access

/-!
# Emitting operators

The instruction of an operator depends on the kind of its operands.  What has no instruction of its own
is put together from several.
-/

namespace ShaderKit.Spirv.CodeM

open Ir (BinaryOp DerivativeAxis DerivativeControl ExprId Literal RelationalFunction Scalar
  ScalarKind Shape UnaryOp VectorSize)

/-- The instructions of an operator on floats, signed integers, unsigned integers and truth values. -/
structure OpcodeByKind where
  float : Option Nat := none
  sint : Option Nat := none
  uint : Option Nat := none
  bool : Option Nat := none

/-- The opcode for a kind of scalars. -/
def OpcodeByKind.of (o : OpcodeByKind) : ScalarKind → Option Nat
  | .float => o.float
  | .sint => o.sint
  | .uint => o.uint
  | .bool => o.bool
  | .abstractInt | .abstractFloat => none

/-- The opcodes of an operator on two values. -/
def binaryOpcode : BinaryOp → OpcodeByKind
  | .add => ⟨some 129, some 128, some 128, none⟩
  | .subtract => ⟨some 131, some 130, some 130, none⟩
  | .multiply => ⟨some 133, some 132, some 132, none⟩
  | .divide => ⟨some 136, some 135, some 134, none⟩
  | .modulo => ⟨some 140, some 138, some 137, none⟩
  | .equal => ⟨some 180, some 170, some 170, some 164⟩
  | .notEqual => ⟨some 182, some 171, some 171, some 165⟩
  | .less => ⟨some 184, some 177, some 176, none⟩
  | .lessEqual => ⟨some 188, some 179, some 178, none⟩
  | .greater => ⟨some 186, some 173, some 172, none⟩
  | .greaterEqual => ⟨some 190, some 175, some 174, none⟩
  | .and => ⟨none, some 199, some 199, some 167⟩
  | .exclusiveOr => ⟨none, some 198, some 198, some 165⟩
  | .inclusiveOr => ⟨none, some 197, some 197, some 166⟩
  | .logicalAnd => ⟨none, none, none, some 167⟩
  | .logicalOr => ⟨none, none, none, some 166⟩
  | .shiftLeft => ⟨none, some 196, some 196, none⟩
  | .shiftRight => ⟨none, some 195, some 194, none⟩

/-- The opcodes of an operator on one value. -/
def unaryOpcode : UnaryOp → OpcodeByKind
  | .negate => ⟨some 127, some 126, none, none⟩
  | .logicalNot => ⟨none, none, none, some 168⟩
  | .bitwiseNot => ⟨none, some 200, some 200, none⟩

/-- The opcode of a derivative. -/
def derivativeOpcode : DerivativeAxis → DerivativeControl → Nat
  | .x, .none => 207
  | .y, .none => 208
  | .width, .none => 209
  | .x, .fine => 210
  | .y, .fine => 211
  | .width, .fine => 212
  | .x, .coarse => 213
  | .y, .coarse => 214
  | .width, .coarse => 215

/-- The opcode of a test. -/
def relationalOpcode : RelationalFunction → Nat
  | .any => 154
  | .all => 155
  | .isNan => 156
  | .isInf => 157

/-- The opcode for a kind of scalars, which has to be there. -/
def opcodeFor (o : OpcodeByKind) (kind : ScalarKind) : CodeM Nat :=
  match o.of kind with
  | some op => return op
  | none => throw (.unsupported "an operator on these operands")

/-- The kind of scalars that an expression is made of. -/
def kindOf (e : ExprId) : CodeM ScalarKind := do
  match (← shapeOf e).scalar? with
  | some s => return s.kind
  | none => throw .layout

/-- The type of values of a shape. -/
def shapeType (shape : Shape) : CodeM Id := do EmitM.valueType (.shape shape)

/-- A vector whose components are all the same. -/
def splat (n : VectorSize) (s : Scalar) (id : Id) : CodeM Id := do
  result Op.compositeConstruct (← EmitM.vectorType n s) (List.replicate n.toNat id)

/-- The columns of a matrix. -/
def columnsOf (c r : VectorSize) (s : Scalar) (id : Id) : CodeM (List Id) := do
  let column ← EmitM.vectorType r s
  (List.range c.toNat).mapM fun i => result Op.compositeExtract column [id, UInt32.ofNat i]

/-- An operation on matrices, column by column. -/
def columnwise (opcode : Nat) (c r : VectorSize) (s : Scalar) (left right : Id) : CodeM Id := do
  let column ← EmitM.vectorType r s
  let pairs := (← columnsOf c r s left).zip (← columnsOf c r s right)
  let ids ← pairs.mapM fun (a, b) => result opcode column [a, b]
  result Op.compositeConstruct (← EmitM.matrixType c r s) ids

/-- A product, which has an opcode for each pair of shapes. -/
def product (type : Id) (l r : Shape) (left right : Id) : CodeM Id := do
  match l, r with
  | .matrix .., .matrix .. => result 146 type [left, right]
  | .matrix .., .vector .. => result 145 type [left, right]
  | .vector .., .matrix .. => result 144 type [left, right]
  | .matrix .., .scalar _ => result 143 type [left, right]
  | .scalar _, .matrix .. => result 143 type [right, left]
  | .vector n s, .scalar _ =>
    if s.kind = .float then result 142 type [left, right]
    else result 132 type [left, ← splat n s right]
  | .scalar _, .vector n s =>
    if s.kind = .float then result 142 type [right, left]
    else result 132 type [← splat n s left, right]
  | _, _ =>
    let kind := (l.scalar?.map Scalar.kind).getD .float
    result (← opcodeFor (binaryOpcode .multiply) kind) type [left, right]

/-- The value of an operator on two expressions. -/
def binary (e : ExprId) (op : BinaryOp) (l r : ExprId) : CodeM Id := do
  let type ← typeIdOf e
  let left ← value l
  let right ← value r
  let shape ← shapeOf l
  if op = .multiply then return ← product type shape (← shapeOf r) left right
  let opcode ← opcodeFor (binaryOpcode op) (← kindOf l)
  match shape with
  | .matrix columns rows s => columnwise opcode columns rows s left right
  | _ => result opcode type [left, right]

/-- The value of an operator on one expression, on matrices column by column. -/
def unary (e : ExprId) (op : UnaryOp) (operand : ExprId) : CodeM Id := do
  let opcode ← opcodeFor (unaryOpcode op) (← kindOf operand)
  let id ← value operand
  match ← shapeOf operand with
  | .matrix c r s => do
    let column ← EmitM.vectorType r s
    let ids ← (← columnsOf c r s id).mapM fun x => result opcode column [x]
    result Op.compositeConstruct (← typeIdOf e) ids
  | _ => result opcode (← typeIdOf e) [id]

/-- One of two values, by a condition for all components or one for each. -/
def select (e condition accept reject : ExprId) : CodeM Id := do
  let c ← value condition
  let c ← match ← shapeOf condition, ← shapeOf accept with
    | .scalar _, .vector n _ => splat n .bool c
    | _, _ => pure c
  result Op.select (← typeIdOf e) [c, ← value accept, ← value reject]

/-- A number in every component of a scalar or vector. -/
def everywhere (shape : Shape) (l : Literal) : CodeM Id := do
  let id ← EmitM.literal l
  match shape with
  | .vector n _ => do
    EmitM.constantOnce Op.constantComposite (← EmitM.vectorType n l.scalar)
      (List.replicate n.toNat id)
  | _ => return id

/-- The zero of a scalar type. -/
def zeroOf (s : Scalar) : CodeM Literal :=
  match Literal.zero? s with
  | some l => return l
  | none => throw .layout

/-- The one of a number type. -/
def oneOf (s : Scalar) : CodeM Literal :=
  match ([.u32 1, .i32 1, .f32 0x3f800000, .u64 1, .i64 1, .f64 0x3ff0000000000000] :
    List Literal).find? (·.scalar = s) with
  | some l => return l
  | none => throw .layout

/-- The conversion between numbers of different kinds or widths; none if the bits stay as they are. -/
def conversionOpcode? (source target : Scalar) : Option Nat :=
  match source.kind, target.kind with
  | .float, .uint => some 109
  | .float, .sint => some 110
  | .sint, .float => some 111
  | .uint, .float => some 112
  | .float, .float => if source.width = target.width then none else some 115
  | .uint, .uint | .uint, .sint => if source.width = target.width then none else some 113
  | .sint, .sint | .sint, .uint => if source.width = target.width then none else some 114
  | _, _ => none

/-- A number of another type; first the width changes and then the sign. -/
def convertNumber (shape : Shape) (source target : Scalar) (id : Id) : CodeM Id := do
  let shaped (s : Scalar) : Shape := match shape with
    | .vector n _ => .vector n s
    | _ => .scalar s
  let type ← shapeType (shaped target)
  match conversionOpcode? source target with
  | some op =>
    let middle : Scalar :=
      if source.kind.isInteger && target.kind.isInteger then ⟨source.kind, target.width⟩
      else target
    let converted ← result op (← shapeType (shaped middle)) [id]
    if middle = target then return converted else result Op.bitcast type [converted]
  | none => if source.kind = target.kind then return id else result Op.bitcast type [id]

/-- An expression as another kind of scalars: converted, or the same bits. -/
def convert (e operand : ExprId) (kind : ScalarKind) (width : Option Nat) : CodeM Id := do
  let shape ← shapeOf operand
  let some source := shape.scalar? | throw .layout
  let id ← value operand
  let type ← typeIdOf e
  match width with
  | none => if source.kind = kind then return id else result Op.bitcast type [id]
  | some w =>
    let target : Scalar := ⟨kind, w⟩
    if source = target then return id
    if let .matrix c r s := shape then
      let columns ← (← columnsOf c r s id).mapM (convertNumber (.vector r s) s target)
      return ← result Op.compositeConstruct type columns
    if kind = .bool then
      let zero ← everywhere shape (← zeroOf source)
      return ← result (if source.kind = .float then 183 else 171) type [id, zero]
    if source.kind = .bool then
      let zero ← everywhere shape (← zeroOf target)
      return ← result Op.select type [id, ← everywhere shape (← oneOf target), zero]
    convertNumber shape source target id

end ShaderKit.Spirv.CodeM
