import ShaderKit.Spirv.Lift.Types

/-!
# Lifting constants

Constants with a specialization id become overrides.
-/

namespace ShaderKit.Spirv.LiftM

open Ir (ExprId Literal TypeId)

/-- Adds the constant that an instruction declares. -/
def declareConstant (id typeId : Id) (type : TypeId) (init : ExprId) : LiftM Unit := do
  let d ← takeDecorations id
  let s ← get
  let m := s.module
  match d.specId with
  | some spec =>
    if 65536 ≤ spec.toNat then throw (.specId spec)
    let override : Ir.Override := { name := d.name, id := some spec.toNat, type, init := some init }
    set { s with
      module := { m with overrides := m.overrides ++ [override] }
      constants := (id, ⟨.overridden m.overrides.length, typeId⟩) :: s.constants }
  | none =>
    let constant : Ir.Constant := { name := d.name, type, init }
    set { s with
      module := { m with constants := m.constants ++ [constant] }
      constants := (id, ⟨.constant m.constants.length, typeId⟩) :: s.constants }

/-- The literal that stands in a constant of the given type. -/
def literalOf (typeId : Id) (shape : Ir.Shape) (operand : Operand) : LiftM Literal := do
  match shape, operand with
  | .scalar ⟨.uint, 4⟩, .word w => return .u32 w
  | .scalar ⟨.uint, 8⟩, .wide w => return .u64 w
  | .scalar ⟨.sint, 4⟩, .word w => return .i32 w.toInt32
  | .scalar ⟨.sint, 8⟩, .wide w => return .i64 w.toInt64
  | .scalar ⟨.float, 4⟩, .word w => return .f32 w
  | .scalar ⟨.float, 8⟩, .wide w => return .f64 w
  | _, _ => throw (.constantType typeId)

/-- Lifts an instruction that declares a constant. -/
def constantInstruction (inst : Instruction) : LiftM Unit := do
  let some id := inst.result | throw (.instruction inst.opcode)
  let some typeId := inst.resultType | throw (.instruction inst.opcode)
  let type := (← typeEntry typeId).type
  let op := inst.opcode
  let init ←
    if op = Op.constant ∨ op = Op.specConstant then do
      match inst.operands with
      | [operand] => globalExpression (.literal (← literalOf typeId (← shapeOf type) operand))
      | _ => throw (.instruction op)
    else if op = Op.constantComposite ∨ op = Op.specConstantComposite then do
      let components ← (inst.operands.filterMap (·.ref?)).mapM fun c => do
        globalExpression (← find (·.constants) c).value.expression
      globalExpression (.compose type components)
    else if op = Op.constantNull ∨ op = Op.undef then globalExpression (.zero type)
    else globalExpression (.literal (.bool (op == Op.constantTrue || op == Op.specConstantTrue)))
  declareConstant id typeId type init

end ShaderKit.Spirv.LiftM
