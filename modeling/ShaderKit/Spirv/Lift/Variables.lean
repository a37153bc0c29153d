import ShaderKit.Spirv.Lift.Constants

/-!
# Lifting global variables

Inputs and outputs become private variables.  The entry point copies its arguments into the inputs
before it calls the function, and returns what is in the outputs afterwards; the role of each variable is
kept for that.
-/

namespace ShaderKit.Spirv.LiftM

open Ir (AddressSpace BuiltIn ExprId GlobalVariable IoBinding Shape TypeId)

/-- The unsigned type that some builtin inputs have, whatever sign their variables are declared with. -/
def unsignedShape? : BuiltIn → Option Shape
  | .baseInstance | .baseVertex | .instanceIndex | .sampleIndex | .vertexIndex
  | .primitiveIndex | .localInvocationIndex => some (.scalar .u32)
  | .globalInvocationId | .localInvocationId | .workGroupId | .workGroupSize => some (.vector .three .u32)
  | _ => none

/-- The type of the argument that feeds an input variable of type `type`. -/
def argumentType (type : TypeId) (binding : IoBinding) : LiftM TypeId := do
  let kind := match ← shapeOf type with
    | .scalar s | .vector _ s => some s.kind
    | _ => none
  match binding with
  | .builtIn b => match unsignedShape? b, kind with
    | some shape, some .sint => intern shape
    | _, _ => return type
  | .location .. => return type

/-- What an output holds before anything is stored to it. -/
def initialOutput (builtIn : Option BuiltIn) (type : TypeId) : LiftM ExprId := do
  match builtIn with
  | some (.position _) =>
    let nil ← globalExpression (.literal (.f32 0))
    let one ← globalExpression (.literal (.f32 0x3f800000))
    globalExpression (.compose type [nil, nil, nil, one])
  | some .pointSize => globalExpression (.literal (.f32 0x3f800000))
  | some .fragDepth => globalExpression (.literal (.f32 0))
  | some .sampleMask => globalExpression (.literal (.u32 0xffffffff))
  | _ => globalExpression (.zero type)

/-- The builtin of a binding. -/
def builtInOf : Option IoBinding → Option BuiltIn
  | some (.builtIn b) => some b
  | _ => none

/-- The initial value of an output variable; outputs with a location have none. -/
def outputInit (type : TypeId) (binding : Option IoBinding) : LiftM (Option ExprId) := do
  match binding with
  | some (.builtIn b) => some <$> initialOutput (some b) type
  | some (.location ..) => return none
  | none => match ← shapeOf type with
    | .struct members _ =>
      let components ← members.mapM fun m => initialOutput (builtInOf m.binding) m.type
      some <$> globalExpression (.compose type components)
    | _ => return none

/-- Images and samplers that may turn out to be for comparisons. -/
def isComparable (types : List Ir.TypeInfo) : Shape → Bool
  | .image _ _ (.sampled .float false) => true
  | .sampler _ => true
  | .bindingArray base _ => match types[base]? with
    | some ⟨_, .image _ _ (.sampled .float false)⟩ | some ⟨_, .sampler _⟩ => true
    | _ => false
  | _ => false

/-- Storage image types are shared in the module but not here: each variable has the access that its
own decorations allow. -/
def variableType (type : TypeId) (d : Decorations) : LiftM TypeId := do
  let type ← match ← shapeOf type with
    | .pointer base _ => pure base
    | .bindingArray .. =>
      if d.resourceBinding.isNone then throw .unboundHandles else pure type
    | _ => pure type
  match ← shapeOf type with
  | .image dim arrayed (.storage format _) =>
    intern (.image dim arrayed (.storage format d.access))
  | _ => return type

/-- The part of an access that decorations allow. -/
def restrict (space : AddressSpace) (d : Decorations) : AddressSpace :=
  match space with
  | .storage a => .storage { a with load := a.load && !d.nonReadable
                                    store := a.store && !d.nonWritable }
  | space => space

/-- Lifts a global variable. -/
def variableInstruction (inst : Instruction) : LiftM Unit := do
  let some id := inst.result | throw (.instruction inst.opcode)
  let some typeId := inst.resultType | throw (.instruction inst.opcode)
  let .value .storageClass storageClass :: rest := inst.operands
    | throw (.instruction inst.opcode)
  let init ← match rest with
    | [] => pure none
    | .id initId :: _ => do
      some <$> globalExpression (← find (·.constants) initId).value.expression
    | _ => throw (.instruction inst.opcode)
  let d ← takeDecorations id
  let type ← variableType (← typeEntry typeId).type d
  let variableClass ← match (← get).storageStructs.lookup type with
    | some access => pure (.space (.storage access))
    | none => (liftStorageClass storageClass : Except _ _)
  let privateVariable (init : Option ExprId) : GlobalVariable :=
    { name := d.name, space := .private_, type, init }
  let (role, var) ← match variableClass with
    | .space space => do
      let var : GlobalVariable := {
        name := d.name
        space := restrict space d
        binding := d.resourceBinding
        type
        init }
      pure (VariableRole.global, var)
    | .input => do
      let binding ← (d.ioBinding : Except _ _)
      let argument : Ir.Argument := ⟨d.name, ← argumentType type binding, some binding⟩
      pure (.input argument, privateVariable none)
    | .output => do
      let binding := d.ioBinding.toOption
      pure (.output ⟨type, binding⟩, privateVariable (← outputInit type binding))
  let s ← get
  let global := s.module.globals.length
  let comparable := isComparable s.module.types (← shapeOf type)
  set { s with
    module := { s.module with globals := s.module.globals ++ [var] }
    sampling := if comparable then (global, {}) :: s.sampling else s.sampling
    globalVars := (id, ⟨role, global, typeId⟩) :: s.globalVars }

end ShaderKit.Spirv.LiftM
