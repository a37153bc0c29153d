import ShaderKit.Spirv.Lift.Interface
import ShaderKit.Spirv.Lift.Variables
import ShaderKit.Spirv.Module

/-!
# Lifting modules

`liftInstructions` makes a module of the typed representation from the instructions of a SPIR-V module.
The sections of the module must come in order.
-/

namespace ShaderKit.Spirv

open Ir (ShaderStage)

/-- The extensions that a module can declare. -/
def liftedExtensions : List String :=
  ["SPV_KHR_storage_buffer_storage_class", "SPV_KHR_vulkan_memory_model", "SPV_KHR_multiview",
   "SPV_EXT_shader_atomic_float_add"]

/-- The standard instruction set. -/
def standardSetName : String := "GLSL.std.450"

/-- The rank of the section of functions, which is the last one. -/
def functionRank : Nat := 10

open Op in
/-- The rank of the section that an opcode belongs to. -/
def sectionRank? (opcode : Nat) : Option Nat :=
  [(1, [capability]), (2, [extension, extInstImport]), (3, [memoryModel]), (4, [entryPoint]),
   (5, [executionMode]), (6, [string, source, sourceExtension]),
   (7, [name, memberName, moduleProcessed]), (8, [decorate, memberDecorate]),
   (9, [typeVoid, typeBool, typeInt, typeFloat, typeVector, typeMatrix, typeImage, typeSampler,
      typeSampledImage, typeArray, typeRuntimeArray, typeStruct, typePointer, typeFunction,
      constantTrue, constantFalse, constant, constantComposite, constantNull, specConstantTrue,
      specConstantFalse, specConstant, specConstantComposite, undef, var]),
   (functionRank, [function])].findSome? fun (rank, opcodes) =>
    if opcodes.contains opcode then some rank else none

/-- The stage of an execution model. -/
def stageOf? (model : Word) : Option ShaderStage :=
  if model = ExecutionModel.vertex then some .vertex
  else if model = ExecutionModel.fragment then some .fragment
  else if model = ExecutionModel.glCompute then some .compute
  else none

/-- The execution modes that say nothing that the representation keeps: the origin of fragment
coordinates, and that depth is replaced. -/
def neutralModes : List Word := [7, 12]

/-- The execution modes that allow depth tests before the fragment is shaded: they ask for it, or say
how the new depth compares with the old one. -/
def earlyDepthModes : List Word := [9, 14, 15, 16]

/-- The execution mode that gives a workgroup's size. -/
def localSizeMode : Word := 17

namespace LiftM

/-- Enters the section of an instruction. -/
def enterSection (inst : Instruction) : LiftM Unit := do
  let some rank := sectionRank? inst.opcode | throw (.instruction inst.opcode)
  if rank < (← get).rank then throw (.sectionOrder inst.opcode)
  modify fun s => { s with rank }

/-- An import, which has to be the standard set. -/
def importSet (id : Id) (name : String) : LiftM Unit := do
  if name ≠ standardSetName then throw (.externalSet name)
  modify fun s => { s with standardSet := some id }

/-- Declares an entry point; a later one of the same function takes its place. -/
def declareEntry (model : Word) (function : Id) (name : String) (interface : List Id) :
    LiftM Unit := do
  let some stage := stageOf? model | throw (.executionModel model)
  modify fun s => { s with
    entries := (function, { stage, name, interface }) :: s.entries.filter (·.1 != function) }

/-- A mode of an entry point. -/
def executionMode (function : Id) (mode : Word) (rest : List Operand) : LiftM Unit := do
  let entry ← find (·.entries) function
  if neutralModes.contains mode then return
  let entry ← if earlyDepthModes.contains mode then pure { entry with earlyDepthTest := true }
    else if mode = localSizeMode then
      match rest with
      | [.word x, .word y, .word z] =>
        pure { entry with workgroupSize := (x.toNat, y.toNat, z.toNat) }
      | _ => throw (.executionMode mode)
    else throw (.executionMode mode)
  modify fun s => { s with entries := (function, entry) :: s.entries.filter (·.1 != function) }

/-- Lifts an instruction before the functions. -/
def declaration (inst : Instruction) : LiftM Unit := do
  enterSection inst
  let op := inst.opcode
  if [Op.capability, Op.memoryModel, Op.string, Op.source, Op.sourceExtension,
      Op.moduleProcessed].contains op then return
  if op = Op.var then variableInstruction inst
  else if op = Op.undef ∨ Op.constantTrue ≤ op then
    match op == Op.decorate, op == Op.memberDecorate, inst.operands with
    | true, _, .id target :: .value .decoration d :: rest =>
      updateDecorations target (·.apply d rest)
    | _, true, .id target :: .word member :: .value .decoration d :: rest =>
      updateMemberDecorations target member (·.apply d rest)
    | false, false, _ => constantInstruction inst
    | _, _, _ => throw (.instruction op)
  else if Op.typeVoid ≤ op then typeInstruction inst
  else match inst.result, inst.operands with
    | none, [.text name] =>
      if !liftedExtensions.contains name then throw (.extension name)
    | some id, [.text name] => importSet id name
    | none, .value .executionModel model :: .id function :: .text name :: interface =>
      declareEntry model function name (interface.filterMap (·.ref?))
    | none, .id function :: .value .executionMode mode :: rest => executionMode function mode rest
    | none, [.id target, .text name] =>
      updateDecorations target fun d => { d with name := some name }
    | none, [.id target, .word member, .text name] =>
      updateMemberDecorations target member fun d => { d with name := some name }
    | _, _ => throw (.instruction op)

/-- Lifts the functions, and then the entry points in the order in which their functions stand. -/
def functions (rest : List Instruction) : LiftM Unit := do
  let texts ← (FunctionText.split none rest : Except _ _)
  (← (FunctionText.calleesFirst texts.length texts : Except _ _)).forM function
  makeAtomic
  texts.forM fun f => do
    if let some entry := (← get).entries.lookup f.id then entryPoint f.id entry
  if (← get).lacksFunction then throw (.rule .function)
  applySampling (← get).sampling

/-- Lifts all instructions of a module. -/
def instructions (all : List Instruction) : LiftM Unit := do
  let isFunction (inst : Instruction) : Bool := inst.opcode == Op.function
  (all.takeWhile (!isFunction ·)).forM declaration
  functions (all.dropWhile (!isFunction ·))

end LiftM

/-- The typed representation of a sequence of instructions. -/
def liftInstructions (all : List Instruction) : Except LiftError Ir.Module := do
  return (← (LiftM.instructions all).run {}).2.module

end ShaderKit.Spirv
