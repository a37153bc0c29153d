import ShaderKit.Spirv.Lift.Body.Assemble

/-!
# Lifting functions

Functions are lifted callees first, so that a call always finds the function it names.
-/

namespace ShaderKit.Spirv

open Ir (ExprId Expression Shape TypeId)

/-- The instructions of one function, between its definition and its end. -/
structure FunctionText where
  id : Id
  result : Id
  type : Id
  body : Array Instruction := #[]

namespace FunctionText

/-- The function that the instruction begins. -/
def ofDefinition? (inst : Instruction) : Option FunctionText :=
  match inst.opcode == Op.function, inst.result, inst.resultType, inst.operands with
  | true, some id, some result, [.value .functionControl _, .id type] => some ⟨id, result, type, #[]⟩
  | _, _, _, _ => none

/-- Cuts the part of a module that holds its functions. -/
def split : Option FunctionText → List Instruction → Except LiftError (List FunctionText)
  | _, [] => .ok []
  | none, inst :: rest =>
    match ofDefinition? inst with
    | some f => split (some f) rest
    | none => .error (.instruction inst.opcode)
  | some f, inst :: rest =>
    if inst.opcode = Op.functionEnd then (f :: ·) <$> split none rest
    else split (some { f with body := f.body.push inst }) rest

/-- The functions that a function calls. -/
def callees (f : FunctionText) : List Id :=
  f.body.toList.filterMap fun inst =>
    match inst.opcode == 57, inst.operands with
    | true, .id callee :: _ => some callee
    | _, _ => none

/-- Functions after those that they call.  Every round takes at least one function, so `fuel` need not
exceed their number. -/
def calleesFirst : Nat → List FunctionText → Except LiftError (List FunctionText)
  | _, [] => .ok []
  | 0, _ => .error .callCycle
  | fuel + 1, pending =>
    let waits (f : FunctionText) : Bool := f.callees.any fun c => pending.any (·.id == c)
    let (later, ready) := pending.partition waits
    if ready.isEmpty then .error .callCycle else (ready ++ ·) <$> calleesFirst fuel later

end FunctionText

/-- A body in which the module's constants and variables are known and nothing else. -/
def Body.initial (s : Lift) : Body :=
  let constants := s.constants.map fun (id, c) => (id, c.value.expression, c.type)
  let globalVars := s.globalVars.map fun (id, v) => (id, Expression.global v.global, v.type)
  let all := constants ++ globalVars
  { expressions := (all.map (·.2.1)).toArray
    values := all.mapIdx fun i (id, _, type) => (id, ⟨i, type, none⟩) }

namespace BodyM

/-- A parameter of the type that the function type gives it. -/
def parameter (inst : Instruction) (expected : Id) : BodyM Unit := do
  match inst.opcode == Op.functionParameter, inst.resultType, inst.result with
  | true, some type, some id => do
    if type ≠ expected then throw .functionParameter
    let index := (← get).arguments.length
    let e ← push (.argument index)
    let argument : Ir.Argument :=
      ⟨(← LiftM.takeDecorations id).name, (← LiftM.typeEntry type).type, none⟩
    modify fun b => { b with
      values := (id, ⟨e, type, none⟩) :: b.values
      arguments := b.arguments ++ [argument]
      parameterUses := b.parameterUses ++ [{}] }
  | _, _, _ => throw .functionParameter

/-- Lifts parameters and blocks. -/
def functionBody (f : FunctionText) (parameterTypes : List Id) : BodyM (List Ir.Statement) := do
  let count := parameterTypes.length
  let parameters := f.body.toList.take count
  if parameters.length ≠ count then throw .functionParameter
  (parameters.zip parameterTypes).forM fun (inst, type) => parameter inst type
  (f.body.toList.drop count).forM instruction
  assemble

end BodyM

namespace LiftM

/-- The result of a function, if it has one. -/
def functionResult (f : FunctionText) : LiftM (Option Ir.Result) := do
  if (← get).voidType = some f.result then return none
  return some ⟨(← typeEntry f.result).type, none⟩

/-- Lifts a function whose callees have been lifted. -/
def function (f : FunctionText) : LiftM Unit := do
  let type ← find (·.functionTypes) f.type
  if type.result ≠ f.result then throw (.functionResult f.result)
  let name := (← takeDecorations f.id).name
  let result ← functionResult f
  let (body, b) ← (BodyM.functionBody f type.parameters).run (Body.initial (← get))
  let lifted : Ir.Function := {
    name
    arguments := b.arguments
    result
    locals := b.locals.toList
    expressions := b.expressions.toList
    body }
  modify fun s => { s with
    module := { s.module with functions := s.module.functions ++ [lifted] }
    functions := (f.id, s.module.functions.length) :: s.functions
    parameterUses := (f.id, b.parameterUses) :: s.parameterUses }

end LiftM

end ShaderKit.Spirv
