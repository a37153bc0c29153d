import ShaderKit.Spirv.Lift.Body.Atomic
import ShaderKit.Spirv.Lift.Body.Subgroup

/-!
# Lifting variables, calls and barriers
-/

namespace ShaderKit.Spirv.BodyM

open Ir (Expression ExprId)

/-- A variable of the function. -/
def localVariable (type id : Id) (init : Option Id) : BodyM Unit := do
  let init ← init.mapM fun c => do push (← LiftM.find (·.constants) c).value.expression
  let name ← LiftM.takeDecorations id
  let entry ← LiftM.typeEntry type
  let pointee ← match ← LiftM.shapeOf entry.type with
    | .pointer base _ => pure base
    | _ => pure entry.type
  let var ← addLocal { name := name.name, type := pointee, init }
  define id type (← push (.localVar var))

/-- A value that depends on where control came from: predecessors store it to a variable. -/
def phi (type id : Id) (sources : List (Id × Id)) : BodyM Unit := do
  let var ← addLocal { name := some s!"phi_{id}", type := ← typeOf type }
  let pointer ← push (.localVar var)
  modify fun b => { b with transfers := b.transfers.push ⟨var, sources⟩ }
  define id type (← push (.load pointer))

/-- Takes over how the callee uses an image or sampler that is passed to it. -/
def passUse (argument : ExprId) (use : SamplingUse) : BodyM Unit := do
  if use = {} then return
  match ← expressionAt argument with
  | .global g => modifyThe Lift fun s => { s with
      sampling := s.sampling.map fun (h, u) => if h = g then (h, u.union use) else (h, u) }
  | .argument i => modify fun b => { b with
      parameterUses := b.parameterUses.modify i (·.union use) }
  | _ => throw .comparison

/-- A call.  A function that is not there is an error only when the whole module has been read. -/
def functionCall (type id callee : Id) (arguments : List Id) : BodyM Unit := do
  let values ← arguments.mapM enclosedValue
  let s ← getThe Lift
  let function := s.functions.lookup callee
  if function.isNone then modifyThe Lift fun s => { s with lacksFunction := true }
  let function := function.getD s.module.functions.length
  let uses := (s.parameterUses.lookup callee).getD []
  (values.zip uses).forM fun (v, use) => passUse v use
  if s.voidType = some type then statement (.call function values none)
  else
    let result ← push (.callResult function)
    define id type result
    statement (.call function values (some result))

/-- The scope of all invocations of a workgroup. -/
def workgroupScope : UInt32 := 2

/-- A barrier for a workgroup; for any other scope nothing needs to be done. -/
def controlBarrier (execution semantics : Id) : BodyM Unit := do
  let scope ← scopeConstant execution
  let bits ← scopeConstant semantics
  if scope = workgroupScope then
    statement (.barrier {
      storage := bits &&& 0x40 != 0
      workGroup := bits &&& 0x100 != 0
      subGroup := bits &&& 0x80 != 0
      texture := bits &&& 0x800 != 0 })

/-- The pairs of value and predecessor of a phi. -/
def pairs : List Id → List (Id × Id)
  | a :: b :: rest => (a, b) :: pairs rest
  | _ => []

/-- Lifts an instruction with a result and an effect, or says that it is none. -/
def effectInstruction? (op : Nat) (type id : Id) (operands : List Operand) : BodyM Bool := do
  if ← atomicInstruction? op type id operands then return true
  if ← subgroupInstruction? op type id operands then return true
  match op, operands with
  | 59, [.value .storageClass _] => localVariable type id none
  | 59, [.value .storageClass _, .id init] => localVariable type id (some init)
  | 1, [] => do define id type (← pushPending (.zero (← typeOf type)))
  | 245, rest => phi type id (pairs (rest.filterMap (·.ref?)))
  | 57, .id callee :: rest => functionCall type id callee (rest.filterMap (·.ref?))
  | 83, [.id operand] => do define id type (← value operand)
  | _, _ => return false
  return true

end ShaderKit.Spirv.BodyM
