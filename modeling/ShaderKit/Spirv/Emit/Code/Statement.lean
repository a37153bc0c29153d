import ShaderKit.Spirv.Emit.Code.Image
import ShaderKit.Spirv.Emit.Code.Math
import ShaderKit.Spirv.Emit.Code.RayQuery
import ShaderKit.Spirv.Emit.Code.Subgroup

/-!
# Emitting statements

Statements become blocks in structured control flow.  A construct names the block after it before it
branches.
-/

namespace ShaderKit.Spirv.CodeM

open Ir (AddressSpace AtomicFunction Barrier ExprId Expression FunctionId Shape Statement
  SwitchValue)

/-- The scope and the memory that atomic accesses through a pointer are ordered in. -/
def atomicScope (p : ExprId) : CodeM (Id × Id) := do
  match ← shapeOf p with
  | .pointer _ .workgroup => return (← EmitM.number 2, ← EmitM.number 0x100)
  | _ => return (← EmitM.number 1, ← EmitM.number 0x40)

/-- The value behind a pointer. -/
def loadFrom (e p : ExprId) : CodeM Id := do
  let type ← typeIdOf e
  match ← indexed p with
  | .atomic _ => do
    let (scope, semantics) ← atomicScope p
    result Op.atomicLoad type [← pointer p, scope, semantics]
  | _ => do result Op.load type [← pointer p]

/-- Whether an expression leads to a place and has no value of its own. -/
def isPlace (e : ExprId) : CodeM Bool := do
  match ← shapeOf e with
  | .pointer .. | .valuePointer .. | .image .. | .sampler _ | .accelerationStructure => return true
  | _ => return false

/-- The id of an expression that comes into scope; none if it is put together where it is used. -/
def compute? (e : ExprId) : CodeM (Option Id) := do
  if (← isPlace e) ∨ (← constant? (← operandFuel) e).isSome then return none
  let type ← typeIdOf e
  match ← expressionAt e with
  | .access base i => some <$> elementOfValue e base i
  | .accessIndex base i =>
    some <$> result Op.compositeExtract type [← value base, UInt32.ofNat i]
  | .compose _ parts => some <$> result Op.compositeConstruct type (← parts.mapM value)
  | .splat n v => some <$> result Op.compositeConstruct type (List.replicate n.toNat (← value v))
  | .swizzle _ v pattern =>
    let id ← value v
    let places := pattern.map UInt32.ofNat
    some <$> result Op.vectorShuffle type (id :: id :: places)
  | .load p => some <$> loadFrom e p
  | .unary op a => some <$> unary e op a
  | .binary op a b => some <$> binary e op a b
  | .select c a r => some <$> select e c a r
  | .derivative axis control a =>
    if control ≠ .none then EmitM.require 51
    some <$> result (derivativeOpcode axis control) type [← value a]
  | .relational f a => some <$> result (relationalOpcode f) type [← value a]
  | .math f a b c d => some <$> math e f (a :: b.toList ++ c.toList ++ d.toList)
  | .convert a kind width => some <$> convert e a kind width
  | .imageSample image sampler gather place layer offset level depthRef =>
    some <$> sample e image sampler gather place layer offset level depthRef
  | .imageLoad image place layer sampleIndex level =>
    some <$> load e image place layer sampleIndex level
  | .imageQuery image q => some <$> query e image q
  | .arrayLength a => some <$> runtimeLength a
  | .rayQueryIntersection query committed => some <$> rayQueryIntersection e query committed
  | _ => return none

/-- Computes an expression that comes into scope. -/
def bring (e : ExprId) : CodeM Unit := do
  if let some id ← compute? e then setValue e id

/-- The opcodes of an atomic operation. -/
def atomicOpcode (f : AtomicFunction) : OpcodeByKind :=
  let both (op : Nat) : OpcodeByKind := { sint := some op, uint := some op }
  match f with
  | .add => { both 234 with float := some Op.atomicFAdd }
  | .subtract => { both 235 with float := some Op.atomicFAdd }
  | .and => both 240
  | .inclusiveOr => both 241
  | .exclusiveOr => both 242
  | .min => { sint := some 236, uint := some 237 }
  | .max => { sint := some 238, uint := some 239 }
  | .exchange _ => { sint := some 229, uint := some 229, float := some 229 }

/-- Changes a number in memory atomically. -/
def atomic (p : ExprId) (f : AtomicFunction) (v : ExprId) (resultOf : Option ExprId) :
    CodeM Unit := do
  let type ← typeIdOf v
  let (scope, semantics) ← atomicScope p
  let place ← pointer p
  let operand ← value v
  let id ← match f with
    | .exchange (some compare) => do
      let expected ← value compare
      let old ← result Op.atomicCompareExchange type
        [place, scope, semantics, semantics, operand, expected]
      let same ← result Op.iEqual (← EmitM.scalarType .bool) [old, expected]
      match resultOf with
      | some r => result Op.compositeConstruct (← typeIdOf r) [old, same]
      | none => pure old
    | f => do
      let opcode ← opcodeFor (atomicOpcode f) (← kindOf v)
      if opcode = Op.atomicFAdd then
        EmitM.require 6033
        EmitM.useExtension "SPV_EXT_shader_atomic_float_add"
      -- A float is taken away by adding its negative.
      let operand ← if opcode = Op.atomicFAdd ∧ f = .subtract then
          result 127 type [operand]
        else pure operand
      result opcode type [place, scope, semantics, operand]
  if let some r := resultOf then setValue r id

/-- A barrier for the memory that it names. -/
def barrier (b : Barrier) : CodeM Unit := do
  let bits := 8 + (if b.storage then 0x40 else 0) + (if b.workGroup then 0x100 else 0)
    + (if b.subGroup then 0x80 else 0) + (if b.texture then 0x800 else 0)
  let execution := if b.subGroup then 3 else 2
  let memory := if b.storage || b.texture then 1 else execution
  emit Op.controlBarrier
    [← EmitM.number execution, ← EmitM.number memory, ← EmitM.number bits]

/-- Reads workgroup memory between two barriers. -/
def uniformLoad (p r : ExprId) : CodeM Unit := do
  let b : Barrier := ⟨false, true, false, false⟩
  barrier b
  setValue r (← result Op.load (← typeIdOf r) [← pointer p])
  barrier b

/-- Calls a function. -/
def call (f : FunctionId) (arguments : List ExprId) (resultOf : Option ExprId) :
    CodeM Unit := do
  let some callee := (← getThe Emit).functions.lookup f | throw .layout
  let operands ← arguments.mapM value
  let type ← match resultOf with
    | some r => typeIdOf r
    | none => EmitM.voidType
  let id ← result Op.functionCall type (callee :: operands)
  if let some r := resultOf then setValue r id

/-- Returns; an entry point stores its result to its outputs. -/
def ret (v : Option ExprId) : CodeM Unit := do
  match (← get).outputs, v with
  | some outputs, some e => do
    let whole ← value e
    outputs.forM fun o => do
      let part ← match o.member with
        | none => pure whole
        | some i => result Op.compositeExtract o.type [whole, UInt32.ofNat i]
      emit Op.store [o.id, part]
    terminate Op.ret []
  | none, some e => do terminate Op.returnValue [← value e]
  | _, none => terminate Op.ret []

/-- Puts a value behind a pointer. -/
def store (p v : ExprId) : CodeM Unit := do
  let place ← pointer p
  let id ← value v
  match ← indexed p with
  | .atomic _ => do
    let (scope, semantics) ← atomicScope p
    emit Op.atomicStore [place, scope, semantics, id]
  | _ => emit Op.store [place, id]

/-- The labels of the cases of a switch; an empty case that falls through has that of the next. -/
def caseLabels : List (SwitchValue × List Statement × Bool) → CodeM (List Id)
  | [] => return []
  | (_, body, fallsThrough) :: rest => do
    let labels ← caseLabels rest
    match labels with
    | next :: _ => if fallsThrough ∧ body.isEmpty then return next :: labels
    | [] => pure ()
    return (← EmitM.fresh) :: labels

/-- The targets of a switch. -/
def switchTargets (cases : List (SwitchValue × Id)) : List Word :=
  cases.flatMap fun (v, label) => match v with
    | .i32 n => [n.toUInt32, label]
    | .u32 n => [n, label]
    | .fallback => []

mutual

/-- Writes a statement. -/
def statement : Statement → CodeM Unit
  | .emit none => return
  | .emit (some (first, last)) =>
    (List.range (last + 1 - first)).forM fun i => bring (first + i)
  | .block body => statements body
  | .branch condition accept reject => do
    let c ← value condition
    let merge ← EmitM.fresh
    let yes ← EmitM.fresh
    let no ← EmitM.fresh
    emit Op.selectionMerge [merge, 0]
    terminate Op.branchConditional [c, yes, no]
    openBlock yes
    statements accept
    branchTo merge
    openBlock no
    statements reject
    branchTo merge
    openBlock merge
  | .switch selector cases => do
    let s ← value selector
    let merge ← EmitM.fresh
    let labels ← caseLabels cases
    let targets := (cases.map (·.1)).zip labels
    let fallback := (targets.lookup .fallback).getD merge
    emit Op.selectionMerge [merge, 0]
    terminate Op.switch (s :: fallback :: switchTargets targets)
    let outer := (← get).leave
    modify fun c => { c with leave := some merge }
    switchCases merge labels cases
    modify fun c => { c with leave := outer }
    openBlock merge
  | .loop body continuing breakIf => do
    let header ← EmitM.fresh
    let inner ← EmitM.fresh
    let next ← EmitM.fresh
    let merge ← EmitM.fresh
    branchTo header
    openBlock header
    emit Op.loopMerge [merge, next, 0]
    terminate Op.branch [inner]
    let c ← get
    modify fun c => { c with leave := some merge, again := some next }
    openBlock inner
    statements body
    branchTo next
    openBlock next
    statements continuing
    match breakIf with
    | some e => do terminate Op.branchConditional [← value e, merge, header]
    | none => branchTo header
    modify fun now => { now with leave := c.leave, again := c.again }
    openBlock merge
  | .breakLoop => do
    match (← get).leave with
    | some label => terminate Op.branch [label]
    | none => throw .layout
  | .continueLoop => do
    match (← get).again with
    | some label => terminate Op.branch [label]
    | none => throw .layout
  | .ret v => ret v
  | .kill => terminate Op.kill []
  | .barrier b => barrier b
  | .store p v => store p v
  | .imageStore image place layer texel => imageStore image place layer texel
  | .atomic p f v resultOf => atomic p f v resultOf
  | .imageAtomic image place layer f v => imageAtomic image place layer f v
  | .workGroupUniformLoad p r => uniformLoad p r
  | .call f arguments resultOf => call f arguments resultOf
  | .rayQuery query f => rayQuery query f
  | .subgroupBallot resultOf predicate => subgroupBallot resultOf predicate
  | .subgroupCollective operation collective argument resultOf =>
    subgroupCollective operation collective argument resultOf
  | .subgroupGather mode argument resultOf => subgroupGather mode argument resultOf

/-- Statements up to the first that ends the block. -/
def statements : List Statement → CodeM Unit
  | [] => return
  | s :: rest => do
    statement s
    if (← get).isOpen then statements rest

/-- Writes the cases of a switch, each under its label. -/
def switchCases (merge : Id) : List Id → List (SwitchValue × List Statement × Bool) → CodeM Unit
  | label :: labels, (_, body, fallsThrough) :: rest => do
    if !(fallsThrough ∧ body.isEmpty ∧ labels.head? = some label) then
      openBlock label
      statements body
      branchTo (if fallsThrough then labels.head?.getD merge else merge)
    switchCases merge labels rest
  | _, _ => return

end

end ShaderKit.Spirv.CodeM
