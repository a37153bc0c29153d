import ShaderKit.Spirv.Lift.Body.Access
import ShaderKit.Spirv.Lift.Body.Effect
import ShaderKit.Spirv.Lift.Body.Image
import ShaderKit.Spirv.Lift.Body.Operator

/-!
# Lifting blocks

Instructions of a function are lifted one by one.  Merge instructions say where constructs end; a branch
then either goes on in the same region, leaves a construct, or opens regions of its own.
-/

namespace ShaderKit.Spirv.BodyM

open Ir (ExprId Shape Statement)

/-- What a branch to the end of a construct adds to the region it leaves. -/
def Merge.fragments : Merge → Array Fragment
  | .loopContinue => #[.again]
  | .loopMerge | .switchMerge => #[.leave]
  | .selectionMerge => #[]

/-- Starts the block with this label, in the region that the label belongs to. -/
def openBlock (label : Id) : BodyM Unit := do
  placeLabel label 0
  modify fun b => { b with
    label
    region := (b.regionOf.lookup label).getD 0
    statements := #[]
    pending := none
    selection := none
    isOpen := true }

/-- Ends the block, and adds it to its region. -/
def closeBlock : BodyM Unit := do
  flush
  let b ← get
  addFragment b.region (.block b.label)
  modify fun b => { b with
    finished := (b.label, b.statements) :: b.finished
    isOpen := false }

/-- Ends the block with a statement. -/
def closeWith (s : Statement) : BodyM Unit := do
  statement s
  closeBlock

/-- What a label ends, if anything. -/
def mergeOf? (label : Id) : BodyM (Option Merge) := return (← get).merges.lookup label

/-- A selection begins, and ends at the label. -/
def selectionMerge (merge : Id) : BodyM Unit := do
  placeLabel merge (← get).region
  addMerge merge .selectionMerge
  modify fun b => { b with selection := some merge }

/-- A loop begins; it ends at one label and continues at the other. -/
def loopMerge (merge continuing : Id) : BodyM Unit := do
  let b ← get
  placeLabel merge b.region
  addMerge merge .loopMerge
  let body ← addRegion b.region
  let rest ← addRegion body
  placeLabel continuing rest
  addMerge continuing .loopContinue
  moveLabel b.label body
  addFragment b.region (.loop body rest none)
  modify fun b => { b with region := body }

/-- A jump: into a block, or out of what the target ends. -/
def branch (target : Id) : BodyM Unit := do
  match ← mergeOf? target with
  | some m => do
    closeBlock
    let region := (← get).region
    (Merge.fragments m).forM fun f => addFragment region f
  | none => do
    placeLabel target (← get).region
    closeBlock

/-- The loop, as the last fragment of its region, whose continuing part is the region being lifted. -/
def enclosingLoop? (b : Body) : Option (Nat × Nat) := do
  let parent ← b.regions[b.region]?
  let grandparent ← b.regions[parent.parent]?
  let outer ← b.regions[grandparent.parent]?
  match outer.fragments.back? with
  | some (.loop body continuing none) =>
    if continuing = b.region then some (grandparent.parent, body) else none
  | _ => none

/-- A conditional branch at the end of a continuing part that either leaves the loop or starts it anew:
the condition on which it leaves. -/
def breakCondition? (condition : ExprId) (body : Nat) (accept reject : Id) :
    BodyM (Option ExprId) := do
  let leaves (label : Id) : BodyM Bool := return (← mergeOf? label) = some .loopMerge
  let restarts (label : Id) : BodyM Bool := do
    return (← mergeOf? label).isNone && (← get).regionOf.lookup label == some body
  if (← leaves accept) && (← restarts reject) then return some condition
  if (← leaves reject) && (← restarts accept) then
    return some (← push (.unary .logicalNot condition))
  return none

/-- A region for one side of a branch. -/
def branchRegion (target : Id) : BodyM Nat := do
  let parent := (← get).region
  match ← mergeOf? target with
  | some m => addRegion parent (Merge.fragments m)
  | none => do
    let r ← addRegion parent
    moveLabel target r
    return r

/-- Gives the loop at the end of a region the condition that it ends by. -/
def setBreak (region : Nat) (condition : ExprId) : BodyM Unit := modify fun b =>
  { b with regions := b.regions.modify region fun r =>
      { r with fragments := match r.fragments.back? with
          | some (.loop body continuing _) =>
            r.fragments.pop.push (.loop body continuing (some condition))
          | _ => r.fragments } }

/-- A jump to one of two blocks, or the condition that ends a loop. -/
def branchConditional (condition accept reject : Id) : BodyM Unit := do
  let c ← value condition
  if let some (outer, body) := enclosingLoop? (← get) then
    if let some leave := ← breakCondition? c body accept reject then
      setBreak outer leave
      closeBlock
      return
  closeBlock
  let region := (← get).region
  if accept = reject then
    match ← mergeOf? accept with
    | some m => (Merge.fragments m).forM fun f => addFragment region f
    | none => moveLabel accept region
  else
    let a ← branchRegion accept
    let r ← branchRegion reject
    addFragment region (.branch c a r)

/-- The words of literals and targets. -/
def caseWords (targets : List Operand) : List Word :=
  targets.flatMap fun
    | .word w | .value _ w => [w]
    | .wide w => [w.toUInt32, (w >>> 32).toUInt32]
    | .id target => [target]
    | _ => []

/-- The literals of each target, in the order in which the targets first come.  Every literal is taken to be
one word. -/
def groupTargets : List Word → Except LiftError (List (Id × List Word))
  | [] => .ok []
  | [_] => .error .switchPairs
  | literal :: target :: rest => do
    let groups ← groupTargets rest
    match groups.lookup target with
    | some literals => return (target, literal :: literals) :: groups.filter (·.1 != target)
    | none => return (target, [literal]) :: groups

/-- The cases of one target: all literals but the first fall through to the first. -/
def switchCases (region : Nat) (target : Id) (literals : List Word) :
    BodyM (List (Int32 × Nat)) := do
  let fragments := ((← mergeOf? target).map Merge.fragments).getD #[]
  let body ← addRegion region fragments
  placeLabel target body
  match literals with
  | [] => return []
  | first :: more => do
    let others ← more.mapM fun l => return (l.toInt32, ← addRegion region)
    return others ++ [(first.toInt32, body)]

/-- The selector of a switch, as a signed number. -/
def selectorValue (selector : Id) : BodyM ExprId := do
  let some v := (← get).values.lookup selector | throw (.rule (.selector selector))
  let e ← valueOf selector v
  match ← shapeOfId v.type with
  | .scalar ⟨.uint, _⟩ => push (.convert e .sint none)
  | .scalar ⟨.sint, _⟩ => return e
  | _ => throw (.rule (.selector selector))

/-- A jump by a selector. -/
def switch (selector fallback : Id) (targets : List Operand) : BodyM Unit := do
  let b ← get
  if let some merge := b.selection then
    modify fun b => { b with merges := (merge, .switchMerge) :: b.merges }
  let region := b.region
  let fallbackRegion ← addRegion region
  placeLabel fallback fallbackRegion
  let e ← selectorValue selector
  let groups ← (groupTargets (caseWords targets) : Except _ _)
  let cases ← groups.mapM fun (target, literals) => switchCases region target literals
  closeBlock
  addFragment region (.switch e cases.flatten fallbackRegion)

/-- At most one word says how memory is accessed, and it changes nothing. -/
def isPlainAccess (operands : List Operand) : Bool :=
  match operands with
  | [] | [.value .memoryAccess _] => true
  | _ => false

/-- The instructions that have a result. -/
def resultInstruction (inst : Instruction) (type id : Id) : BodyM Unit := do
  let op := inst.opcode
  let ids := inst.operands.filterMap (·.ref?)
  let words := inst.operands.filterMap fun
    | .word w => some w.toNat
    | _ => none
  match op, ids with
  | 65, base :: indices | 66, base :: indices => accessChain type id base indices
  | 61, [pointer] =>
    if isPlainAccess (inst.operands.drop 1) then load type id pointer
    else throw (.instruction op)
  | 68, [struct] => arrayLength type id struct (words.headD 0)
  | 77, [composite, index] => vectorExtract type id composite index
  | 78, [composite, object, index] => vectorInsert type id composite object index
  | 79, [first, second] => vectorShuffle type id first second words
  | 80, parts => compositeConstruct type id parts
  | 81, [composite] => compositeExtract type id composite words
  | 82, [object, composite] => compositeInsert type id object composite words
  | _, _ =>
    if ← operatorInstruction? op type id inst.operands then return
    if ← imageInstruction? op type id inst.operands then return
    if ← effectInstruction? op type id inst.operands then return
    throw (.instruction op)

/-- The instructions that have no result, terminators included. -/
def plainInstruction (inst : Instruction) : BodyM Unit := do
  match inst.opcode, inst.operands with
  | 8, _ | 317, _ => return
  | 62, .id pointer :: .id object :: access =>
    if isPlainAccess access then store pointer object else throw (.instruction inst.opcode)
  | 63, .id target :: .id source :: access => do
    if !isPlainAccess access then throw (.instruction inst.opcode)
    let t ← value target
    let e ← push (.load (← value source))
    statement (.store t e)
  | 99, .id image :: .id coordinate :: .id texel :: _ => imageStore image coordinate texel
  | 224, [.scope execution, .scope _, .semantics semantics] => controlBarrier execution semantics
  | 228, [.id pointer, .scope _, .semantics _, .id object] => atomicStore pointer object
  | 246, .id merge :: .id continuing :: _ => loopMerge merge continuing
  | 247, .id merge :: _ => selectionMerge merge
  | 249, [.id target] => branch target
  | 250, .id condition :: .id accept :: .id reject :: _ =>
    branchConditional condition accept reject
  | 251, .id selector :: .id fallback :: targets => switch selector fallback targets
  | 252, _ => closeWith .kill
  | 253, _ => closeWith (.ret none)
  | 254, [.id result] => do closeWith (.ret (some (← value result)))
  | 255, _ => closeBlock
  | op, _ => throw (.instruction op)

/-- Lifts the next instruction of a function. -/
def instruction (inst : Instruction) : BodyM Unit := do
  if (← get).isOpen then
    match inst.resultType, inst.result with
    | some type, some id => resultInstruction inst type id
    | _, _ => plainInstruction inst
  else if inst.opcode = Op.label then
    match inst.result with
    | some id => openBlock id
    | none => throw (.instruction inst.opcode)
  else if inst.opcode = Op.line then return
  else throw (.instruction inst.opcode)

end ShaderKit.Spirv.BodyM
