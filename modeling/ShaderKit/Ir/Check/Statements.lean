import ShaderKit.Ir.Check.Expressions

/-!
# Statements of a function

Statements use expressions that are in scope, and pass control on where that is possible.
-/

namespace ShaderKit.Ir.Check

/-- Where control can go. -/
structure Exits where
  breaks : Bool := false
  continues : Bool := false
  returns : Bool := false
  deriving DecidableEq

/-- Which expressions have a value so far. -/
structure Progress where
  inScope : List ExprId := []
  /-- Results of statements that have been there. -/
  visited : List ExprId := []

/-- What checking a statement gives. -/
structure Outcome where
  progress : Progress
  stages : Stages := {}
  /-- Nothing can follow in the same block. -/
  finished : Bool := false

/-- What can be stored to. -/
def AddressSpace.isWritable : AddressSpace → Bool
  | .function | .private_ | .workgroup => true
  | .storage access => access.store
  | .uniform | .handle | .pushConstant => false

namespace Scope

variable (s : Scope)

/-- The shape of an expression that is in scope. -/
def visibleShape (p : Progress) (e : ExprId) : Except Fault Shape := do
  let preEmitted := (s.function.expressions[e]?).any (·.isPreEmitted)
  if !preEmitted && !p.inScope.contains e then throw (.notInScope e)
  s.shapeOf e e

/-- Brings an expression into scope. -/
def emitExpression (p : Progress) (e : ExprId) : Except Fault Progress := do
  let preEmitted := (s.function.expressions[e]?).any (·.isPreEmitted)
  if preEmitted || p.inScope.contains e then throw (.alreadyInScope e)
  return { p with inScope := e :: p.inScope }

/-- Brings the result of a statement into scope. -/
def visitResult (p : Progress) (e : ExprId) : Except Fault Progress := do
  if p.visited.contains e then throw (.alreadyInScope e)
  s.emitExpression { p with visited := e :: p.visited } e

/-- Brings a range of expressions into scope, one after another. -/
def emitRange (p : Progress) (range : Option (ExprId × ExprId)) : Except Fault Progress :=
  match range with
  | none => .ok p
  | some (first, last) =>
    (List.range (last + 1 - first)).foldlM (fun p i => s.emitExpression p (first + i)) p

/-- The variable or argument that a pointer leads to.  An access has a higher index than its base, so
`fuel` need not exceed the number of expressions. -/
def leadsToVariable : Nat → ExprId → Bool
  | 0, _ => false
  | fuel + 1, e => match s.function.expressions[e]? with
    | some (.access base _) | some (.accessIndex base _) => leadsToVariable fuel base
    | some (.localVar _) | some (.global _) | some (.argument _) => true
    | _ => false

/-- The shape that a pointer's value is stored in, and where. -/
def target? : Shape → Option (Shape × AddressSpace)
  | .pointer base space => match s.facts.module.shape? base with
    | some (.atomic t) => some (.scalar t, space)
    | some shape => some (shape, space)
    | none => none
  | .valuePointer (some n) t space => some (.vector n t, space)
  | .valuePointer none t space => some (.scalar t, space)
  | _ => none

/-- A store goes to what a pointer to a variable leads to, and the value is of that type. -/
def checkStore (p : Progress) (pointer value : ExprId) : Except Fault Unit := do
  if !s.leadsToVariable s.function.expressions.length pointer then throw (.storePointer pointer)
  let v ← s.visibleShape p value
  match v with
  | .image .. | .sampler _ => throw (.storeValue value)
  | _ => pure ()
  match s.target? (← s.shapeOf pointer pointer) with
  | some (shape, space) =>
    if shape ≠ v then throw (.storeValue value)
    if !AddressSpace.isWritable space then throw (.storePointer pointer)
  | none => throw (.storePointer pointer)

/-- The image that a statement writes to. -/
def storedImage (image : ExprId) :
    Except Fault (ImageDimension × Bool × StorageFormat × StorageAccess) := do
  match s.function.expressions[image]? with
  | some (.argument _) => throw (.image image)
  | _ => match s.handleShape? image with
    | some (.image dim arrayed (.storage format access)) => return (dim, arrayed, format, access)
    | _ => throw (.image image)

/-- The image can be stored to, and the coordinates and the layer are of the image. -/
def checkTexel (p : Progress) (image coordinate : ExprId) (arrayIndex : Option ExprId) :
    Except Fault (StorageFormat × StorageAccess) := do
  let (dim, arrayed, format, access) ← s.storedImage image
  if texelDimension? (← s.visibleShape p coordinate) ≠ some dim then throw (.image image)
  let layer ← match arrayIndex with
    | some i => some <$> s.visibleShape p i
    | none => pure none
  if !goodLayer arrayed layer then throw (.image image)
  return (format, access)

/-- An image takes four components of its format. -/
def checkImageStore (p : Progress) (image coordinate : ExprId) (arrayIndex : Option ExprId)
    (value : ExprId) : Except Fault Unit := do
  let (format, _) ← s.checkTexel p image coordinate arrayIndex
  if (← s.visibleShape p value) ≠ .vector .four format.scalar then throw (.storeValue value)

/-- The operations that texels of a format know. -/
def formatKnows (format : StorageFormat) (f : AtomicFunction) : Bool :=
  match format, f with
  | .r64Uint, .min | .r64Uint, .max => true
  | .r32Uint, .add | .r32Uint, .and | .r32Uint, .exclusiveOr | .r32Uint, .inclusiveOr
  | .r32Uint, .min | .r32Uint, .max => true
  | .r32Sint, .add | .r32Sint, .and | .r32Sint, .exclusiveOr | .r32Sint, .inclusiveOr
  | .r32Sint, .min | .r32Sint, .max => true
  | _, _ => false

/-- An image of a format for atomics takes one value of it. -/
def checkImageAtomic (p : Progress) (image coordinate : ExprId) (arrayIndex : Option ExprId)
    (f : AtomicFunction) (value : ExprId) : Except Fault Unit := do
  let (format, access) ← s.checkTexel p image coordinate arrayIndex
  if !access.atomic || !formatKnows format f then throw (.image image)
  if (← s.visibleShape p value) ≠ .scalar format.scalar then throw (.storeValue value)

/-- The operations that an atomic float, which is in a storage buffer, knows. -/
def knowsFloat : AtomicFunction → Bool
  | .add | .subtract | .exchange _ => true
  | _ => false

/-- The result of a comparing exchange: the old value, and whether there was an exchange. -/
def isExchangeResult (t : Scalar) : Shape → Bool
  | .struct [old, exchanged] _ =>
    s.facts.module.shape? old.type == some (.scalar t)
      && s.facts.module.shape? exchanged.type == some (.scalar .bool)
      && old.name == some "old_value" && exchanged.name == some "exchanged"
  | _ => false

/-- An atomic operation takes a pointer to an atomic, and a value of its type. -/
def checkAtomic (p : Progress) (pointer : ExprId) (f : AtomicFunction) (value : ExprId)
    (result : Option ExprId) : Except Fault Progress := do
  let require (good : Bool) : Except Fault Unit :=
    if good then .ok () else .error (.atomic pointer)
  let .pointer base space ← s.visibleShape p pointer | throw (.atomic pointer)
  let some (.atomic t) := s.facts.module.shape? base | throw (.atomic pointer)
  require ((← s.visibleShape p value) = .scalar t)
  let inStorage := match space with
    | .storage _ => true
    | _ => false
  require (t.kind ≠ .float || (knowsFloat f && inStorage))
  match f with
  | .exchange (some compare) => require ((← s.visibleShape p compare) = .scalar t)
  | _ => pure ()
  match result with
  | none =>
    match f with
    | .exchange none => throw (.atomic pointer)
    | _ => return p
  | some r =>
    let some (.atomicResult type comparison) := s.function.expressions[r]?
      | throw (.atomic pointer)
    let some shape := s.facts.module.shape? type | throw .layout
    match f with
    | .exchange (some _) => require (comparison && s.isExchangeResult t shape)
    | _ => require (!comparison && shape = .scalar t)
    s.visitResult p r

/-- A uniform load reads workgroup memory, and its result is what the pointer leads to. -/
def checkUniformLoad (p : Progress) (pointer result : ExprId) : Except Fault Progress := do
  let shape ← s.visibleShape p pointer
  let inWorkgroup := match shape with
    | .pointer _ .workgroup | .valuePointer _ _ .workgroup => true
    | _ => false
  if !inWorkgroup then throw (.uniformLoad pointer)
  match s.function.expressions[result]? with
  | some (.workGroupUniformLoadResult type) =>
    if !(Shape.pointer type .workgroup).isEquivalent s.moduleTypes shape then
      throw (.uniformLoad pointer)
    s.visitResult p result
  | _ => throw (.uniformLoad pointer)

/-- A ray query is in a local variable. -/
def checkRayQuery (p : Progress) (query : ExprId) (f : RayQueryFunction) :
    Except Fault Progress := do
  let isQuery := match s.function.expressions[query]? with
    | some (.localVar l) =>
      (s.function.locals[l]?).any fun l => s.facts.module.shape? l.type == some .rayQuery
    | _ => false
  if !isQuery then throw (.rayQuery query)
  match f with
  | .start structure_ descriptor =>
    if (← s.visibleShape p structure_) ≠ .accelerationStructure then throw (.rayQuery query)
    if some (← s.visibleShape p descriptor) ≠ rayDescription? s.moduleTypes then
      throw (.rayQuery query)
    return p
  | .proceed result => s.visitResult p result
  | .terminate => return p

/-- Values that an operation of a subgroup takes. -/
def takesOperand (operation : SubgroupOperation) (shape : Shape) : Bool :=
  match operation with
  | .all | .any => isScalarOf isTruth shape
  | .add | .multiply | .min | .max => isOf isNumber shape
  | .and | .or | .exclusiveOr => isOf isConcreteInteger shape

/-- Whether an operation can be taken over the invocations in order. -/
def scans (operation : SubgroupOperation) (collective : Collective) : Bool :=
  collective == .reduce || operation == .add || operation == .multiply

/-- The result of an operation of a subgroup has the type of its operand. -/
def visitSubgroupResult (p : Progress) (result : ExprId) (shape : Shape) :
    Except Fault Progress := do
  match s.function.expressions[result]? with
  | some (.subgroupResult t) =>
    if s.facts.module.shape? t ≠ some shape then throw (.subgroup result)
    s.visitResult p result
  | _ => throw (.subgroup result)

/-- A ballot takes a truth value. -/
def checkSubgroupBallot (p : Progress) (result : ExprId) (predicate : Option ExprId) :
    Except Fault Progress := do
  if let some e := predicate then
    if !isScalarOf isTruth (← s.visibleShape p e) then throw (.subgroup result)
  s.visitResult p result

/-- A collective operation takes an operand that suits it. -/
def checkSubgroupCollective (p : Progress) (operation : SubgroupOperation)
    (collective : Collective) (argument result : ExprId) : Except Fault Progress := do
  let shape ← s.visibleShape p argument
  if !takesOperand operation shape || !scans operation collective then throw (.subgroup result)
  s.visitSubgroupResult p result shape

/-- A gather takes a number, and the index of an invocation if it needs one. -/
def checkSubgroupGather (p : Progress) (mode : GatherMode) (argument result : ExprId) :
    Except Fault Progress := do
  if let some index := mode.index? then
    if (← s.visibleShape p index) ≠ .scalar .u32 then throw (.subgroup result)
  let shape ← s.visibleShape p argument
  if !isOf isNumber shape then throw (.subgroup result)
  s.visitSubgroupResult p result shape

/-- A call passes what the function takes, and takes a result if there is one. -/
def checkCall (p : Progress) (f : FunctionId) (arguments : List ExprId)
    (result : Option ExprId) : Except Fault Outcome := do
  let some callee := s.facts.module.functions[f]? | throw (.call f)
  let some stages := s.callees[f]? | throw (.call f)
  if callee.arguments.length ≠ arguments.length then throw (.call f)
  (callee.arguments.zip arguments).forM fun (a, e) => do
    let shape ← s.visibleShape p e
    if !((s.facts.module.shape? a.type).any (·.isEquivalent s.moduleTypes shape)) then
      throw (.call f)
  match result, callee.result with
  | none, none => return { progress := p, stages }
  | some r, some _ =>
    if s.function.expressions[r]? ≠ some (.callResult f) then throw (.call f)
    return { progress := ← s.visitResult p r, stages }
  | _, _ => throw (.call f)

/-- What is returned is what the function gives. -/
def checkReturn (p : Progress) (value : Option ExprId) : Except Fault Unit := do
  match value, s.function.result with
  | none, none => return
  | some e, some r =>
    let shape ← s.visibleShape p e
    if !((s.facts.module.shape? r.type).any (·.isEquivalent s.moduleTypes shape)) then
      throw .returned
  | _, _ => throw .returned

/-- A condition is a truth value. -/
def checkCondition (p : Progress) (e : ExprId) : Except Fault Unit := do
  if !isScalarOf isTruth (← s.visibleShape p e) then throw (.condition e)

/-- The values of a switch: of the kind of the selector, different, and with one default. -/
def checkCases (p : Progress) (selector : ExprId) (cases : List (SwitchValue × Bool)) :
    Except Fault Unit := do
  let kind := (← s.visibleShape p selector).scalar?.map Scalar.kind
  if kind ≠ some .sint ∧ kind ≠ some .uint then throw (.selector selector)
  let fits : SwitchValue → Bool
    | .i32 _ => kind == some .sint
    | .u32 _ => kind == some .uint
    | .fallback => true
  let values := cases.map (·.1)
  let isDistinct := values.all fun v => values.count v == 1
  let lastFalls := cases.getLast?.any (·.2)
  if !values.all fits || !isDistinct || !values.contains .fallback || lastFalls then
    throw .cases

mutual

/-- Checks a statement where control can take the given exits. -/
def checkStatement (exits : Exits) : Statement → Progress → Except Fault Outcome
  | .emit range, p => return { progress := ← s.emitRange p range }
  | .block body, p => do
    let o ← checkStatements exits body p
    return { o with progress := { o.progress with inScope := p.inScope }, finished := false }
  | .branch condition accept reject, p => do
    s.checkCondition p condition
    let a ← checkStatements exits accept p
    let r ← checkStatements exits reject { a.progress with inScope := p.inScope }
    return { progress := { r.progress with inScope := p.inScope }, stages := a.stages.meet r.stages }
  | .switch selector cases, p => do
    s.checkCases p selector (cases.map fun (v, _, falls) => (v, falls))
    checkBodies { exits with breaks := true } cases p
  | .loop body continuing breakIf, p => do
    let o ← checkStatements { exits with breaks := true, continues := true } body p
    let c ← checkStatements {} continuing o.progress
    if let some e := breakIf then s.checkCondition c.progress e
    return {
      progress := { c.progress with inScope := p.inScope }
      stages := o.stages.meet c.stages }
  | .breakLoop, p =>
    if exits.breaks then .ok { progress := p, finished := true } else .error .control
  | .continueLoop, p =>
    if exits.continues then .ok { progress := p, finished := true } else .error .control
  | .ret value, p => do
    if !exits.returns then throw .control
    s.checkReturn p value
    return { progress := p, finished := true }
  | .kill, p => .ok { progress := p, stages := .fragmentOnly, finished := true }
  | .barrier _, p => .ok { progress := p, stages := .computeOnly }
  | .store pointer value, p => do
    s.checkStore p pointer value
    return { progress := p }
  | .imageStore image coordinate arrayIndex value, p => do
    s.checkImageStore p image coordinate arrayIndex value
    return { progress := p }
  | .atomic pointer f value result, p => do
    return { progress := ← s.checkAtomic p pointer f value result }
  | .imageAtomic image coordinate arrayIndex f value, p => do
    s.checkImageAtomic p image coordinate arrayIndex f value
    return { progress := p }
  | .workGroupUniformLoad pointer result, p => do
    return { progress := ← s.checkUniformLoad p pointer result, stages := .computeOnly }
  | .call f arguments result, p => s.checkCall p f arguments result
  | .rayQuery query f, p => do return { progress := ← s.checkRayQuery p query f }
  | .subgroupBallot result predicate, p => do
    return { progress := ← s.checkSubgroupBallot p result predicate }
  | .subgroupCollective operation collective argument result, p => do
    return { progress := ← s.checkSubgroupCollective p operation collective argument result }
  | .subgroupGather mode argument result, p => do
    return { progress := ← s.checkSubgroupGather p mode argument result }

/-- Checks statements one after the other; nothing can follow one that passes control on. -/
def checkStatements (exits : Exits) : List Statement → Progress → Except Fault Outcome
  | [], p => .ok { progress := p }
  | [last], p => checkStatement exits last p
  | first :: rest, p => do
    let a ← checkStatement exits first p
    if a.finished then throw .unreachable
    let b ← checkStatements exits rest a.progress
    return { b with stages := a.stages.meet b.stages }

/-- Checks the bodies of a switch, each in a scope of its own. -/
def checkBodies (exits : Exits) :
    List (SwitchValue × List Statement × Bool) → Progress → Except Fault Outcome
  | [], p => .ok { progress := p }
  | (_, body, _) :: rest, p => do
    let a ← checkStatements exits body p
    let b ← checkBodies exits rest { a.progress with inScope := p.inScope }
    return { b with stages := a.stages.meet b.stages }

end

/-- Checks the body of the function; every result of a statement has to get its value. -/
def checkBody : Except Fault Stages := do
  let o ← s.checkStatements { returns := true } s.function.body {}
  let missing := s.function.expressions.zipIdx.find? fun (e, i) =>
    e.isStatementResult && !o.progress.visited.contains i
  match missing with
  | some (.workGroupUniformLoadResult _, _) | none => return o.stages
  | some (_, i) => throw (.unvisited i)

end Scope

end ShaderKit.Ir.Check
