import ShaderKit.Spirv.Emit.Code.State

/-!
# Emitting accesses

Where accesses have to be robust, an index that is not known to be in range is replaced by the last one
that is, if it is greater.
-/

namespace ShaderKit.Spirv.CodeM

open Ir (AddressSpace ArraySize ExprId GlobalId Scalar Shape VectorSize)

/-- The number of the standard function that takes the smaller of two unsigned numbers. -/
def leastUnsigned : Nat := 38

/-- What is indexed: the shape behind a pointer, or that of a value. -/
def indexed (base : ExprId) : CodeM Shape := do
  match ← shapeOf base with
  | .pointer t _ => EmitM.shapeOfType t
  | .valuePointer (some n) s _ => return .vector n s
  | shape => return shape

/-- The variable that a global was emitted as. -/
def globalEntry (g : GlobalId) : CodeM EmittedGlobal := do
  match (← getThe Emit).globals.lookup g with
  | some entry => return entry
  | none => throw .layout

/-- The number of elements of an array in a buffer, which is the last member of its block. -/
def runtimeLength (array : ExprId) : CodeM Id := do
  let u32 ← EmitM.scalarType .u32
  let ofGlobal (e : ExprId) (member : Nat) : CodeM Id := do
    match ← expressionAt e with
    | .global g => do
      result Op.arrayLength u32 [(← globalEntry g).id, UInt32.ofNat member]
    | _ => throw (.unsupported "the length of this array")
  match ← expressionAt array with
  | .global _ => ofGlobal array 0
  | .accessIndex base member => ofGlobal base member
  | _ => throw (.unsupported "the length of this array")

/-- The number of elements of what is indexed. -/
inductive Length
  | known (n : Nat)
  | computed (id : Id)

/-- How many elements a value or what it points to has. -/
def lengthOf (base : ExprId) : CodeM Length := do
  match ← indexed base with
  | .vector n _ => return .known n.toNat
  | .matrix c _ _ => return .known c.toNat
  | .array _ (.constant n) _ => return .known n
  | .array _ .dynamic _ => .computed <$> runtimeLength base
  | .struct members _ => return .known members.length
  | _ => throw .layout

/-- An index, by value or as an expression with its id. -/
inductive Index
  | known (n : Nat)
  | dynamic (id : Id)

/-- The greater of an index and what is known to be the last. -/
def restrict (base : ExprId) (index : Index) : CodeM Index := do
  let isBindings := match ← indexed base with
    | .bindingArray .. => true
    | _ => false
  if isBindings || !(← robust) then return index
  match index, ← lengthOf base with
  | .known i, .known n => return .known (min i (n - 1))
  | index, length => do
    let u32 ← EmitM.scalarType .u32
    let id ← match index with
      | .known i => EmitM.number i
      | .dynamic id => pure id
    let last ← match length with
      | .known n => EmitM.number (n - 1)
      | .computed length => do result Op.iSub u32 [length, ← EmitM.number 1]
    .dynamic <$> standard u32 leastUnsigned [id, last]

/-- The id of an index. -/
def Index.id : Index → CodeM Id
  | .known n => EmitM.number n
  | .dynamic id => return id

mutual

/-- The id of the value of an expression. -/
def valueIn : Nat → ExprId → CodeM Id
  | 0, _ => throw .layout
  | fuel + 1, e => do
    if let some id := (← get).values.lookup e then return id
    if let some id ← constant? (fuel + 1) e then return id
    match ← expressionAt e with
    | .argument i => match (← get).parameters[i]? with
      | some id => return id
      | none => throw .layout
    | .global g => do
      let isHandle := ((← getThe Emit).module.globals[g]?).any (·.space = .handle)
      let pointer ← pointerIn fuel e
      if isHandle then result Op.load (← typeIdOf e) [pointer] else return pointer
    | .localVar _ => pointerIn fuel e
    | .access .. | .accessIndex .. => do
      match ← shapeOf e with
      | .pointer .. | .valuePointer .. => pointerIn fuel e
      | .image .. | .sampler _ | .accelerationStructure => do
        result Op.load (← typeIdOf e) [← pointerIn fuel e]
      | _ => throw .layout
    | _ => throw .layout

/-- The id of an index into `base`. -/
def indexIn : Nat → ExprId → ExprId → CodeM Index
  | 0, _, _ => throw .layout
  | fuel + 1, base, index => do
    match ← knownIndex? index with
    | some n => restrict base (.known n)
    | none => do restrict base (.dynamic (← valueIn fuel index))

/-- The variable that a pointer leads to, and the indices on the way, last one first. -/
def chainIn : Nat → ExprId → CodeM (Id × List Id)
  | 0, _ => throw .layout
  | fuel + 1, e => do
    match ← expressionAt e with
    | .access base index => do
      let index ← (← indexIn fuel base index).id
      let (root, indices) ← chainIn fuel base
      return (root, index :: indices)
    | .accessIndex base index => do
      let index ← match ← indexed base with
        | .struct .. => EmitM.number index
        | _ => do (← restrict base (.known index)).id
      let (root, indices) ← chainIn fuel base
      return (root, index :: indices)
    | .global g => do
      let entry ← globalEntry g
      let first ← EmitM.number 0
      return (entry.id, if entry.wrapped then [first] else [])
    | .localVar v => match (← get).locals[v]? with
      | some id => return (id, [])
      | none => throw .layout
    | .argument i => match (← get).parameters[i]? with
      | some id => return (id, [])
      | none => throw .layout
    | _ => throw .layout

/-- The id of a pointer. -/
def pointerIn : Nat → ExprId → CodeM Id
  | 0, _ => throw .layout
  | fuel + 1, e => do
    let (root, indices) ← chainIn fuel e
    if indices.isEmpty then return root
    let type ← match ← expressionAt e, ← shapeOf e with
      | .global g, _ => do
        match (← getThe Emit).module.globals[g]? with
        | some v =>
          EmitM.pointerType (AddressSpace.storageClass v.space) (← EmitM.typeId v.type)
        | none => throw .layout
      | _, .image .. | _, .sampler _ | _, .accelerationStructure => do
        EmitM.pointerType StorageClass.uniformConstant (← typeIdOf e)
      | _, _ => typeIdOf e
    result Op.accessChain type (root :: indices.reverse)

end

/-- Operands come before their uses, so their number bounds how deep they are nested. -/
def operandFuel : CodeM Nat := return 4 * (← get).function.expressions.length + 4

/-- The id of the value of an expression. -/
def value (e : ExprId) : CodeM Id := do valueIn (← operandFuel) e

/-- The id of a pointer to what an expression names. -/
def pointer (e : ExprId) : CodeM Id := do pointerIn (← operandFuel) e

/-- The index of an element, kept within bounds where that is asked for. -/
def index (base index : ExprId) : CodeM Index := do indexIn (← operandFuel) base index

/-- An element of a value.  Arrays and matrices cannot be indexed by what is not known, so they are put
into a variable first. -/
def elementOfValue (e base i : ExprId) : CodeM Id := do
  let type ← typeIdOf e
  match ← shapeOf base, ← index base i with
  | _, .known n => do result Op.compositeExtract type [← value base, UInt32.ofNat n]
  | .vector .., .dynamic id => do result Op.vectorExtractDynamic type [← value base, id]
  | _, .dynamic id => do
    let whole ← EmitM.pointerType StorageClass.function (← typeIdOf base)
    let part ← EmitM.pointerType StorageClass.function type
    let var ← EmitM.fresh
    modify fun c => { c with
      localLines := c.localLines.push ⟨Op.var, [whole, var, StorageClass.function]⟩ }
    emit Op.store [var, ← value base]
    result Op.load type [← result Op.accessChain part [var, id]]

end ShaderKit.Spirv.CodeM
