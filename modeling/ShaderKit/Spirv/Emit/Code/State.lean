import ShaderKit.Spirv.Emit.Types

/-!
# The state of emitting a function

Expressions get ids when they come into scope.  Constants, parameters and variables have ids from the
start, and pointers are put together where memory is accessed.
-/

namespace ShaderKit.Spirv

open Ir (ExprId Expression Literal Shape ValueType VectorSize)

/-- An output of an entry point: the variable, and the member of the result that it gets. -/
structure OutputVariable where
  id : Id
  type : Id
  member : Option Nat
  deriving DecidableEq

/-- What is known while the code of a function is written. -/
structure Code where
  function : Ir.Function
  types : Array ValueType
  parameters : Array Id := #[]
  locals : Array Id := #[]
  values : List (ExprId × Id) := []
  /-- Variables, which come first in the function. -/
  localLines : Array Line := #[]
  lines : Array Line := #[]
  /-- Whether a block is open. -/
  isOpen : Bool := true
  /-- Where a loop or a switch is left to, and where a loop goes on. -/
  leave : Option Id := none
  again : Option Id := none
  /-- The outputs, if the function is an entry point. -/
  outputs : Option (List OutputVariable) := none

/-- An action that writes code of a function. -/
abbrev CodeM := StateT Code EmitM

namespace CodeM

/-- Writes an instruction. -/
def emit (opcode : Nat) (words : List Word) : CodeM Unit :=
  modify fun c => { c with lines := c.lines.push ⟨opcode, words⟩ }

/-- Adds an instruction with a result of a type. -/
def result (opcode : Nat) (type : Id) (words : List Word) : CodeM Id := do
  let id ← EmitM.fresh
  emit opcode (type :: id :: words)
  return id

/-- A function of the standard set. -/
def standard (type : Id) (number : Nat) (arguments : List Id) : CodeM Id := do
  result Op.extInst type ((← getThe Emit).standardSet :: UInt32.ofNat number :: arguments)

/-- Ends the block. -/
def terminate (opcode : Nat) (words : List Word) : CodeM Unit := do
  emit opcode words
  modify fun c => { c with isOpen := false }

/-- Ends the block with a branch, if one is open. -/
def branchTo (label : Id) : CodeM Unit := do
  if (← get).isOpen then terminate Op.branch [label]

/-- Starts a block. -/
def openBlock (label : Id) : CodeM Unit := do
  emit Op.label [label]
  modify fun c => { c with isOpen := true }

/-- The expression of that number. -/
def expressionAt (e : ExprId) : CodeM Expression := do
  match (← get).function.expressions[e]? with
  | some x => return x
  | none => throw .layout

/-- The type of an expression. -/
def typeOf (e : ExprId) : CodeM ValueType := do
  match (← get).types[e]? with
  | some t => return t
  | none => throw .layout

/-- The shape of the type of an expression. -/
def shapeOf (e : ExprId) : CodeM Shape := do
  match (← typeOf e).shape? (← getThe Emit).module.types with
  | some shape => return shape
  | none => throw .layout

/-- The id of the type of an expression. -/
def typeIdOf (e : ExprId) : CodeM Id := do EmitM.valueType (← typeOf e)

/-- Notes the id of the value of an expression. -/
def setValue (e : ExprId) (id : Id) : CodeM Unit :=
  modify fun c => { c with values := (e, id) :: c.values }

/-- Indices are to be kept within bounds. -/
def robust : CodeM Bool := return (← getThe Emit).options.robust

/-- The id of an expression of the module, which is a constant. -/
def globalConstant : Nat → ExprId → EmitM Id
  | 0, _ => throw .layout
  | fuel + 1, e => do
    let m := (← get).module
    match m.globalExpressions[e]? with
    | some (.literal l) => EmitM.literal l
    | some (.zero t) => do EmitM.constantOnce Op.constantNull (← EmitM.typeId t) []
    | some (.constant c) => match m.constants[c]? with
      | some c => globalConstant fuel c.init
      | none => throw .layout
    | some (.compose t parts) => do
      let ids ← parts.mapM (globalConstant fuel)
      EmitM.constantOnce Op.constantComposite (← EmitM.typeId t) ids
    | some (.splat n part) => do
      let id ← globalConstant fuel part
      match m.globalExpressions[part]? with
      | some (.literal l) =>
        EmitM.constantOnce Op.constantComposite (← EmitM.vectorType n l.scalar)
          (List.replicate n.toNat id)
      | _ => throw .layout
    | _ => throw .layout

/-- An expression of the module comes after its operands, and so does a constant after its value. -/
def globalFuel (m : Ir.Module) : Nat := m.globalExpressions.length + m.constants.length + 1

/-- The id of an expression that is a constant. -/
def constant? : Nat → ExprId → CodeM (Option Id)
  | 0, _ => return none
  | fuel + 1, e => do
    match ← expressionAt e with
    | .literal l => some <$> EmitM.literal l
    | .zero t => do some <$> EmitM.constantOnce Op.constantNull (← EmitM.typeId t) []
    | .constant c => do
      let m := (← getThe Emit).module
      match m.constants[c]? with
      | some c => some <$> globalConstant (globalFuel m) c.init
      | none => throw .layout
    | .compose t parts => do
      match ← parts.mapM (constant? fuel) with
      | ids => match ids.mapM id with
        | some ids => do some <$> EmitM.constantOnce Op.constantComposite (← EmitM.typeId t) ids
        | none => return none
    | _ => return none

/-- The integer that an expression is known to be. -/
def knownIndex? (e : ExprId) : CodeM (Option Nat) := do
  let m := (← getThe Emit).module
  let ofLiteral : Expression → Option Nat
    | .literal (.u32 n) => some n.toNat
    | .literal (.i32 n) => if 0 ≤ n.toInt then some n.toInt.toNat else none
    | .zero _ => some 0
    | _ => none
  match ← expressionAt e with
  | .constant c => return do ofLiteral (← m.globalExpressions[(← m.constants[c]?).init]?)
  | e => return ofLiteral e

end CodeM

end ShaderKit.Spirv
