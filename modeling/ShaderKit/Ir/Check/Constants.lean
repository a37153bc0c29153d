import ShaderKit.Ir.Check.Components

/-!
# Constants

Global expressions, constants, overrides and global variables.
-/

namespace ShaderKit.Ir.Check

/-- When the value of an expression is known. -/
inductive Constness
  | constant | pipeline | runtime
  deriving DecidableEq

namespace Constness

/-- The later of two times. -/
def max : Constness → Constness → Constness
  | runtime, _ | _, runtime => runtime
  | pipeline, _ | _, pipeline => pipeline
  | constant, constant => constant

/-- When the value of an expression is known, given when those before it are. -/
def ofExpression (known : Array Constness) (e : Expression) : Constness :=
  let operands := e.operands.foldl (fun c i => c.max ((known[i]?).getD runtime)) constant
  match e with
  | .literal _ | .zero _ | .constant _ => constant
  | .overridden _ => pipeline
  | .compose .. | .splat .. | .accessIndex .. | .access .. | .swizzle .. | .unary .. | .binary ..
  | .math .. | .convert .. | .select .. | .relational .. | .arrayLength _ => operands
  | _ => runtime

/-- When the values of a list of expressions are known. -/
def ofAll (expressions : List Expression) : Array Constness :=
  expressions.foldl (fun known e => known.push (ofExpression known e)) #[]

end Constness

/-- What has been found out about a module before its functions are looked at. -/
structure Facts where
  module : Module
  types : Array TypeFacts
  globalTypes : Array ValueType
  globalConstness : Array Constness

namespace Facts

variable (f : Facts)

/-- The shape of a type of expressions. -/
def shape? (t : ValueType) : Option Shape := t.shape? f.module.types

/-- The shape of a global expression. -/
def globalShape? (e : ExprId) : Option Shape := do f.shape? (← f.globalTypes[e]?)

/-- What is known of a type. -/
def typeFacts (t : TypeId) : TypeFacts := (f.types[t]?).getD {}

/-- Whether a global expression has a type. -/
def hasType (e : ExprId) (t : TypeId) : Bool :=
  match f.globalShape? e, f.module.shape? t with
  | some a, some b => a.isEquivalent f.module.types b
  | _, _ => false

/-- A global expression is a literal, a constant, a zero value, or made of such. -/
def checkGlobalExpression (index : ExprId) (e : Expression) : Except Fault Unit := do
  match e with
  | .literal l => checkLiteral l
  | .constant _ | .overridden _ | .zero _ => return
  | .compose type components =>
    let some shape := f.module.shape? type | throw .layout
    let some parts := components.mapM f.globalShape? | throw .layout
    checkCompose f.module.types shape parts
  | .splat _ value => match f.globalShape? value with
    | some (.scalar _) => return
    | _ => throw .splat
  | _ => if f.globalConstness[index]? = some .constant then throw .notConstant

/-- A constant has a constant value of its type. -/
def checkConstant (c : Constant) : Except Fault Unit := do
  if !(f.typeFacts c.type).constructible then throw .notConstructible
  if f.globalConstness[c.init]? ≠ some .constant then throw .notConstant
  if !f.hasType c.init c.type then throw .initializer

/-- An override is a scalar, and its value is of its type. -/
def checkOverride (o : Override) : Except Fault Unit := do
  if !(f.typeFacts o.type).constructible then throw .notConstructible
  match f.module.shape? o.type with
  | some (.scalar s) =>
    if !([.bool, .i32, .u32, .f32, .f64] : List Scalar).contains s then throw .overrideType
  | _ => throw .overrideType
  match o.init with
  | some init => if !f.hasType init o.type then throw .initializer
  | none => return

/-- No two overrides have the same id. -/
def checkOverrideIds : List Override → Except Fault Unit
  | [] => .ok ()
  | o :: rest =>
    match o.id with
    | some id =>
      if rest.any (·.id == some id) then .error (.overrideId id) else checkOverrideIds rest
    | none => checkOverrideIds rest

/-- What a variable of an address space needs of its type. -/
def checkSpace (space : AddressSpace) (shape : Shape) (t : TypeFacts) : Except Fault Unit :=
  let require (good : Bool) : Except Fault Unit :=
    if good then .ok () else .error .variableType
  match space with
  | .function => .error .variableType
  | .storage access => do
    if t.storage.isNone then throw .storageLayout
    if access = .writeOnly then throw .writeOnlyBuffer
    require (t.data && t.hostShareable)
  | .uniform => do
    if t.uniform.isNone then throw .uniformLayout
    require (t.data && t.copy && t.sized && t.hostShareable)
  | .handle => match shape with
    | .image .. | .sampler _ | .accelerationStructure | .rayQuery => .ok ()
    | _ => .error .variableType
  | .private_ => require t.constructible
  | .workgroup => require (t.data && t.sized)
  | .pushConstant => require (t.data && t.copy && t.sized && t.hostShareable)

/-- Whether variables of a space are bound by the host. -/
def isResource : AddressSpace → Bool
  | .storage _ | .uniform | .handle => true
  | _ => false

/-- The type that counts for a variable: for an array of bindings it is the type of one of them. -/
def boundType (v : GlobalVariable) : Except Fault TypeId :=
  match f.module.shape? v.type with
  | some (.bindingArray base _) =>
    if isResource v.space then .ok base else .error .variableType
  | _ => .ok v.type

/-- A global variable has a type that its space can hold, a binding if it is a resource, and a value only if
it is private. -/
def checkGlobal (v : GlobalVariable) : Except Fault Unit := do
  let type ← f.boundType v
  let some shape := f.module.shape? type | throw .layout
  checkSpace v.space shape (f.typeFacts type)
  if isResource v.space ≠ v.binding.isSome then throw .binding
  match v.init with
  | none => return
  | some init =>
    if v.space ≠ .private_ then throw .initializer
    if f.globalConstness[init]? = some .runtime then throw .notConstant
    if !f.hasType init v.type then throw .initializer

end Facts

/-- Everything outside of functions. -/
def checkDeclarations (m : Module) : Except Fault Facts := do
  let types ← allTypeFacts m.types
  let globalTypes ← ((TypingScope.ofModule m).typesOf m.globalExpressions).mapError
    fun (e, fault) => Fault.typing e fault
  let f : Facts := ⟨m, types, globalTypes, Constness.ofAll m.globalExpressions⟩
  m.globalExpressions.zipIdx.forM fun (e, i) => f.checkGlobalExpression i e
  m.constants.forM f.checkConstant
  Facts.checkOverrideIds m.overrides
  m.overrides.forM f.checkOverride
  m.globals.forM f.checkGlobal
  return f

end ShaderKit.Ir.Check
