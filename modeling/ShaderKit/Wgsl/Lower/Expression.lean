import ShaderKit.Wgsl.Lower.BuiltinCall
import ShaderKit.Wgsl.Syntax

/-!
# Types and expressions of a source

Names are looked up, and everything else is given its meaning part by part.
-/

namespace ShaderKit.Wgsl

open Ir (ArraySize FunctionId Scalar Shape TypeId TypeInfo VectorSize)

namespace Lower

/-- The scalar that a type is. -/
def scalarOfType (t : TypeId) : Lower Scalar := do
  match ← shapeOfType t with
  | .scalar s => return s
  | _ => throw .scalarExpected

/-- A length that is known when the pipeline is created is the value of an override. -/
def overriddenLength (length : Term) : Lower ArraySize := do
  match Shape.scalarOf? (← shapeOfTerm length) with
  | some s => if s.kind ≠ .sint ∧ s.kind ≠ .uint then throw .arrayLength
  | none => throw .arrayLength
  let e ← expression length
  match (← get).arena.expressions[e]? with
  | some (.overridden o) => return .pending o
  | _ =>
    let type ← typeId (← typeOf e)
    let id := (← get).module.overrides.length
    modifyModule fun m =>
      { m with overrides := m.overrides ++ [{ type, init := some e : Ir.Override }] }
    return .pending id

/-- The length of an array: a positive number. -/
def knownLength (length : Term) : Lower ArraySize := do
  match length.value?.bind (Value.index? (← types)) with
  | some (n + 1) => return .constant (n + 1)
  | _ => throw .arrayLength

/-- A number of the module's that may depend on overrides. -/
def knownOrOverridden {α : Type} (number : Pending) (known overridden : Term → Lower α) : Lower α :=
  atModuleScope <| tryCatch (do known (← taken number)) fun
    | .value .overridden => knownBy .pipeline do overridden (← taken number)
    | fault => throw fault

/-- The type that a name stands for. -/
def namedType (name : String) : Lower TypeId := do
  match ← meaning? name with
  | some (.type t) => return t
  | some _ => throw (.notType name)
  | none => throw (.undefined name)

/-- A local name stands for a value, which is not there outside of its function. -/
def localTerm (t : Term) : Lower Term := do
  let s ← get
  if s.draft.isNone then throw (.value .notConstant)
  if s.deadline ≠ .runtime ∧ t.value?.isNone then throw (.value .notConstant)
  return t

/-- The value that a name stands for; local names hide global ones. -/
def named (name : String) : Lower Term := do
  if let some t ← local? name then return ← localTerm t
  match ← meaning? name with
  | some (.constant c v) => return if (← get).draft.isSome then .constant c v else .value v
  | some (.overridden o) => .plain <$> push (.overridden o)
  | some (.variable_ g) =>
    let e ← push (.global g)
    let space := (← get).module.globals[g]?.map (·.space)
    return if space = some .handle then .plain e else .reference e
  | some _ => throw (.notValue name)
  | none => throw (.undefined name)

/-- Calls a function of the source.  Arguments are converted to the types of the parameters, and those beyond
them get a type. -/
def callFunction (f : FunctionId) (args : List Pending) : Lower (Option Term) := do
  let some callee := (← get).module.functions[f]? | throw (.typing .undefined)
  let operands ← args.zipIdx.mapM fun (arg, i) => do
    let t ← loaded (← arg)
    match callee.arguments[i]? with
    | some p => expression (← convertToType p.type t)
    | none => expression (← concretize t)
  if (← deadline) ≠ .runtime then throw (.value .notConstant)
  let result ← if callee.result.isSome then some <$> push (.callResult f) else pure none
  statement (.call f operands result)
  return result.map .plain

/-- Calls what a name stands for. -/
def call (name : String) (isStatement : Bool) (args : List Pending) : Lower (Option Term) := do
  match ← meaning? name with
  | some (.function f) => callFunction f args
  | some (.type t) =>
    return some (← construct (.type t) (← args.mapM fun a => do loaded (← a)))
  | some _ => throw (.notFunction name)
  | none => builtinCall name isStatement args

mutual

/-- The type that is written, with the name that it gets if it is not a name itself. -/
def typeAs (name : Option String) : TypeSyntax → Lower TypeId
  | .scalar s => intern ⟨name, .scalar s⟩
  | .vector n component => do
    let s ← scalarOfType (← typeAs none component)
    intern ⟨name, .vector n s⟩
  | .matrix c r component => do
    let s ← scalarOfType (← typeAs none component)
    if s.kind ≠ .float then throw .matrixScalar
    intern ⟨name, .matrix c r s⟩
  | .atomic s => intern ⟨name, .atomic s⟩
  | .pointer base space => do
    let base ← typeAs none base
    intern ⟨name, .pointer base space⟩
  | .array element length => do
    let base ← typeAs none element
    let size ← lengthOf length
    let some extent := Ir.extent? (← types) base | throw .notConstructible
    intern ⟨name, .array base size extent.stride⟩
  | .bindingArray element length => do
    let base ← typeAs none element
    let size ← lengthOf length
    intern ⟨name, .bindingArray base size⟩
  | .image dim arrayed imageClass => intern ⟨name, .image dim arrayed imageClass⟩
  | .sampler comparison => intern ⟨name, .sampler comparison⟩
  | .accelerationStructure => intern ⟨name, .accelerationStructure⟩
  | .rayQuery => intern ⟨name, .rayQuery⟩
  | .rayDescription => rayDescription
  | .rayIntersection => rayIntersection
  | .named n => namedType n

/-- The length of an array. -/
def lengthOf : Option Expr → Lower ArraySize
  | none => return .dynamic
  | some length => knownOrOverridden (term length) knownLength overriddenLength

/-- What a constructor makes. -/
def target : Constructor → Lower Target
  | .type t => Target.type <$> typeAs none t
  | .vector n => return .vector n
  | .matrix c r => return .matrix c r
  | .array => return .array

/-- What an expression stands for; what is in memory is not loaded. -/
def term : Expr → Lower Term
  | .literal l => return .value (.literal l)
  | .name name => named name
  | .construct c args => do
    let c ← target c
    construct c (← (arguments args).mapM fun a => do loaded (← a))
  | .unary op e => do unary op (← loaded (← term e))
  | .addressOf e => do addressOf (← term e)
  | .dereference e => do dereference (← taken (term e))
  | .binary op l r => do
    let l ← loaded (← term l)
    binary op l (← loaded (← term r))
  | .call name args => do
    match ← call name false (arguments args) with
    | some t => return t
    | none => throw (.returnsNothing name)
  | .index base i => do
    let base ← term base
    element base (← taken (term i))
  | .member base field => do member (← term base) field
  | .bitcast t e => do
    let e ← taken (term e)
    match ← shapeOfType (← typeAs none t) with
    | .scalar s | .vector _ s => bitcast s.kind e
    | _ => throw .conversion

/-- The arguments of a call. -/
def arguments : List Expr → List Pending
  | [] => []
  | e :: rest => term e :: arguments rest

end

/-- The type that is written. -/
def type (t : TypeSyntax) : Lower TypeId := typeAs none t

/-- The value of an expression; what is in memory is loaded. -/
def value (e : Expr) : Lower Term := do loaded (← term e)

/-- The value of an expression, with a type. -/
def typedValue (e : Expr) : Lower Term := taken (term e)

/-- The number that a term is. -/
def numberOf (t : Term) : Lower Nat := do
  match t.value?.bind (Value.index? (← types)) with
  | some n => return n
  | none => throw (.value .index)

/-- A number that is known before the program runs. -/
def knownNumber (e : Expr) : Lower Nat := atModuleScope do numberOf (← typedValue e)

/-- The type and the value of a declaration that has at least one of them.  A value is converted to the
type; without a type it has its own. -/
def typeAndValue (name : String) (t : Option TypeSyntax) (init : Option Expr) :
    Lower (TypeId × Option Term) := do
  let declared ← t.mapM fun t => atModuleScope (type t)
  match declared, init with
  | some t, some e => return (t, some (← convertToType t (← value e)))
  | none, some e =>
    let v ← typedValue e
    return (← typeId (← typeOfTerm v), some v)
  | some t, none => return (t, none)
  | none, none => throw (.untyped name)

end Lower

end ShaderKit.Wgsl
