import ShaderKit.Ir.Compact
import ShaderKit.Wgsl.Lower.Statement
import ShaderKit.Wgsl.Names
import ShaderKit.Wgsl.Parser.Declaration

/-!
# Declarations of a source

The module that a source stands for.  Functions are complete before those that call them are taken.
-/

namespace ShaderKit.Wgsl

open Ir (Interpolation IoBinding Sampling Scalar ScalarKind StructMember TypeId)

/-- How an interface value is interpolated if it does not say so itself. -/
def defaultInterpolation (s : Option Scalar) (interpolation : Option Interpolation)
    (sampling : Option Sampling) : Option Interpolation × Option Sampling :=
  match s.map Scalar.kind, interpolation with
  | some .float, none => (some .perspective, some .center)
  | some .sint, none | some .uint, none => (some .flat, none)
  | _, given => (given, sampling)

mutual

/-- A body in which every way to its end returns. -/
def withReturn : List Ir.Statement → List Ir.Statement
  | [] => [.ret none]
  | [s] => endWithReturn s
  | s :: rest => s :: withReturn rest

/-- The last statement of a body, and a return after it if it does not leave on its own. -/
def endWithReturn : Ir.Statement → List Ir.Statement
  | .block body => [.block (withReturn body)]
  | .branch condition accept reject =>
    [.branch condition (withReturn accept) (withReturn reject)]
  | .switch selector cases => [.switch selector (casesWithReturn cases)]
  | .emit range => [.emit range]
  | .breakLoop => [.breakLoop]
  | .continueLoop => [.continueLoop]
  | .ret value => [.ret value]
  | .kill => [.kill]
  | s => [s, .ret none]

/-- Cases that end with a return, unless they go on with the next one. -/
def casesWithReturn : List (Ir.SwitchValue × List Ir.Statement × Bool) →
    List (Ir.SwitchValue × List Ir.Statement × Bool)
  | [] => []
  | (value, body, fallsThrough) :: rest =>
    (value, if fallsThrough then body else withReturn body, fallsThrough)
      :: casesWithReturn rest

end

namespace Lower

/-- The binding of an input or output. -/
def binding (t : TypeId) : BindingSyntax → Lower IoBinding
  | .builtIn b => return .builtIn b
  | .location l second interpolation sampling => do
    let location ← knownNumber l
    let (interpolation, sampling) :=
      defaultInterpolation (← shapeOfType t).scalar? interpolation sampling
    return .location location second interpolation sampling

/-- What is left of an offset, which has 32 bits. -/
def wrapped (offset : Nat) : Nat := offset % Ir.twoPow 32

/-- The members of a struct from an offset on, with the alignment of the struct and its end. -/
def structMembers (offset alignment : Nat) :
    List MemberSyntax → Lower (List StructMember × Nat × Nat)
  | [] => return ([], alignment, offset)
  | m :: rest => do
    let t ← type m.type
    let some extent := Ir.extent? (← types) t | throw .notConstructible
    let size ← match m.size with
      | none => pure extent.size
      | some e => do
        let size ← knownNumber e
        if size < extent.size then throw .memberSize
        pure size
    let own ← match m.alignment with
      | none => pure extent.alignment
      | some e => do
        let own ← knownNumber e
        if own < extent.alignment ∨ own &&& (own - 1) ≠ 0 then throw .memberAlignment
        pure own
    let io ← m.binding.mapM (binding t)
    let start := wrapped (Ir.alignUp own offset)
    let (rest, alignment, stop) ←
      structMembers (wrapped (start + size)) (max alignment own) rest
    return (⟨some m.name, t, io, start⟩ :: rest, alignment, stop)

/-- The type of a struct, with the layout of its members. -/
def structType (name : String) (members : List MemberSyntax) : Lower TypeId := do
  let (members, alignment, stop) ← structMembers 0 1 members
  intern { name := some name, shape := .struct members (wrapped (Ir.alignUp alignment stop)) }

/-- Declares a constant. -/
def globalConstant (name : String) (t : Option TypeSyntax) (e : Expr) : Lower Unit := do
  let (type, init) ← typeAndValue name t (some e)
  match init.bind Term.value? with
  | some v =>
    define name (.constant (← get).module.constants.length v)
    let init ← place v
    modifyModule fun m => { m with constants := m.constants ++ [⟨some name, type, init⟩] }
  | none => throw (.value .notConstant)

/-- Declares an override. -/
def globalOverride (name : String) (id : Option Expr) (t : Option TypeSyntax)
    (init : Option Expr) : Lower Unit := do
  let (type, init) ← knownBy .pipeline (typeAndValue name t init)
  let init ← init.mapM expression
  let id ← id.mapM fun e => do
    let id ← knownNumber e
    if 65536 ≤ id then throw .overrideId
    return id
  define name (.overridden (← get).module.overrides.length)
  modifyModule fun m => { m with overrides := m.overrides ++ [⟨some name, id, type, init⟩] }

/-- Declares a global variable. -/
def globalVariable (v : VariableSyntax) : Lower Unit := do
  let (type, init) ← knownBy .pipeline (typeAndValue v.name v.type v.init)
  let init ← init.mapM expression
  let binding ← v.binding.mapM fun (g, b) => do
    let group ← knownNumber g
    return (⟨group, ← knownNumber b⟩ : Ir.ResourceBinding)
  define v.name (.variable_ (← get).module.globals.length)
  modifyModule fun m =>
    { m with globals := m.globals ++ [⟨some v.name, v.space, binding, type, init⟩] }

/-- A size that depends on an override, which counts as one. -/
def overriddenSize (t : Term) : Lower Nat := do
  match (← shapeOfTerm t).scalar? with
  | some s => if s.kind = .sint ∨ s.kind = .uint then return 1 else throw (.value .index)
  | none => throw (.value .index)

/-- Sizes that are not given are one; those of a stage without sizes are zero. -/
def workgroupSize (sizes : Option (List Expr)) : Lower (Nat × Nat × Nat) := do
  match sizes with
  | none => return (0, 0, 0)
  | some sizes =>
    let sizes ← sizes.mapM fun e => knownOrOverridden (term e) numberOf overriddenSize
    return (sizes[0]?.getD 1, sizes[1]?.getD 1, sizes[2]?.getD 1)

/-- Names the parameters of a function. -/
def parameter (p : ParameterSyntax) (i : Nat) : Lower Unit := do
  let e ← push (.argument i)
  nameExpression e
  declare p.name (.plain e)

/-- Declares a function. -/
def function (f : FunctionSyntax) : Lower Unit := do
  let arguments ← f.parameters.mapM fun p => do
    let t ← type p.type
    return (⟨some p.name, t, ← p.binding.mapM (binding t)⟩ : Ir.Argument)
  let result ← f.result.mapM fun (t, b) => do
    let t ← type t
    return (⟨t, ← b.mapM (binding t)⟩ : Ir.Result)
  modify fun s =>
    { s with draft := some { arguments, result }, deadline := .runtime, scopes := [[]] }
  f.parameters.zipIdx.forM fun (p, i) => parameter p i
  let (_, body) ← block (runAll f.body)
  let d ← draft
  modify fun s => { s with draft := none, deadline := .constant, scopes := [] }
  let lowered : Ir.Function :=
    { name := some f.name
      arguments
      result
      locals := d.locals.toList
      expressions := d.arena.expressions.toList
      body := withReturn body }
  let lowered := lowered.compact d.named
  match f.entry with
  | none =>
    define f.name (.function (← get).module.functions.length)
    modifyModule fun m => { m with functions := m.functions ++ [lowered] }
  | some entry =>
    define f.name .entryPoint
    let size ← workgroupSize entry.workgroupSize
    modifyModule fun m =>
      { m with entryPoints := m.entryPoints ++ [⟨f.name, entry.stage, entry.earlyDepthTest, size, lowered⟩] }

/-- Lowers a declaration. -/
def declaration : Declaration → Lower Unit
  | .struct name members => do define name (.type (← structType name members))
  | .typeAlias name t => do define name (.type (← typeAs (some name) t))
  | .constant name t e => globalConstant name t e
  | .overridden name id t init => globalOverride name id t init
  | .var v => globalVariable v
  | .function f => function f
  | .constAssert e => assertion e

end Lower

/-- The module that a source stands for. -/
def load (source : String) : Except Fault Ir.Module := do
  let declarations ← Declaration.inOrder (← parse source)
  let ((), s) ← StateT.run (declarations.forM Lower.declaration) {}
  return { s.module with globalExpressions := s.arena.expressions.toList }.compactTypes

end ShaderKit.Wgsl
