import ShaderKit.Spirv.Lift.Function

/-!
# Lifting entry points

A function that is an entry point gets a function around it, which copies its arguments to the input
variables, calls it, and returns what is in the output variables.
-/

namespace ShaderKit.Spirv

open Ir (ExprId Expression IoBinding Shape ShaderStage Statement StructMember TypeId)

/-- How a location is interpolated if nothing is said about it. -/
def withDefaultInterpolation (shape : Shape) : IoBinding → IoBinding
  | .location location secondBlendSource none sampling =>
    match shape.scalar? with
    | some ⟨.float, _⟩ => .location location secondBlendSource (some .perspective) (some .center)
    | some ⟨.sint, _⟩ | some ⟨.uint, _⟩ => .location location secondBlendSource (some .flat) none
    | _ => .location location secondBlendSource none sampling
  | binding => binding

/-- The span of the struct that an entry point returns; it is never laid out in memory. -/
def resultSpan : Nat := 0xffff

namespace LiftM

/-- The variable behind an id of an entry point's interface. -/
def interfaceVariable (id : Id) : LiftM VariableEntry := find (·.globalVars) id

/-- The type of a global variable. -/
def globalType (g : Ir.GlobalId) : LiftM TypeId := do
  match (← get).module.globals[g]? with
  | some v => return v.type
  | none => throw (.typing .undefined)

/-- The wrapper of an entry point, as far as it is built. -/
structure Wrapper where
  expressions : Array Expression := #[]
  body : Array Statement := #[]
  arguments : List Ir.Argument := []
  /-- What is returned: members, and pointers to their values. -/
  members : List StructMember := []
  pointers : List ExprId := []

/-- Adds an expression. -/
def Wrapper.push (w : Wrapper) (e : Expression) : Wrapper × ExprId :=
  ({ w with expressions := w.expressions.push e }, w.expressions.size)

/-- Copies the argument for an input variable to it. -/
def addInput (stage : ShaderStage) (w : Wrapper) (v : VariableEntry) (argument : Ir.Argument) :
    LiftM Wrapper := do
  let (w, value) := w.push (.argument w.arguments.length)
  let (w, value) := if argument.type = (← globalType v.global) then (w, value)
    else
      let (w, converted) := w.push (.convert value .sint (some 4))
      ({ w with body := w.body.push (.emit (some (converted, converted))) }, converted)
  let (w, pointer) := w.push (.global v.global)
  let shape ← shapeOf argument.type
  let binding := if stage = .fragment then argument.binding.map (withDefaultInterpolation shape)
    else argument.binding
  return { w with
    body := w.body.push (.store pointer value)
    arguments := w.arguments ++ [{ argument with binding }] }

/-- The members of an output struct without the builtins that nothing stores to. -/
def reachedMembers (reached : List Ir.BuiltIn) (members : List StructMember) : List StructMember :=
  members.map fun m => match m.binding with
    | some (.builtIn b) => if reached.contains b then m else { m with binding := none }
    | _ => m

/-- Takes the builtins that nothing stores to out of the interface. -/
def cullBuiltIns (type : TypeId) : LiftM Unit := modify fun s =>
  { s with module := { s.module with types := s.module.types.modify type fun info =>
      match info with
      | ⟨_, .struct members span⟩ =>
        { info with shape := .struct (reachedMembers s.reachedBuiltIns members) span }
      | _ => info } }

/-- Adds what an output variable holds to the result. -/
def addOutput (stage : ShaderStage) (w : Wrapper) (v : VariableEntry) (result : Ir.Result) :
    LiftM Wrapper := do
  cullBuiltIns result.type
  let (w, pointer) := w.push (.global v.global)
  let bound (shape : Shape) (binding : Option IoBinding) : Option IoBinding :=
    if stage = .vertex then binding.map (withDefaultInterpolation shape) else binding
  match ← shapeOf result.type with
  | .struct members _ =>
    members.zipIdx.foldlM (fun w (m, i) => do
      if m.binding.isNone then return w
      let (w, part) := w.push (.accessIndex pointer i)
      let member := { m with binding := bound (← shapeOf m.type) m.binding }
      return { w with members := w.members ++ [member], pointers := w.pointers ++ [part] }) w
  | shape =>
    let member : StructMember := ⟨none, result.type, bound shape result.binding, 0⟩
    return { w with members := w.members ++ [member], pointers := w.pointers ++ [pointer] }

/-- Loads what is returned. -/
def loadAll (w : Wrapper) : Wrapper × List ExprId :=
  w.pointers.foldl (fun (w, values) pointer =>
    let (w, value) := w.push (.load pointer)
    (w, values ++ [value])) (w, [])

/-- Returns the outputs: nothing, a single value, or a struct. -/
def finishWrapper (w : Wrapper) : LiftM (Wrapper × Option Ir.Result) := do
  let first := w.expressions.size
  let (w, values) := loadAll w
  match w.members with
  | [] => return (w, none)
  | [m] =>
    let body := (w.body.push (.emit (some (first, first)))).push (.ret values.head?)
    return ({ w with body }, some ⟨m.type, m.binding⟩)
  | members =>
    let type ← intern (.struct members resultSpan)
    let (w, value) := w.push (.compose type values)
    let body := (w.body.push (.emit (some (first, value)))).push (.ret (some value))
    return ({ w with body }, some ⟨type, none⟩)

/-- Adds the entry point around function `id`. -/
def entryPoint (id : Id) (entry : PendingEntry) : LiftM Unit := do
  let globalVars ← entry.interface.mapM interfaceVariable
  let w ← globalVars.foldlM (fun w v => match v.role with
    | .input argument => addInput entry.stage w v argument
    | _ => pure w) ({} : Wrapper)
  let function ← find (·.functions) id
  let w := { w with body := w.body.push (.call function [] none) }
  let w ← globalVars.foldlM (fun w v => match v.role with
    | .output result => addOutput entry.stage w v result
    | _ => pure w) w
  let (w, result) ← finishWrapper w
  let wrapper : Ir.Function := {
    name := some s!"{entry.name}_wrap"
    arguments := w.arguments
    result
    expressions := w.expressions.toList
    body := w.body.toList }
  modify fun s => { s with module := { s.module with
    entryPoints := s.module.entryPoints ++ [⟨entry.name, entry.stage, entry.earlyDepthTest, entry.workgroupSize, wrapper⟩] } }

/-- Makes the images and samplers that are used for comparison what that needs.  None may be used both
with and without comparison. -/
def applySampling (globals : List (Ir.GlobalId × SamplingUse)) : LiftM Unit :=
  globals.forM fun (g, use) => do
    if use.comparison then
      if use.regular then throw .comparison
      let s ← get
      let type ← globalType g
      let info : Option Ir.TypeInfo := s.module.types[type]?
      let (name, shape) ← match info with
        | some ⟨name, .image dim arrayed (.sampled _ multisampled)⟩ =>
          pure (name, Shape.image dim arrayed (.depth multisampled))
        | some ⟨name, .sampler _⟩ => pure (name, Shape.sampler true)
        | _ => throw .comparison
      let type ← intern shape name
      modify fun s => { s with module := { s.module with
        globals := s.module.globals.modify g fun v => { v with type } } }

end LiftM

end ShaderKit.Spirv
