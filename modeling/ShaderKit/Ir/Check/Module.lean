import ShaderKit.Ir.Check.Interface
import ShaderKit.Ir.Check.Statements
import ShaderKit.Ir.Usage

/-!
# Checking a module

A module is fit for use if its declarations, its functions and its entry points are.
-/

namespace ShaderKit.Ir.Check

/-- The largest dimension of a workgroup. -/
def maxWorkgroupSize : Nat := 0x4000

/-- What the functions looked at so far need and use. -/
structure Functions where
  stages : Array Stages := #[]
  usage : Array GlobalUsage := #[]

/-- A local variable has a value of its type that does not depend on the run. -/
def checkLocal (s : Scope) (l : LocalVariable) : Except Fault Unit := do
  if !(s.facts.typeFacts l.type).constructible then throw .notConstructible
  match l.init with
  | none => return
  | some init =>
    if s.constness[init]? = some .runtime then throw .notConstant
    match s.shape? init, s.facts.module.shape? l.type with
    | some a, some b => if !a.isEquivalent s.moduleTypes b then throw .initializer
    | _, _ => throw .initializer

/-- Arguments and results have types that can be passed, and bindings only at entry points. -/
def checkSignature (f : Facts) (function : Function) (isEntry : Bool) : Except Fault Unit := do
  function.arguments.zipIdx.forM fun (a, i) => do
    if !(f.typeFacts a.type).argument then throw (.argumentType i)
    if !isEntry && a.binding.isSome then throw .plainBinding
  match function.result with
  | none => return
  | some r =>
    if !(f.typeFacts r.type).constructible then throw .notConstructible
    if !isEntry && r.binding.isSome then throw .plainBinding

/-- Every image and sampler of a sample is a variable, an argument, or an element of a variable. -/
def checkHandles (s : Scope) : Except Fault Unit :=
  s.function.expressions.zipIdx.forM fun (e, i) => do
    if let .imageSample image sampler .. := e then
      if (s.handleShape? image).isNone || (s.handleShape? sampler).isNone then throw (.image i)

/-- The stages that a function can run in. -/
def checkFunction (f : Facts) (known : Functions) (function : Function) (isEntry : Bool) :
    Except Fault Stages := do
  let types ← ((TypingScope.ofFunction f.module function).typesOf function.expressions).mapError
    fun (e, fault) => Fault.typing e fault
  let s : Scope := {
    facts := f
    function
    types
    constness := Constness.ofAll function.expressions
    callees := known.stages }
  checkHandles s
  function.locals.forM (checkLocal s)
  checkSignature f function isEntry
  return (← s.checkExpressions).meet (← s.checkBody)

/-- What may be done with a variable. -/
def allowedUsage (m : Module) (v : GlobalVariable) : Usage :=
  let ofAccess (a : StorageAccess) : Usage := ⟨a.load, a.store, true, a.atomic⟩
  match v.space with
  | .function => {}
  | .uniform => { read := true, query := true }
  | .storage access => ofAccess access
  | .handle =>
    let shape := match m.shape? v.type with
      | some (.bindingArray base _) => m.shape? base
      | shape => shape
    match shape with
    | some (.image _ _ (.storage _ access)) => ofAccess access
    | _ => { read := true, query := true }
  | .private_ | .workgroup => ⟨true, true, true, true⟩
  | .pushConstant => { read := true }

/-- The variables that an entry point uses allow it, and no two of them share a binding. -/
def checkResources (m : Module) (usage : GlobalUsage) : Except Fault Unit := do
  let used := m.globals.zipIdx.filter fun (_, g) => !(usage.of g).isEmpty
  if 1 < used.countP fun (v, _) => v.space = .pushConstant then throw .pushConstants
  let _ ← used.foldlM (fun bound (v, g) => do
    if !(usage.of g).isWithin (allowedUsage m v) then throw (.usage g)
    match v.binding with
    | none => return bound
    | some b => do
      if bound.contains b then throw (.sharedBinding b.group b.binding)
      return b :: bound) ([] : List ResourceBinding)

/-- The workgroups of a compute shader have a size within the limits, and others have none. -/
def checkWorkgroupSize (e : EntryPoint) : Except Fault Unit := do
  let (x, y, z) := e.workgroupSize
  let inRange (n : Nat) : Bool := 0 < n && n ≤ maxWorkgroupSize
  let good := if e.stage = .compute then inRange x && inRange y && inRange z
    else x = 0 && y = 0 && z = 0
  if !good then throw .workgroupSize

/-- An entry point has a function that runs in its stage, and an interface and resources that go with it. -/
def checkEntryPoint (f : Facts) (known : Functions) (e : EntryPoint) : Except Fault Unit := do
  if e.earlyDepthTest && e.stage ≠ .fragment then throw .earlyDepthTest
  checkWorkgroupSize e
  let stages ← checkFunction f known e.function true
  if !stages.has e.stage then throw .stage
  checkInputs f e
  checkOutputs f e
  checkResources f.module (e.function.usage known.usage)

/-- No two entry points of one stage have the same name. -/
def checkEntryNames : List EntryPoint → Except Fault Unit
  | [] => .ok ()
  | e :: rest =>
    if rest.any fun o => o.stage = e.stage && o.name == e.name then .error (.duplicateEntry e.name)
    else checkEntryNames rest

end Check

/-- Accepts a module that is fit for use. -/
def Module.check (m : Module) : Except Check.Fault Unit := do
  let f ← Check.checkDeclarations m
  let known ← m.functions.foldlM (fun (known : Check.Functions) function => do
    let stages ← Check.checkFunction f known function false
    return ⟨known.stages.push stages, known.usage.push (function.usage known.usage)⟩) {}
  Check.checkEntryNames m.entryPoints
  m.entryPoints.forM (Check.checkEntryPoint f known)

end ShaderKit.Ir
