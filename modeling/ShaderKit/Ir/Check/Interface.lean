import ShaderKit.Ir.Check.Constants

/-!
# Interfaces of entry points

What passes between stages: builtins that the stage offers, and locations that are used once each.
-/

namespace ShaderKit.Ir.Check

/-- The most array elements that a builtin list of distances has. -/
def maxDistances : Nat := 8

/-- Where a builtin can be used. -/
def builtInStages : BuiltIn → List (ShaderStage × Bool)
  | .baseInstance | .baseVertex | .instanceIndex | .vertexIndex | .drawId => [(.vertex, false)]
  | .clipDistance | .cullDistance | .pointSize => [(.vertex, true)]
  | .pointCoord | .frontFacing | .primitiveIndex | .sampleIndex => [(.fragment, false)]
  | .position _ => [(.vertex, true), (.fragment, false)]
  | .viewIndex => [(.vertex, false), (.fragment, false)]
  | .fragDepth => [(.fragment, true)]
  | .sampleMask => [(.fragment, false), (.fragment, true)]
  | .localInvocationIndex | .globalInvocationId | .localInvocationId | .workGroupId
  | .workGroupSize | .numWorkGroups | .numSubgroups | .subgroupId => [(.compute, false)]
  | .subgroupSize | .subgroupInvocationId => [(.compute, false), (.fragment, false)]

/-- Whether a builtin can have a type. -/
def builtInHasShape (types : List TypeInfo) (b : BuiltIn) (shape : Shape) : Bool :=
  match b with
  | .clipDistance | .cullDistance => match shape with
    | .array base (.constant n) _ => types[base]?.any (·.shape == .scalar .f32) && n ≤ maxDistances
    | _ => false
  | .pointSize | .fragDepth => shape == .scalar .f32
  | .pointCoord => shape == .vector .two .f32
  | .position _ => shape == .vector .four .f32
  | .viewIndex => shape == .scalar .i32
  | .frontFacing => shape == .scalar .bool
  | .globalInvocationId | .localInvocationId | .workGroupId | .workGroupSize | .numWorkGroups =>
    shape == .vector .three .u32
  | _ => shape == .scalar .u32

/-- Builtins that number subgroups or their invocations, which has no meaning in workgroups that extend in
more than one direction. -/
def numbersSubgroups : BuiltIn → Bool
  | .subgroupId | .subgroupInvocationId => true
  | _ => false

/-- A position is the same builtin whether or not it is invariant. -/
def sameBuiltIn : BuiltIn → BuiltIn := fun
  | .position _ => .position false
  | b => b

/-- One side of a stage's interface, as far as it has been looked at. -/
structure Varyings where
  builtIns : List BuiltIn := []
  locations : List Nat := []
  secondBlendSource : Bool := false

/-- A stage, and whether its outputs are meant. -/
structure Side where
  stage : ShaderStage
  output : Bool
  /-- Whether the workgroups of the stage extend in more than one direction. -/
  spreads : Bool := false

/-- Whether values are interpolated on the way out of or into a stage. -/
def Side.interpolates (side : Side) : Bool :=
  match side.stage with
  | .vertex => side.output
  | .fragment => !side.output
  | .compute => false

/-- Where in its pixel a value that is interpolated in a given way can be taken. -/
def samplesAt : Interpolation → Sampling → Bool
  | .flat, .first | .flat, .either => true
  | .flat, _ => false
  | _, .center | _, .centroid | _, .sample => true
  | _, _ => false

/-- How a value is interpolated goes with how it is sampled and with its kind of numbers. -/
def checkInterpolation (side : Side) (shape : Shape) (interpolation : Option Interpolation)
    (sampling : Option Sampling) : Except Fault Unit := do
  if let (some i, some s) := (interpolation, sampling) then
    if !samplesAt i s then throw .interpolation
  match shape.scalar?.map Scalar.kind with
  | none => throw .notShareable
  | some .float =>
    if side.interpolates && interpolation.isNone then throw .interpolation
  | some _ =>
    if side.interpolates && interpolation ≠ some .flat then throw .interpolation

/-- Looks at a value with a binding. -/
def Varyings.add (f : Facts) (side : Side) (v : Varyings) (type : TypeId) (binding : IoBinding) :
    Except Fault Varyings := do
  let some shape := f.module.shape? type | throw .layout
  match binding with
  | .builtIn b =>
    if v.builtIns.contains (sameBuiltIn b) then throw .duplicateBuiltIn
    if !(builtInStages b).contains (side.stage, side.output) then throw .builtIn
    if !builtInHasShape f.module.types b shape then throw .builtIn
    if side.spreads && numbersSubgroups b then throw .builtIn
    return { v with builtIns := sameBuiltIn b :: v.builtIns }
  | .location location second interpolation sampling =>
    if !(f.typeFacts type).ioShareable then throw .notShareable
    if second && (side.stage ≠ .fragment || !side.output || location ≠ 0) then
      throw .secondBlendSource
    if !second && v.locations.contains location then throw (.sharedLocation location)
    checkInterpolation side shape interpolation sampling
    return if second then { v with secondBlendSource := true }
      else { v with locations := location :: v.locations }

/-- Looks at a value: it has a binding, or it is a struct whose members have. -/
def Varyings.addValue (f : Facts) (side : Side) (v : Varyings) (type : TypeId)
    (binding : Option IoBinding) : Except Fault Varyings := do
  match binding, f.module.shape? type with
  | some b, _ => v.add f side type b
  | none, some (.struct members _) =>
    members.foldlM (fun v m => match m.binding with
      | some b => v.add f side m.type b
      | none => throw .missingBinding) v
  | none, _ => throw .missingBinding

/-- Whether the workgroups extend in more than one direction. -/
def EntryPoint.spreads (e : EntryPoint) : Bool :=
  let (_, y, z) := e.workgroupSize
  1 < y || 1 < z

/-- The inputs of an entry point are values that its stage can take. -/
def checkInputs (f : Facts) (e : EntryPoint) : Except Fault Unit := do
  let _ ← e.function.arguments.foldlM
    (fun v a => v.addValue f ⟨e.stage, false, EntryPoint.spreads e⟩ a.type a.binding) ({} : Varyings)

/-- The outputs.  A vertex has a position, and a second blend source goes with location 0 alone. -/
def checkOutputs (f : Facts) (e : EntryPoint) : Except Fault Unit := do
  let v ← match e.function.result with
    | some r => Varyings.addValue f ⟨e.stage, true, EntryPoint.spreads e⟩ {} r.type r.binding
    | none => pure {}
  if v.secondBlendSource && v.locations ≠ [0] then throw .secondBlendSource
  if e.stage = .vertex && !v.builtIns.contains (.position false) then throw .noPosition

end ShaderKit.Ir.Check
