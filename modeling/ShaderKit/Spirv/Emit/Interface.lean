import ShaderKit.Spirv.Emit.Code.Statement

/-!
# Emitting entry points and their interface

Arguments of an entry point are read from input variables when it starts, and its result is written to
output variables when it returns.  Structs are taken apart: every member has a variable of its own.
-/

namespace ShaderKit.Spirv

open Ir (BuiltIn EntryPoint IoBinding ScalarKind ShaderStage TypeId)

/-- The value of a builtin; the position is another one for fragments. -/
def BuiltIn.word (isInput : Bool) (b : BuiltIn) : Word :=
  match b with
  | .position _ => if isInput then 15 else 0
  | b => ((builtInTable.find? (·.2 == b)).map (·.1)).getD 0

/-- The capabilities that builtins need. -/
def builtInCapabilities : List (BuiltIn × Word) :=
  [(.viewIndex, 4439), (.primitiveIndex, 2), (.sampleIndex, 35), (.clipDistance, 32),
   (.cullDistance, 33), (.subgroupSize, 61), (.numSubgroups, 61), (.subgroupId, 61),
   (.subgroupInvocationId, 61), (.baseVertex, 4427), (.baseInstance, 4427), (.drawId, 4427)]

/-- The execution model of a stage. -/
def ShaderStage.model : ShaderStage → Word
  | .vertex => ExecutionModel.vertex
  | .fragment => ExecutionModel.fragment
  | .compute => ExecutionModel.glCompute

namespace EmitM

/-- Whether values are the same for all fragments between vertices, because they are integers. -/
def isFlatBuiltIn (t : TypeId) : EmitM Bool := do
  match (← shapeOfType t).scalar?.map Ir.Scalar.kind with
  | some .sint | some .uint => return true
  | _ => return false

/-- Decorates an input or output with its binding. -/
def decorateBinding (id : Id) (stage : ShaderStage) (isInput : Bool) (t : TypeId)
    (binding : IoBinding) : EmitM Unit := do
  let isVarying := !(stage == .vertex && isInput) && !(stage == .fragment && !isInput)
  match binding with
  | .location location second interpolation sampling =>
    decorate id Decoration.location [UInt32.ofNat location]
    if isVarying then
      match interpolation with
      | some .flat => decorate id Decoration.flat
      | some .linear => decorate id Decoration.noPerspective
      | some .perspective | none => pure ()
      match sampling with
      | some .centroid => decorate id Decoration.centroid
      | some .sample => do
        require 35
        decorate id Decoration.sample
      | _ => pure ()
    if second then decorate id Decoration.index [1]
  | .builtIn b =>
    if let some c := builtInCapabilities.lookup b then require c
    decorate id Decoration.builtIn [BuiltIn.word (isInput && stage == .fragment) b]
    if b = .position true then decorate id Decoration.invariant
    if stage = .fragment ∧ isInput ∧ (← isFlatBuiltIn t) then decorate id Decoration.flat

/-- A variable of an interface. -/
def interfaceVariable (stage : ShaderStage) (isInput : Bool) (name : Option String) (t : TypeId)
    (binding : IoBinding) : EmitM Id := do
  let storageClass := if isInput then StorageClass.input else StorageClass.output
  let type ← pointerType storageClass (← typeId t)
  let id ← fresh
  nameId id name
  declare Op.var [type, id, storageClass]
  decorateBinding id stage isInput t binding
  return id

end EmitM

namespace CodeM

/-- Reads one argument, and gives its id and the variables that it comes from. -/
def readArgument (stage : ShaderStage) (a : Ir.Argument) : CodeM (Id × List Id) := do
  let type ← EmitM.typeId a.type
  let read (name : Option String) (t : TypeId) (b : IoBinding) : CodeM (Id × Id) := do
    let var ← EmitM.interfaceVariable stage true name t b
    return (← result Op.load (← EmitM.typeId t) [var], var)
  match a.binding, ← EmitM.shapeOfType a.type with
  | some b, _ => do
    let (id, var) ← read a.name a.type b
    return (id, [var])
  | none, .struct members _ => do
    let parts ← members.mapM fun m => do
      match m.binding with
      | some b => read m.name m.type b
      | none => throw .layout
    return (← result Op.compositeConstruct type (parts.map (·.1)), parts.map (·.2))
  | none, _ => throw .layout

/-- The output variables of a result: one, or one for each member. -/
def outputsOf (stage : ShaderStage) (r : Ir.Result) : CodeM (List OutputVariable) := do
  match r.binding, ← EmitM.shapeOfType r.type with
  | some b, _ => do
    let id ← EmitM.interfaceVariable stage false none r.type b
    return [⟨id, ← EmitM.typeId r.type, none⟩]
  | none, .struct members _ =>
    members.zipIdx.mapM fun (m, i) => do
      match m.binding with
      | some b => do
        let id ← EmitM.interfaceVariable stage false m.name m.type b
        return ⟨id, ← EmitM.typeId m.type, some i⟩
      | none => throw .layout
  | none, _ => throw .layout

/-- The variables of a function.  A value that is a constant is there from the start. -/
def declareLocals : CodeM Unit := do
  (← get).function.locals.forM fun l => do
    let type ← EmitM.pointerType StorageClass.function (← EmitM.typeId l.type)
    let id ← EmitM.fresh
    EmitM.nameId id l.name
    let init ← match l.init with
      | some e => do constant? (← operandFuel) e
      | none => do
        some <$> EmitM.constantOnce Op.constantNull (← EmitM.typeId l.type) []
    modify fun c => { c with
      localLines := c.localLines.push ⟨Op.var, [type, id, StorageClass.function] ++ init.toList⟩
      locals := c.locals.push id }

/-- The body of a function after its variables. -/
def body : CodeM Unit := do
  let f := (← get).function
  statements f.body
  if (← get).isOpen then
    match f.result, (← get).outputs with
    | some r, none => do
      let type ← EmitM.typeId r.type
      terminate Op.returnValue [← EmitM.constantOnce Op.constantNull type []]
    | _, _ => terminate Op.ret []

end CodeM

namespace EmitM

open CodeM

/-- Writes a function: `start` gives it its parameters and outputs. -/
def writeFunction {α : Type} (id resultType : Id) (f : Ir.Function) (parameters : List (Id × Id))
    (start : CodeM α) : EmitM α := do
  let m := (← get).module
  match (Ir.TypingScope.ofFunction m f).typesOf f.expressions with
  | .error _ => throw .layout
  | .ok types =>
    nameId id f.name
    let signature ← typeOnce (.function resultType (parameters.map (·.2))) fun id =>
      declare Op.typeFunction (id :: resultType :: parameters.map (·.2))
    let label ← fresh
    let code : Code := { function := f, types, parameters := (parameters.map (·.1)).toArray }
    let (a, code) ← StateT.run (do
      declareLocals
      let a ← start
      body
      return a) code
    let opening : List Line :=
      ⟨Op.function, [resultType, id, 0, signature]⟩
        :: parameters.map (fun (p, t) => ⟨Op.functionParameter, [t, p]⟩)
        ++ [⟨Op.label, [label]⟩] ++ code.localLines.toList
    modify fun s => { s with
      functionLines := s.functionLines ++ opening.toArray ++ code.lines
        |>.push ⟨Op.functionEnd, []⟩ }
    return a

/-- Writes a function that other functions call. -/
def helperFunction (index : Ir.FunctionId) (f : Ir.Function) : EmitM Unit := do
  let id ← fresh
  modify fun s => { s with functions := (index, id) :: s.functions }
  let resultType ← match f.result with
    | some r => typeId r.type
    | none => voidType
  let parameters ← f.arguments.mapM fun a => do
    let p ← fresh
    nameId p a.name
    return (p, ← typeId a.type)
  writeFunction id resultType f parameters (pure ())

/-- The modes that an entry point runs in. -/
def executionModes (id : Id) (e : EntryPoint) : EmitM Unit := do
  let add (words : List Word) : EmitM Unit :=
    modify fun s => { s with modes := s.modes.push ⟨Op.executionMode, id :: words⟩ }
  match e.stage with
  | .vertex => return
  | .fragment => do
    add [7]
    if e.earlyDepthTest then add [9]
    let depth : IoBinding := .builtIn .fragDepth
    let writesDepth ← match e.function.result with
      | none => pure false
      | some r => match r.binding, ← shapeOfType r.type with
        | some b, _ => pure (b == depth)
        | none, .struct members _ => pure (members.any (·.binding == some depth))
        | none, _ => pure false
    if writesDepth then add [12]
  | .compute =>
    let (x, y, z) := e.workgroupSize
    add [17, UInt32.ofNat x, UInt32.ofNat y, UInt32.ofNat z]

/-- Writes an entry point: its function, its interface and how it runs. -/
def entryPoint (e : EntryPoint) : EmitM Unit := do
  let id ← fresh
  let interface ← writeFunction id (← voidType) e.function [] do
    let inputs ← e.function.arguments.mapM fun a => readArgument e.stage a
    let outputs ← match e.function.result with
      | some r => outputsOf e.stage r
      | none => pure []
    modify fun c => { c with
      parameters := (inputs.map (·.1)).toArray
      outputs := some outputs }
    return inputs.flatMap (·.2) ++ outputs.map (·.id)
  executionModes id e
  modify fun s => { s with
    entryPoints := s.entryPoints.push
      ⟨Op.entryPoint, ShaderStage.model e.stage :: id :: textWords e.name ++ interface⟩ }

end EmitM

end ShaderKit.Spirv
