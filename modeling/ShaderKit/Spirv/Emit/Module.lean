import ShaderKit.Ir.Usage
import ShaderKit.Spirv.Emit.Interface

/-!
# Emitting modules

The words of a module with the functions of a typed module.  Buffers are blocks: a buffer that is no
struct, or a struct that other variables could hold too, is put into a block as its only member.
-/

namespace ShaderKit.Spirv

open Ir (AddressSpace GlobalId GlobalUsage GlobalVariable Shape)

namespace EmitM

/-- Whether a variable is a block. -/
def isBlock : AddressSpace → Bool
  | .uniform | .storage _ | .pushConstant => true
  | _ => false

/-- Whether a variable needs a block around its type. -/
def needsWrapper (v : GlobalVariable) : EmitM Bool := do
  if !isBlock v.space then return false
  match ← shapeOfType v.type with
  | .struct members _ => match members.getLast? with
    | some m => match ← shapeOfType m.type with
      | .array _ .dynamic _ => return false
      | _ => return true
    | none => return false
  | .bindingArray .. => return false
  | _ => return true

/-- A block with one member. -/
def wrapper (v : GlobalVariable) : EmitM Id := do
  let inner ← typeId v.type
  let id ← fresh
  decorate id Decoration.block
  decorateStructMember id 0 ⟨none, v.type, none, 0⟩
  declare Op.typeStruct [id, inner]
  return id

/-- Decorates a struct as a block, once. -/
def markBlock (t : Ir.TypeId) (id : Id) : EmitM Unit := do
  if !(← get).blocks.contains t then
    decorate id Decoration.block
    modify fun s => { s with blocks := t :: s.blocks }

/-- What a variable's space or image allows, where that can be restricted. -/
def access? (v : GlobalVariable) : EmitM (Option Ir.StorageAccess) := do
  match v.space, ← shapeOfType v.type with
  | .storage access, _ => return some access
  | _, .image _ _ (.storage _ access) => return some access
  | _, _ => return none

/-- Writes a global variable, inside a struct where a block needs one. -/
def globalVariable (g : GlobalId) (v : GlobalVariable) : EmitM Unit := do
  let wrapped ← needsWrapper v
  let type ← if wrapped then wrapper v else typeId v.type
  if isBlock v.space ∧ !wrapped then
    match ← shapeOfType v.type with
    | .bindingArray base _ => do markBlock base (← typeId base)
    | _ => markBlock v.type type
  let storageClass := AddressSpace.storageClass v.space
  let pointer ← pointerType storageClass type
  let init ← match v.space, v.init with
    | .private_, some e => do
      some <$> CodeM.globalConstant (CodeM.globalFuel (← get).module) e
    | .private_, none => some <$> constantOnce Op.constantNull type []
    | _, _ => pure none
  let id ← fresh
  nameId id v.name
  declare Op.var ([pointer, id, storageClass] ++ init.toList)
  if let some a ← access? v then
    if !a.load then decorate id Decoration.nonReadable
    if !a.store ∧ !a.atomic then decorate id Decoration.nonWritable
  if let some b := v.binding then
    decorate id Decoration.descriptorSet [UInt32.ofNat b.group]
    decorate id Decoration.binding [UInt32.ofNat b.binding]
  modify fun s => { s with globals := (g, ⟨id, wrapped⟩) :: s.globals }

/-- How each function uses the global variables. -/
def functionUsage (m : Ir.Module) : Array GlobalUsage :=
  m.functions.foldl (fun known f => known.push (f.usage known)) #[]

/-- The entry points that are emitted. -/
def selectedEntryPoints : EmitM (List Ir.EntryPoint) := do
  let s ← get
  match s.options.entryPoint with
  | none => return s.module.entryPoints
  | some (stage, name) =>
    match s.module.entryPoints.find? fun e => e.stage == stage && e.name == name with
    | some e => return [e]
    | none => throw (.entryPoint name)

/-- Which variables are emitted: with a single entry point, those that it uses. -/
def isEmitted (m : Ir.Module) (options : EmitOptions) (entries : List Ir.EntryPoint)
    (g : GlobalId) : Bool :=
  options.entryPoint.isNone
    || entries.any fun e => !((e.function.usage (functionUsage m)).of g).isEmpty

/-- Writes all that the module needs: types, variables, functions and entry points. -/
def sections : EmitM Unit := do
  let m := (← get).module
  if !m.overrides.isEmpty then throw .overrides
  let entries ← selectedEntryPoints
  let options := (← get).options
  let emitted := isEmitted m options entries
  let standardSet ← fresh
  modify fun s => { s with standardSet }
  m.globals.zipIdx.forM fun (v, g) => if emitted g then globalVariable g v else return
  let usage := functionUsage m
  m.functions.zipIdx.forM fun (f, i) => do
    let used := ((usage[i]?).getD []).filter fun (_, u) => !u.isEmpty
    if used.all fun (g, _) => emitted g then helperFunction i f
  entries.forM entryPoint

end EmitM

/-- A module's first words, before its instructions. -/
def startWords (bound : Id) : List Word := [0x07230203, 0x00010300, 28 * 65536, bound, 0]

/-- The words of the module, section by section. -/
def Emit.words (s : Emit) : List Word :=
  let capabilities := s.capabilities.map fun c => (⟨Op.capability, [c]⟩ : Line)
  let extensions := s.extensions.map fun n => (⟨Op.extension, textWords n⟩ : Line)
  let start : List Line :=
    [⟨Op.extInstImport, s.standardSet :: textWords "GLSL.std.450"⟩,
     ⟨Op.memoryModel, [AddressingModel.logical, 1]⟩]
  let lines := capabilities ++ extensions ++ start ++ s.entryPoints.toList ++ s.modes.toList
    ++ s.names.toList ++ s.annotations.toList ++ s.declarations.toList
    ++ s.functionLines.toList
  startWords s.nextId ++ lines.flatMap Line.encode

/-- The words of a module. -/
def emit (m : Ir.Module) (options : EmitOptions) : Except EmitError (List Word) := do
  let ((), s) ← EmitM.sections.run { module := m, options }
  return s.words

end ShaderKit.Spirv
