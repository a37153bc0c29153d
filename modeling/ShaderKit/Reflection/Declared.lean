import ShaderKit.Reflection.BlockSize

/-!
# Inventory from the declarations

The resources and the interface of the first entry point, read off the declarations of a module.
-/

namespace ShaderKit.Spirv

open Resource

/-- The texture format of a storage image's format operand, where there is one. -/
def storageFormat? (format : Word) : Option Texture.Format :=
  match format.toNat with
  | 1 => some .rgba32Float
  | 2 => some .rgba16Float
  | 3 => some .r32Float
  | 4 => some .rgba8Unorm
  | 5 => some .rgba8Snorm
  | 6 => some .rg32Float
  | 7 => some .rg16Float
  | 9 => some .r16Float
  | 11 => some .rgb10a2Unorm
  | 13 => some .rg8Unorm
  | 15 => some .r8Unorm
  | 18 => some .rg8Snorm
  | 20 => some .r8Snorm
  | 21 => some .rgba32Sint
  | 22 => some .rgba16Sint
  | 23 => some .rgba8Sint
  | 24 => some .r32Sint
  | 25 => some .rg32Sint
  | 26 => some .rg16Sint
  | 27 => some .rg8Sint
  | 28 => some .r16Sint
  | 29 => some .r8Sint
  | 30 => some .rgba32Uint
  | 31 => some .rgba16Uint
  | 32 => some .rgba8Uint
  | 33 => some .r32Uint
  | 35 => some .rg32Uint
  | 36 => some .rg16Uint
  | 37 => some .rg8Uint
  | 38 => some .r16Uint
  | 39 => some .r8Uint
  | _ => none

/-- The image dimension of a dimension operand, where it is supported. -/
def imageDim? (dim : Word) : Option ImageDim :=
  if dim = Dim.d1 then some .d1
  else if dim = Dim.d2 then some .d2
  else if dim = Dim.d3 then some .d3
  else if dim = Dim.cube then some .cube
  else none

/-- The execution model that a word names. -/
def executionModel (model : Word) : ShaderKit.ExecutionModel :=
  if model = ExecutionModel.vertex then .vertex
  else if model = ExecutionModel.fragment then .fragment
  else if model = ExecutionModel.glCompute then .compute
  else .other ((ExecutionModel.otherNames.lookup model.toNat).getD (toString model))

namespace Definitions

variable (defs : Definitions)

/-- The declaration of a variable, as a resource of some kind. -/
def declaration (id : Id) (kind : Resource.Kind) : Declaration where
  name := defs.name id
  set := (defs.literal? id Decoration.descriptorSet).map (·.toNat)
  binding := (defs.literal? id Decoration.binding).map (·.toNat)
  kind := kind

/-- The image variable `id`, added to the class that its type puts it in. -/
def addImage (id : Id) (image : Instruction) (r : Inventory) :
    Except ReflectionError Inventory := do
  match image.operands with
  | .id sampledType :: .value .dim dim :: .word depth :: .word arrayed :: .word multisampled
      :: .word sampled :: .value .imageFormat format :: _ =>
    let some imageDim := imageDim? dim | throw (.imageDim (defs.name id) dim)
    if sampled = 2 then
      let kind := .storageImage imageDim (arrayed == 1) false (storageFormat? format)
        (defs.hasDecoration id Decoration.nonReadable)
        (defs.hasDecoration id Decoration.nonWritable)
      return { r with storageImages := r.storageImages ++ [defs.declaration id kind] }
    else
      let component := if depth = 1 then .float else defs.scalarComponent sampledType
      let kind := .sampledImage imageDim (arrayed == 1) (multisampled == 1) component
      return { r with images := r.images ++ [defs.declaration id kind] }
  | _ => throw (.imageForm (defs.name id))

/-- Adds a sampler or an image; any other handle is ignored. -/
def addHandle (id pointee : Id) (r : Inventory) : Except ReflectionError Inventory := do
  let inst ← defs.get (← defs.stripArrays pointee)
  if inst.opcode = Op.typeSampler then
    return { r with samplers := r.samplers ++ [defs.declaration id .sampler] }
  else if inst.opcode = Op.typeSampledImage then
    return { r with combinedSamplers := r.combinedSamplers + 1 }
  else if inst.opcode = Op.typeImage then defs.addImage id inst r
  else return r

/-- Adds a buffer.  One in the uniform class is a storage buffer too if its block says so. -/
def addBuffer (id pointee : Id) (storageClass : Word) (r : Inventory) :
    Except ReflectionError Inventory := do
  let block ← defs.stripArrays pointee
  let isStorage := storageClass == StorageClass.storageBuffer
    || defs.hasDecoration block Decoration.bufferBlock
  let size ← defs.blockSize block (defs.name id)
  let nonWritable := !isStorage || defs.isNonWritable id block
  let d := defs.declaration id (.buffer size nonWritable)
  return if isStorage then { r with storageBuffers := r.storageBuffers ++ [d] }
    else { r with uniformBuffers := r.uniformBuffers ++ [d] }

/-- Adds an input or output, unless it is a builtin or not in the interface. -/
def addVarying (interface : List Id) (id pointee : Id) (storageClass : Word) (r : Inventory) :
    Except ReflectionError Inventory := do
  if !interface.contains id then return r
  if ← defs.isBuiltin id pointee then return r
  let v : Varying := {
    name := defs.name id
    location := (defs.literal? id Decoration.location).map (·.toNat)
    component := ← defs.component pointee }
  return if storageClass = StorageClass.input then { r with inputs := r.inputs ++ [v] }
    else { r with outputs := r.outputs ++ [v] }

/-- Adds what a global instruction declares. -/
def addGlobal (interface : List Id) (r : Inventory) (inst : Instruction) :
    Except ReflectionError Inventory := do
  match inst.opcode == Op.var, inst.result, inst.resultType, inst.operands with
  | true, some id, some pointer, .value .storageClass storageClass :: _ =>
    let pointee ← defs.pointee pointer
    if storageClass = StorageClass.input ∨ storageClass = StorageClass.output then
      defs.addVarying interface id pointee storageClass r
    else if storageClass = StorageClass.pushConstant then
      return { r with pushConstants := r.pushConstants + 1 }
    else if storageClass = StorageClass.uniform ∨ storageClass = StorageClass.storageBuffer then
      defs.addBuffer id pointee storageClass r
    else if storageClass = StorageClass.uniformConstant then defs.addHandle id pointee r
    else return r
  | _, _, _, _ => return r

end Definitions

/-- The execution model of an entry point, and the ids of its interface. -/
def entryInterface (entry : Instruction) : Option (Word × List Id) :=
  match entry.operands with
  | .value .executionModel model :: rest => some (model, (rest.drop 2).filterMap (·.ref?))
  | _ => none

/-- The inventory that a module declares. -/
def Module.inventory (m : Module) : Except ReflectionError Inventory := do
  let some entry := m.entryPoints.head? | throw .noEntryPoint
  let some (model, interface) := entryInterface entry | throw .noEntryPoint
  m.globals.foldlM ((Definitions.ofModule m).addGlobal interface) { model := executionModel model }

/-- The inventory that a word sequence declares. -/
def declaredInventory (words : List Word) : Except ReflectionError Inventory := do
  (← (Module.ofWords words).mapError .unreadable).inventory

end ShaderKit.Spirv
