import ShaderKit.Ir.Describe
import ShaderKit.Ir.Module
import ShaderKit.Reflection.Error

/-!
# Inventory from the typed representation

The resources and the interface of the first entry point, read off a module of the typed representation.
Buffer sizes and access flags come from the declarations where a declaration matches, and combined image
samplers always do, because the representation has none.
-/

namespace ShaderKit.Ir

open Resource

/-- The texture format of a storage format, where there is one. -/
def StorageFormat.textureFormat? : StorageFormat → Option Texture.Format
  | r8Unorm => some .r8Unorm
  | r8Snorm => some .r8Snorm
  | r8Uint => some .r8Uint
  | r8Sint => some .r8Sint
  | r16Uint => some .r16Uint
  | r16Sint => some .r16Sint
  | r16Float => some .r16Float
  | rg8Unorm => some .rg8Unorm
  | rg8Snorm => some .rg8Snorm
  | rg8Uint => some .rg8Uint
  | rg8Sint => some .rg8Sint
  | r32Uint => some .r32Uint
  | r32Sint => some .r32Sint
  | r32Float => some .r32Float
  | rg16Uint => some .rg16Uint
  | rg16Sint => some .rg16Sint
  | rg16Float => some .rg16Float
  | rgba8Unorm => some .rgba8Unorm
  | rgba8Snorm => some .rgba8Snorm
  | rgba8Uint => some .rgba8Uint
  | rgba8Sint => some .rgba8Sint
  | rgb10a2Unorm => some .rgb10a2Unorm
  | rg32Uint => some .rg32Uint
  | rg32Sint => some .rg32Sint
  | rg32Float => some .rg32Float
  | rgba16Uint => some .rgba16Uint
  | rgba16Sint => some .rgba16Sint
  | rgba16Float => some .rgba16Float
  | rgba32Uint => some .rgba32Uint
  | rgba32Sint => some .rgba32Sint
  | rgba32Float => some .rgba32Float
  | bgra8Unorm | rgb10a2Uint | rg11b10Ufloat | r16Unorm | r16Snorm | rg16Unorm | rg16Snorm
  | rgba16Unorm | rgba16Snorm | r64Uint => none

/-- The name of what has no name. -/
def unnamed : String := "<unnamed>"

/-- The component type of texels and varyings of such scalars. -/
def ScalarKind.component : ScalarKind → Texture.ComponentType
  | float => .float
  | sint => .sint
  | uint => .uint
  | _ => .other

/-- The dimension of an image in an inventory. -/
def ImageDimension.imageDim : ImageDimension → ImageDim
  | d1 => .d1
  | d2 => .d2
  | d3 => .d3
  | cube => .cube

/-- The execution model of a stage. -/
def ShaderStage.model : ShaderStage → ExecutionModel
  | vertex => .vertex
  | fragment => .fragment
  | compute => .compute

/-- Component type of the scalars that a type is made of, through arrays, vectors and matrices.  A type
comes after its parts, so `fuel` need not exceed the number of types. -/
def componentFrom (types : List TypeInfo) : Nat → TypeId → Texture.ComponentType
  | 0, _ => .other
  | fuel + 1, t => match types[t]? with
    | some ⟨_, .scalar s⟩ | some ⟨_, .vector _ s⟩ | some ⟨_, .matrix _ _ s⟩ => s.kind.component
    | some ⟨_, .array base _ _⟩ => componentFrom types fuel base
    | _ => .other

/-- Size of a type in the buffer block `name`: a runtime array counts as one element, and a struct ends where
its last member does.  All products and sums have to fit in 64 bits. -/
def blockSizeFrom (types : List TypeInfo) (name : String) :
    Nat → TypeId → Except ReflectionError UInt64
  | 0, t => .error (.block name (.notSizedType (describeId t)))
  | fuel + 1, t => match types[t]? with
    | some ⟨_, .scalar s⟩ | some ⟨_, .atomic s⟩ => byteSize s.width
    | some ⟨_, .vector n s⟩ => byteSize (n.toNat * s.width)
    | some ⟨_, .matrix columns rows s⟩ =>
      let slots := if rows = .two then 2 else 4
      byteSize (columns.toNat * slots * s.width)
    | some ⟨_, .array _ (.constant n) stride⟩ => byteSize (n * stride)
    | some ⟨_, .array _ .dynamic stride⟩ => byteSize stride
    | some ⟨_, .array _ (.pending _) _⟩ => .error (.block name .arrayLength)
    | some ⟨_, .struct members _⟩ => match members.getLast? with
      | none => .ok 0
      | some last => do byteSize (last.offset + (← blockSizeFrom types name fuel last.type).toNat)
    | some info => .error (.block name (.notSizedType info.shape.describe))
    | none => .error (.block name (.notSizedType (describeId t)))

/-- The type of one binding of an array of bindings. -/
def stripBindingArrays (types : List TypeInfo) : Nat → TypeId → TypeId
  | 0, t => t
  | fuel + 1, t => match types[t]? with
    | some ⟨_, .bindingArray base _⟩ => stripBindingArrays types fuel base
    | _ => t

/-- The declaration that has a variable's name and binding, among buffers and storage images. -/
def counterpart? (declared : Inventory) (name : String) (set binding : Option Nat) :
    Option Resource.Kind :=
  (declared.uniformBuffers ++ declared.storageBuffers ++ declared.storageImages).find?
    (fun d => d.name == name && d.set == set && d.binding == binding) |>.map (·.kind)

/-- Adds what passes between stages, member by member for a struct without a binding.  A type comes after
its parts, so `fuel` need not exceed the number of types. -/
def varyingsFrom (types : List TypeInfo) : Nat → Option IoBinding → TypeId → Option String →
    List Varying
  | 0, _, _, _ => []
  | fuel + 1, binding, t, name =>
    let component := componentFrom types types.length t
    match binding with
    | some (.builtIn _) => []
    | some (.location location ..) => [⟨name.getD unnamed, some location, component⟩]
    | none => match types[t]? with
      | some ⟨_, .struct members _⟩ =>
        members.flatMap fun m => varyingsFrom types fuel m.binding m.type m.name
      | _ => [⟨name.getD unnamed, none, component⟩]

namespace Module

variable (m : Module)

/-- The inventory's view of a buffer: the declared one, if there is one. -/
def bufferKind (name : String) (declared : Option Resource.Kind) (type : TypeId)
    (nonWritable : Bool) : Except ReflectionError Resource.Kind :=
  match declared with
  | some (.buffer size nonWritable) => .ok (.buffer size nonWritable)
  | _ => do return .buffer (← blockSizeFrom m.types name (m.types.length + 1) type) nonWritable

/-- The inventory's view of an image of a class. -/
def imageKind (declared : Option Resource.Kind) (dim : ImageDimension) (arrayed : Bool) :
    ImageClass → Resource.Kind
  | .sampled kind multisampled => .sampledImage dim.imageDim arrayed multisampled kind.component
  | .depth multisampled => .sampledImage dim.imageDim arrayed multisampled .float
  | .storage format access =>
    let (nonReadable, nonWritable) := match declared with
      | some (.storageImage _ _ _ _ nonReadable nonWritable) => (nonReadable, nonWritable)
      | _ => (!access.load, !access.store)
    .storageImage dim.imageDim arrayed false format.textureFormat? nonReadable nonWritable

/-- Adds a global variable to the inventory. -/
def addGlobal (declared r : Inventory) (v : GlobalVariable) : Except ReflectionError Inventory := do
  let name := v.name.getD unnamed
  let set := v.binding.map (·.group)
  let binding := v.binding.map (·.binding)
  let known := counterpart? declared name set binding
  let type := stripBindingArrays m.types m.types.length v.type
  let declaration (kind : Resource.Kind) : Declaration := ⟨name, set, binding, kind⟩
  match v.space with
  | .pushConstant => return { r with pushConstants := r.pushConstants + 1 }
  | .uniform =>
    let d := declaration (← m.bufferKind name known type true)
    return { r with uniformBuffers := r.uniformBuffers ++ [d] }
  | .storage access =>
    let d := declaration (← m.bufferKind name known type !access.store)
    return { r with storageBuffers := r.storageBuffers ++ [d] }
  | .handle => match m.shape? type with
    | some (.sampler _) => return { r with samplers := r.samplers ++ [declaration .sampler] }
    | some (.image dim arrayed imageClass) =>
      let d := declaration (imageKind known dim arrayed imageClass)
      return match imageClass with
        | .storage .. => { r with storageImages := r.storageImages ++ [d] }
        | _ => { r with images := r.images ++ [d] }
    | _ => return r
  | .function | .private_ | .workgroup => return r

/-- The inventory of a module, with the help of what its words declare. -/
def inventory (declared : Inventory) : Except ReflectionError Inventory := do
  let some entry := m.entryPoints.head? | throw .noEntryPoint
  let fuel := m.types.length + 1
  let start : Inventory := {
    model := entry.stage.model
    combinedSamplers := declared.combinedSamplers
    inputs := entry.function.arguments.flatMap fun a =>
      varyingsFrom m.types fuel a.binding a.type a.name
    outputs := entry.function.result.toList.flatMap fun r =>
      varyingsFrom m.types fuel r.binding r.type none }
  m.globals.foldlM (m.addGlobal declared) start

end Module

end ShaderKit.Ir
