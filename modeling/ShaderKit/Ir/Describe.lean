import ShaderKit.Ir.Type
import ShaderKit.Text.Quoted

/-!
# Types as text

How types and bindings are named in messages: constructors by name, fields in braces, references to
other types by their index in brackets.
-/

namespace ShaderKit.Ir

/-- Something that is there or not. -/
def describeOption {α : Type} (describe : α → String) : Option α → String
  | none => "None"
  | some a => s!"Some({describe a})"

/-- Fields with their values, in braces after a name. -/
def describeRecord (name : String) (fields : List (String × String)) : String :=
  name ++ " \x7b " ++ ", ".intercalate (fields.map fun (field, value) => s!"{field}: {value}")
    ++ " \x7d"

/-- An index, as messages show it. -/
def describeId (id : Nat) : String := s!"[{id}]"

/-- A kind of scalar, as messages show it. -/
def ScalarKind.describe : ScalarKind → String
  | sint => "Sint"
  | uint => "Uint"
  | float => "Float"
  | bool => "Bool"
  | abstractInt => "AbstractInt"
  | abstractFloat => "AbstractFloat"

/-- A scalar, as messages show it. -/
def Scalar.describe (s : Scalar) : String :=
  describeRecord "Scalar" [("kind", s.kind.describe), ("width", toString s.width)]

/-- The size of a vector, as messages show it. -/
def VectorSize.describe : VectorSize → String
  | two => "Bi"
  | three => "Tri"
  | four => "Quad"

/-- What may be done with storage, as messages show it. -/
def StorageAccess.describe (a : StorageAccess) : String :=
  let flags := (if a.load then ["LOAD"] else []) ++ (if a.store then ["STORE"] else [])
    ++ (if a.atomic then ["ATOMIC"] else [])
  let text := if flags.isEmpty then "0x0" else " | ".intercalate flags
  s!"StorageAccess({text})"

/-- An address space, as messages show it. -/
def AddressSpace.describe : AddressSpace → String
  | function => "Function"
  | private_ => "Private"
  | workgroup => "WorkGroup"
  | uniform => "Uniform"
  | storage access => describeRecord "Storage" [("access", access.describe)]
  | handle => "Handle"
  | pushConstant => "PushConstant"

/-- A builtin, as messages show it. -/
def BuiltIn.describe : BuiltIn → String
  | position invariant => describeRecord "Position" [("invariant", toString invariant)]
  | viewIndex => "ViewIndex"
  | baseInstance => "BaseInstance"
  | baseVertex => "BaseVertex"
  | clipDistance => "ClipDistance"
  | cullDistance => "CullDistance"
  | instanceIndex => "InstanceIndex"
  | pointSize => "PointSize"
  | vertexIndex => "VertexIndex"
  | drawId => "DrawID"
  | fragDepth => "FragDepth"
  | pointCoord => "PointCoord"
  | frontFacing => "FrontFacing"
  | primitiveIndex => "PrimitiveIndex"
  | sampleIndex => "SampleIndex"
  | sampleMask => "SampleMask"
  | globalInvocationId => "GlobalInvocationId"
  | localInvocationId => "LocalInvocationId"
  | localInvocationIndex => "LocalInvocationIndex"
  | workGroupId => "WorkGroupId"
  | workGroupSize => "WorkGroupSize"
  | numWorkGroups => "NumWorkGroups"
  | numSubgroups => "NumSubgroups"
  | subgroupId => "SubgroupId"
  | subgroupSize => "SubgroupSize"
  | subgroupInvocationId => "SubgroupInvocationId"

/-- A way to interpolate, as messages show it. -/
def Interpolation.describe : Interpolation → String
  | perspective => "Perspective"
  | linear => "Linear"
  | flat => "Flat"

/-- A place to sample at, as messages show it. -/
def Sampling.describe : Sampling → String
  | center => "Center"
  | centroid => "Centroid"
  | sample => "Sample"
  | first => "First"
  | either => "Either"

/-- A binding of an input or output, as messages show it. -/
def IoBinding.describe : IoBinding → String
  | builtIn b => s!"BuiltIn({b.describe})"
  | location l secondBlendSource interpolation sampling =>
    describeRecord "Location" [("location", toString l),
      ("second_blend_source", toString secondBlendSource),
      ("interpolation", describeOption (·.describe) interpolation),
      ("sampling", describeOption (·.describe) sampling)]

/-- The dimension of an image, as messages show it. -/
def ImageDimension.describe : ImageDimension → String
  | d1 => "D1"
  | d2 => "D2"
  | d3 => "D3"
  | cube => "Cube"

/-- The format of a storage image, as messages show it. -/
def StorageFormat.describe : StorageFormat → String
  | r8Unorm => "R8Unorm" | r8Snorm => "R8Snorm" | r8Uint => "R8Uint" | r8Sint => "R8Sint"
  | r16Uint => "R16Uint" | r16Sint => "R16Sint" | r16Float => "R16Float"
  | rg8Unorm => "Rg8Unorm" | rg8Snorm => "Rg8Snorm" | rg8Uint => "Rg8Uint"
  | rg8Sint => "Rg8Sint" | r32Uint => "R32Uint" | r32Sint => "R32Sint"
  | r32Float => "R32Float" | rg16Uint => "Rg16Uint" | rg16Sint => "Rg16Sint"
  | rg16Float => "Rg16Float" | rgba8Unorm => "Rgba8Unorm" | rgba8Snorm => "Rgba8Snorm"
  | rgba8Uint => "Rgba8Uint" | rgba8Sint => "Rgba8Sint" | bgra8Unorm => "Bgra8Unorm"
  | rgb10a2Uint => "Rgb10a2Uint" | rgb10a2Unorm => "Rgb10a2Unorm"
  | rg11b10Ufloat => "Rg11b10Ufloat" | rg32Uint => "Rg32Uint" | rg32Sint => "Rg32Sint"
  | rg32Float => "Rg32Float" | rgba16Uint => "Rgba16Uint" | rgba16Sint => "Rgba16Sint"
  | rgba16Float => "Rgba16Float" | rgba32Uint => "Rgba32Uint" | rgba32Sint => "Rgba32Sint"
  | rgba32Float => "Rgba32Float" | r16Unorm => "R16Unorm" | r16Snorm => "R16Snorm"
  | rg16Unorm => "Rg16Unorm" | rg16Snorm => "Rg16Snorm" | rgba16Unorm => "Rgba16Unorm"
  | rgba16Snorm => "Rgba16Snorm" | r64Uint => "R64Uint"

/-- A class of images, as messages show it. -/
def ImageClass.describe : ImageClass → String
  | sampled kind multisampled =>
    describeRecord "Sampled" [("kind", kind.describe), ("multi", toString multisampled)]
  | depth multisampled => describeRecord "Depth" [("multi", toString multisampled)]
  | storage format access =>
    describeRecord "Storage" [("format", format.describe), ("access", access.describe)]

/-- The size of an array, as messages show it. -/
def ArraySize.describe : ArraySize → String
  | constant count => s!"Constant({count})"
  | pending override => s!"Pending(Override({describeId override}))"
  | dynamic => "Dynamic"

/-- A member of a struct, as messages show it. -/
def StructMember.describe (m : StructMember) : String :=
  describeRecord "StructMember" [("name", describeOption Text.quote m.name),
    ("ty", describeId m.type), ("binding", describeOption (·.describe) m.binding),
    ("offset", toString m.offset)]

/-- A shape, as messages show it. -/
def Shape.describe : Shape → String
  | scalar s => s!"Scalar({s.describe})"
  | vector size s =>
    describeRecord "Vector" [("size", size.describe), ("scalar", s.describe)]
  | matrix columns rows s =>
    describeRecord "Matrix" [("columns", columns.describe), ("rows", rows.describe),
      ("scalar", s.describe)]
  | atomic s => s!"Atomic({s.describe})"
  | pointer base space =>
    describeRecord "Pointer" [("base", describeId base), ("space", space.describe)]
  | valuePointer size s space =>
    describeRecord "ValuePointer" [("size", describeOption (·.describe) size),
      ("scalar", s.describe), ("space", space.describe)]
  | array base size stride =>
    describeRecord "Array" [("base", describeId base), ("size", size.describe),
      ("stride", toString stride)]
  | struct members span =>
    describeRecord "Struct" [("members", "[" ++ ", ".intercalate (members.map (·.describe)) ++ "]"),
      ("span", toString span)]
  | image dim arrayed imageClass =>
    describeRecord "Image" [("dim", dim.describe), ("arrayed", toString arrayed),
      ("class", imageClass.describe)]
  | sampler comparison => describeRecord "Sampler" [("comparison", toString comparison)]
  | bindingArray base size =>
    describeRecord "BindingArray" [("base", describeId base), ("size", size.describe)]
  | accelerationStructure => "AccelerationStructure"
  | rayQuery => "RayQuery"

end ShaderKit.Ir
