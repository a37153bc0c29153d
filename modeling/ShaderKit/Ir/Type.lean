import ShaderKit.Ir.Scalar

/-!
# Types

Types of the typed representation.  They live in one list per module and refer to each other by index;
no type occurs twice in that list.
-/

namespace ShaderKit.Ir

/-- Index into a module's types. -/
abbrev TypeId := Nat

/-- How a storage resource is used. -/
structure StorageAccess where
  load : Bool := false
  store : Bool := false
  atomic : Bool := false
  deriving DecidableEq

namespace StorageAccess

/-- Storage that can be read only. -/
def readOnly : StorageAccess := { load := true }

/-- Storage that can be written only. -/
def writeOnly : StorageAccess := { store := true }

/-- Storage that can be read and written. -/
def readWrite : StorageAccess := { load := true, store := true }

/-- What either allows. -/
def union (a b : StorageAccess) : StorageAccess :=
  ⟨a.load || b.load, a.store || b.store, a.atomic || b.atomic⟩

end StorageAccess

/-- Where a variable lives. -/
inductive AddressSpace
  | function | private_ | workgroup | uniform
  | storage (access : StorageAccess)
  /-- Images and samplers. -/
  | handle
  | pushConstant
  deriving DecidableEq

/-- Values that a stage gives to or takes from the pipeline. -/
inductive BuiltIn
  | position (invariant : Bool)
  | viewIndex | baseInstance | baseVertex | clipDistance | cullDistance | instanceIndex
  | pointSize | vertexIndex | drawId
  | fragDepth | pointCoord | frontFacing | primitiveIndex | sampleIndex | sampleMask
  | globalInvocationId | localInvocationId | localInvocationIndex
  | workGroupId | workGroupSize | numWorkGroups
  | numSubgroups | subgroupId | subgroupSize | subgroupInvocationId
  deriving DecidableEq

/-- How a value between vertices comes from those at the vertices. -/
inductive Interpolation
  | perspective | linear | flat
  deriving DecidableEq

/-- Where in a fragment a value is taken. -/
inductive Sampling
  | center | centroid | sample | first | either
  deriving DecidableEq

/-- How a value is connected to the stage's interface. -/
inductive IoBinding
  | builtIn (builtIn : BuiltIn)
  | location (location : Nat) (secondBlendSource : Bool) (interpolation : Option Interpolation)
      (sampling : Option Sampling)
  deriving DecidableEq

/-- The dimension of an image, without its layers. -/
inductive ImageDimension
  | d1 | d2 | d3 | cube
  deriving DecidableEq

/-- Formats of storage images. -/
inductive StorageFormat
  | r8Unorm | r8Snorm | r8Uint | r8Sint
  | r16Uint | r16Sint | r16Float
  | rg8Unorm | rg8Snorm | rg8Uint | rg8Sint
  | r32Uint | r32Sint | r32Float
  | rg16Uint | rg16Sint | rg16Float
  | rgba8Unorm | rgba8Snorm | rgba8Uint | rgba8Sint | bgra8Unorm
  | rgb10a2Uint | rgb10a2Unorm | rg11b10Ufloat
  | rg32Uint | rg32Sint | rg32Float
  | rgba16Uint | rgba16Sint | rgba16Float
  | rgba32Uint | rgba32Sint | rgba32Float
  | r16Unorm | r16Snorm | rg16Unorm | rg16Snorm | rgba16Unorm | rgba16Snorm
  | r64Uint
  deriving DecidableEq

/-- What an image is used for, and what its texels are. -/
inductive ImageClass
  | sampled (kind : ScalarKind) (multisampled : Bool)
  | depth (multisampled : Bool)
  | storage (format : StorageFormat) (access : StorageAccess)
  deriving DecidableEq

/-- Whether an image holds depths, which are read as scalars. -/
def ImageClass.isDepth : ImageClass → Bool
  | depth _ => true
  | _ => false

/-- How many elements an array has. -/
inductive ArraySize
  | constant (count : Nat)
  /-- The count is the value of an override. -/
  | pending (override : Nat)
  | dynamic
  deriving DecidableEq

/-- A member of a struct. -/
structure StructMember where
  name : Option String
  type : TypeId
  binding : Option IoBinding
  offset : Nat
  deriving DecidableEq

/-- What a type is, without its name. -/
inductive Shape
  | scalar (scalar : Scalar)
  | vector (size : VectorSize) (scalar : Scalar)
  | matrix (columns rows : VectorSize) (scalar : Scalar)
  | atomic (scalar : Scalar)
  | pointer (base : TypeId) (space : AddressSpace)
  /-- A pointer to a scalar or to a vector that has no type of its own in the module. -/
  | valuePointer (size : Option VectorSize) (scalar : Scalar) (space : AddressSpace)
  | array (base : TypeId) (size : ArraySize) (stride : Nat)
  | struct (members : List StructMember) (span : Nat)
  | image (dim : ImageDimension) (arrayed : Bool) (imageClass : ImageClass)
  | sampler (comparison : Bool)
  | bindingArray (base : TypeId) (size : ArraySize)
  | accelerationStructure
  | rayQuery
  deriving DecidableEq

/-- A type, with the name that it was declared under. -/
structure TypeInfo where
  name : Option String := none
  shape : Shape
  deriving DecidableEq

/-- Adds a type unless it is there already, and gives its index. -/
def internType (types : List TypeInfo) (t : TypeInfo) : List TypeInfo × TypeId :=
  match types.findIdx? (· == t) with
  | some i => (types, i)
  | none => (types ++ [t], types.length)

namespace Shape

/-- The scalar that a scalar, vector or matrix is made of. -/
def scalar? : Shape → Option Scalar
  | scalar s | vector _ s | matrix _ _ s | atomic s => some s
  | valuePointer _ s _ => some s
  | _ => none

end Shape

end ShaderKit.Ir
