import ShaderKit.Ir.Layout
import ShaderKit.Ir.Typing
import ShaderKit.Spirv.Emit.State
import ShaderKit.Spirv.Lift.Decorations
import ShaderKit.Spirv.Lift.Types

/-!
# Emitting types and constants

A type is written after the types that it is made of, so its own index bounds how deep it is nested.
-/

namespace ShaderKit.Spirv

open Ir (AddressSpace ArraySize ImageClass ImageDimension Literal Scalar Shape StorageFormat
  StructMember TypeId ValueType VectorSize)

/-- The storage class of an address space. -/
def AddressSpace.storageClass : AddressSpace → Word
  | .function => StorageClass.function
  | .private_ => StorageClass.private_
  | .workgroup => StorageClass.workgroup
  | .uniform => StorageClass.uniform
  | .storage _ => StorageClass.storageBuffer
  | .handle => StorageClass.uniformConstant
  | .pushConstant => StorageClass.pushConstant

/-- The number of an image dimension. -/
def ImageDimension.word : ImageDimension → Word
  | .d1 => Dim.d1
  | .d2 => Dim.d2
  | .d3 => Dim.d3
  | .cube => Dim.cube

/-- The value of an image format; one that is not in the table has no value of its own. -/
def StorageFormat.word (f : StorageFormat) : Word :=
  match storageFormatTable.findIdx? (· == f) with
  | some i => UInt32.ofNat (i + 1)
  | none => 0

/-- Formats that every device with storage images has. -/
def StorageFormat.isBasic (f : StorageFormat) : Bool :=
  ([.rgba32Float, .rgba16Float, .r32Float, .rgba8Unorm, .rgba8Snorm, .rgba32Sint, .rgba16Sint,
    .rgba8Sint, .r32Sint, .rgba32Uint, .rgba16Uint, .rgba8Uint, .r32Uint] :
    List StorageFormat).contains f

namespace EmitM

/-- The shape of a type of the module. -/
def shapeOfType (t : TypeId) : EmitM Shape := do
  match (← get).module.shape? t with
  | some shape => return shape
  | none => throw .layout

/-- The id of a scalar type. -/
def scalarType (s : Scalar) : EmitM Id := typeOnce (.scalar s) fun id =>
  let bits := UInt32.ofNat (8 * s.width)
  match s.kind with
  | .bool => declare Op.typeBool [id]
  | .float => do
    if s.width = 8 then require 10
    declare Op.typeFloat [id, bits]
  | .sint => do
    if s.width = 8 then require 11
    declare Op.typeInt [id, bits, 1]
  | .uint => do
    if s.width = 8 then require 11
    declare Op.typeInt [id, bits, 0]
  | .abstractInt | .abstractFloat => throw .layout

/-- The id of a vector type. -/
def vectorType (n : VectorSize) (s : Scalar) : EmitM Id := typeOnce (.vector n s) fun id => do
  declare Op.typeVector [id, ← scalarType s, UInt32.ofNat n.toNat]

/-- The id of a matrix type. -/
def matrixType (columns rows : VectorSize) (s : Scalar) : EmitM Id :=
  typeOnce (.matrix columns rows s) fun id => do
    declare Op.typeMatrix [id, ← vectorType rows s, UInt32.ofNat columns.toNat]

/-- The id of a pointer type. -/
def pointerType (storageClass : Word) (base : Id) : EmitM Id :=
  typeOnce (.pointer storageClass base) fun id =>
    declare Op.typePointer [id, storageClass, base]

/-- The id of the type without values. -/
def voidType : EmitM Id := typeOnce .void fun id => declare Op.typeVoid [id]

/-- The id of a literal. -/
def literal : Literal → EmitM Id
  | .bool true => do constantOnce Op.constantTrue (← scalarType .bool) []
  | .bool false => do constantOnce Op.constantFalse (← scalarType .bool) []
  | .u32 n => do constantOnce Op.constant (← scalarType .u32) [n]
  | .i32 n => do constantOnce Op.constant (← scalarType .i32) [n.toUInt32]
  | .f32 bits => do constantOnce Op.constant (← scalarType .f32) [bits]
  | .u64 n => do constantOnce Op.constant (← scalarType .u64) (wide n)
  | .i64 n => do constantOnce Op.constant (← scalarType .i64) (wide n.toUInt64)
  | .f64 bits => do constantOnce Op.constant (← scalarType .f64) (wide bits)
  | .abstractInt _ | .abstractFloat _ => throw .layout
where
  wide (n : UInt64) : List Word := [n.toUInt32, (n >>> 32).toUInt32]

/-- An unsigned constant. -/
def number (n : Nat) : EmitM Id := literal (.u32 (UInt32.ofNat n))

/-- Decorates the dimensionality of an image with what it needs. -/
def requireImage (dim : ImageDimension) (arrayed : Bool) (imageClass : ImageClass) :
    EmitM Unit := do
  match imageClass with
  | .storage format _ =>
    if dim = .d1 then require 44
    if dim = .cube ∧ arrayed then require 34
    if !StorageFormat.isBasic format then require 49
  | .sampled _ multisampled | .depth multisampled =>
    if dim = .d1 then require 43
    if dim = .cube ∧ arrayed then require 45
    if multisampled ∧ arrayed then require 48

/-- Writes an image type. -/
def imageType (id : Id) (dim : ImageDimension) (arrayed : Bool) (imageClass : ImageClass) :
    EmitM Unit := do
  requireImage dim arrayed imageClass
  let flag (b : Bool) : Word := if b then 1 else 0
  let sampled ← scalarType imageClass.texel
  let (depth, multisampled, use, format) : Word × Word × Word × Word := match imageClass with
    | .sampled _ multisampled => (0, flag multisampled, 1, 0)
    | .depth multisampled => (1, flag multisampled, 1, 0)
    | .storage format _ => (0, 0, 2, StorageFormat.word format)
  declare Op.typeImage
    [id, sampled, ImageDimension.word dim, depth, flag arrayed, multisampled, use, format]

/-- The matrix inside a type, looked for inside arrays. -/
def innerMatrix? (types : List Ir.TypeInfo) : Nat → Shape → Option (VectorSize × Scalar)
  | _, .matrix _ rows s => some (rows, s)
  | fuel + 1, .array base _ _ => do innerMatrix? types fuel (← types[base]?).shape
  | _, _ => none

/-- Writes the name and the layout of a member. -/
def decorateStructMember (id : Id) (index : Nat) (m : StructMember) : EmitM Unit := do
  nameMember id index m.name
  decorateMember id index Decoration.offset [UInt32.ofNat m.offset]
  let types := (← get).module.types
  if let some (rows, s) := innerMatrix? types types.length (← shapeOfType m.type) then
    decorateMember id index Decoration.colMajor
    decorateMember id index Decoration.matrixStride [UInt32.ofNat (rows.slots * s.width)]

/-- The extension that has ray queries. -/
def rayQueryExtension : String := "SPV_KHR_ray_query"

mutual

/-- The id of one of the module's types. -/
def typeIn : Nat → TypeId → EmitM Id
  | 0, _ => throw .layout
  | fuel + 1, t => do
    match ← shapeOfType t with
    | .scalar s | .atomic s => scalarType s
    | .vector n s => vectorType n s
    | .matrix c r s => matrixType c r s
    | .pointer base space => do
      pointerType (AddressSpace.storageClass space) (← typeIn fuel base)
    | .valuePointer n s space => do
      let base ← match n with
        | none => scalarType s
        | some n => vectorType n s
      pointerType (AddressSpace.storageClass space) base
    | shape => typeOnce (.named t) fun id => do
      nameId id (((← get).module.types[t]?).bind (·.name))
      compound fuel id shape

/-- Writes a type that is made of others. -/
def compound : Nat → Id → Shape → EmitM Unit
  | 0, _, _ => throw .layout
  | fuel + 1, id, shape => do
    match shape with
    | .array base size stride => do
      let element ← typeIn fuel base
      decorate id Decoration.arrayStride [UInt32.ofNat stride]
      arrayOf id element size
    | .bindingArray base size => do arrayOf id (← typeIn fuel base) size
    | .struct members _ => do
      let ids ← members.mapM fun m => typeIn fuel m.type
      members.zipIdx.forM fun (m, i) => decorateStructMember id i m
      declare Op.typeStruct (id :: ids)
    | .image dim arrayed imageClass => imageType id dim arrayed imageClass
    | .sampler _ => declare Op.typeSampler [id]
    | .accelerationStructure => do
      require 4472
      declare 5341 [id]
    | .rayQuery => do
      require 4472
      useExtension rayQueryExtension
      declare 4472 [id]
    | _ => throw .layout
where
  arrayOf (id element : Id) (size : ArraySize) : EmitM Unit := do
    match size with
    | .constant n => do declare Op.typeArray [id, element, ← number n]
    | .dynamic => declare Op.typeRuntimeArray [id, element]
    | .pending _ => throw .overrides

end

/-- The id of one of the module's types; types are nested less deep than there are types. -/
def typeId (t : TypeId) : EmitM Id := do typeIn (2 * (← get).module.types.length + 2) t

/-- The id of the type of a value. -/
def valueType : ValueType → EmitM Id
  | .named t => typeId t
  | .shape (.scalar s) => scalarType s
  | .shape (.vector n s) => vectorType n s
  | .shape (.matrix c r s) => matrixType c r s
  | .shape (.pointer base space) => do
    pointerType (AddressSpace.storageClass space) (← typeId base)
  | .shape (.valuePointer none s space) => do
    pointerType (AddressSpace.storageClass space) (← scalarType s)
  | .shape (.valuePointer (some n) s space) => do
    pointerType (AddressSpace.storageClass space) (← vectorType n s)
  | .shape _ => throw .layout

end EmitM

end ShaderKit.Spirv
