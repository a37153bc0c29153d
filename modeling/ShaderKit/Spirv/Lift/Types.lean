import ShaderKit.Spirv.Lift.State
import ShaderKit.Spirv.Opcode

/-!
# Lifting types

Each type instruction becomes a type of the module.  Sampled images stand for their images, and a
pointer to an image or sampler for the image or sampler itself.
-/

namespace ShaderKit.Spirv

open Ir (AddressSpace ImageDimension Scalar ScalarKind Shape StorageAccess StorageFormat StructMember
  TypeId VectorSize)

/-- Where variables of a storage class live; inputs and outputs are copied to private variables. -/
inductive VariableClass
  | space (space : AddressSpace)
  | input
  | output
  deriving DecidableEq

/-- What a storage class stands for. -/
def liftStorageClass (c : Word) : Except LiftError VariableClass :=
  if c = StorageClass.function then .ok (.space .function)
  else if c = StorageClass.input then .ok .input
  else if c = StorageClass.output then .ok .output
  else if c = StorageClass.private_ then .ok (.space .private_)
  else if c = StorageClass.uniformConstant then .ok (.space .handle)
  else if c = StorageClass.storageBuffer then .ok (.space (.storage .readWrite))
  else if c = StorageClass.uniform then .ok (.space .uniform)
  else if c = StorageClass.workgroup then .ok (.space .workgroup)
  else if c = StorageClass.pushConstant then .ok (.space .pushConstant)
  else .error (.storageClass c)

/-- The image dimension of that number. -/
def liftDim (dim : Word) : Except LiftError ImageDimension :=
  if dim = Dim.d1 then .ok .d1
  else if dim = Dim.d2 then .ok .d2
  else if dim = Dim.d3 then .ok .d3
  else if dim = Dim.cube then .ok .cube
  else .error (.imageDim dim)

/-- Storage formats by value, starting with 1. -/
def storageFormatTable : List StorageFormat :=
  [.rgba32Float, .rgba16Float, .r32Float, .rgba8Unorm, .rgba8Snorm, .rg32Float, .rg16Float,
   .rg11b10Ufloat, .r16Float, .rgba16Unorm, .rgb10a2Unorm, .rg16Unorm, .rg8Unorm, .r16Unorm,
   .r8Unorm, .rgba16Snorm, .rg16Snorm, .rg8Snorm, .r16Snorm, .r8Snorm, .rgba32Sint, .rgba16Sint,
   .rgba8Sint, .r32Sint, .rg32Sint, .rg16Sint, .rg8Sint, .r16Sint, .r8Sint, .rgba32Uint,
   .rgba16Uint, .rgba8Uint, .r32Uint, .rgb10a2Uint, .rg32Uint, .rg16Uint, .rg8Uint, .r16Uint,
   .r8Uint, .r64Uint]

/-- The format of a value other than 0. -/
def liftFormat (format : Word) : Except LiftError StorageFormat :=
  match storageFormatTable[format.toNat - 1]? with
  | some f => .ok f
  | none => .error (.imageFormat format)

/-- The width in bytes of a width in bits. -/
def liftWidth (bits : Word) : Except LiftError Nat :=
  if bits.toNat / 8 < 256 then .ok (bits.toNat / 8) else .error (.typeWidth bits)

/-- The vector size of that number. -/
def liftVectorSize (count : Word) : Except LiftError VectorSize :=
  match VectorSize.ofNat? count.toNat with
  | some n => .ok n
  | none => .error (.vectorSize count)

namespace LiftM

/-- Adds the type that an instruction with result `id` declares. -/
def declareType (id : Id) (shape : Shape) (name : Option String) (base : Option Id := none) :
    LiftM Unit := do
  setType id ⟨← intern shape name, base⟩

/-- The name of an id, whose decorations are used up. -/
def takeName (id : Id) : LiftM (Option String) := return (← takeDecorations id).name

/-- An integer type. -/
def intType (id : Id) (bits sign : Word) : LiftM Unit := do
  let kind ← if sign = 0 then pure ScalarKind.uint
    else if sign = 1 then pure ScalarKind.sint else throw (.sign sign)
  declareType id (.scalar ⟨kind, ← liftWidth bits⟩) (← takeName id)

/-- A float type. -/
def floatType (id : Id) (bits : Word) : LiftM Unit := do
  declareType id (.scalar ⟨.float, ← liftWidth bits⟩) (← takeName id)

/-- A vector type. -/
def vectorType (id component : Id) (count : Word) : LiftM Unit := do
  match ← shapeOf (← typeEntry component).type with
  | .scalar s =>
    declareType id (.vector (← liftVectorSize count) s) (← takeName id) (some component)
  | _ => throw (.innerType component)

/-- A matrix type. -/
def matrixType (id column : Id) (count : Word) : LiftM Unit := do
  match ← shapeOf (← typeEntry column).type with
  | .vector rows s =>
    declareType id (.matrix (← liftVectorSize count) rows s) (← takeName id) (some column)
  | _ => throw (.innerType column)

/-- The space of what a pointer of this class points to. -/
def pointerSpace (storageClass : Word) (base : TypeId) : LiftM AddressSpace := do
  match ← shapeOf base with
  | .pointer _ space | .valuePointer _ _ space => return space
  | _ =>
    if ((← get).storageStructs.lookup base).isSome then return .storage {}
    match ← (liftStorageClass storageClass : Except _ _) with
    | .space space => return space
    | .input | .output => return .private_

/-- A pointer type. -/
def pointerType (id : Id) (storageClass : Word) (pointee : Id) : LiftM Unit := do
  let name ← takeName id
  let entry ← typeEntry pointee
  let space ← pointerSpace storageClass entry.type
  match ← shapeOf entry.type, space with
  | .array _ .dynamic _, .storage _ => pure ()
  | .array _ .dynamic _, _ => throw .runtimeArrayClass
  | _, _ => pure ()
  if space = .handle then setType id entry
  else declareType id (.pointer entry.type space) name (some pointee)

/-- The word that a constant of the module is. -/
def constantWord? (c : ConstantRef) : LiftM (Option Word) := do
  let m := (← get).module
  match c with
  | .overridden _ => return none
  | .constant c => match m.constants[c]?.bind fun c => m.globalExpressions[c.init]? with
    | some (.literal (.u32 n)) => return some n
    | some (.literal (.i32 n)) => return some n.toUInt32
    | _ => return none

/-- The value of a constant that can be an array length. -/
def arrayLength (id : Id) : LiftM Nat := do
  match ← constantWord? (← find (·.constants) id).value with
  | some n => if n = 0 then throw (.arrayLength id) else return n.toNat
  | none => throw (.arrayLength id)

/-- An array type.  Arrays of images or samplers are arrays of bindings. -/
def arrayType (id element : Id) (size : Ir.ArraySize) : LiftM Unit := do
  let d ← takeDecorations id
  let base := (← typeEntry element).type
  let stride := (← extent base).stride
  let shape ← match ← shapeOf base with
    | .image .. | .sampler _ => pure (Shape.bindingArray base size)
    | _ => pure (.array base size ((d.arrayStride.map (·.toNat)).getD stride))
  declareType id shape d.name (some element)

/-- The state of laying out struct members one after the other. -/
structure StructLayout where
  members : List StructMember := []
  ids : List (Id × Bool) := []
  span : Nat := 0
  alignment : Nat := 1
  access : StorageAccess := {}

/-- A matrix member must have the stride that its columns have without padding. -/
def checkMatrixStride (shape : Shape) (d : Decorations) : LiftM Unit := do
  match shape, d.matrixStride with
  | .matrix _ rows s, some stride =>
    if stride.toNat ≠ rows.slots * s.width then throw (.matrixStride stride)
  | _, _ => return ()

/-- Adds the next member of struct `id`.  It follows the one before, unless an offset is given. -/
def structMember (id : Id) (l : StructLayout) (typeId : Id) : LiftM StructLayout := do
  let type := (← typeEntry typeId).type
  let d ← takeMemberDecorations id (UInt32.ofNat l.members.length)
  let e ← extent type
  let offset := (d.offset.map (·.toNat)).getD (Ir.alignUp e.alignment l.span % Ir.twoPow 32)
  checkMatrixStride (← shapeOf type) d
  return {
    members := l.members ++ [{ name := d.name, type, binding := d.ioBinding.toOption, offset }]
    ids := l.ids ++ [(typeId, d.rowMajor)]
    span := (offset + e.size) % Ir.twoPow 32
    alignment := max l.alignment e.alignment
    access := l.access.union d.access }

/-- A struct type, its members laid out as they are decorated. -/
def structType (id : Id) (memberIds : List Id) : LiftM Unit := do
  let d ← takeDecorations id
  let _ ← extents
  let l ← memberIds.foldlM (structMember id) {}
  let span := Ir.alignUp l.alignment l.span % Ir.twoPow 32
  let type ← intern (.struct l.members span) d.name
  if d.bufferBlock then
    modify fun s => { s with storageStructs := (type, l.access) :: s.storageStructs }
  let members := l.ids.mapIdx fun i entry => ((type, i), entry)
  modify fun s => { s with members := members ++ s.members }
  setType id { type }

/-- The shape of texture coordinates, for an image that is neither an array nor compared. -/
def coordinateShape : ImageDimension → Shape
  | .d1 => .scalar .f32
  | .d2 => .vector .two .f32
  | .d3 | .cube => .vector .three .f32

/-- An image type. -/
def imageType (id sampled : Id) (dim depth arrayed multisampled format : Word) : LiftM Unit := do
  let dim ← (liftDim dim : Except _ _)
  let name ← takeName id
  let _ ← intern (coordinateShape dim)
  let kind ← match ← shapeOf (← typeEntry sampled).type with
    | .scalar s | .vector _ s => pure s.kind
    | _ => throw (.imageType sampled)
  let multisampled := multisampled != 0
  let imageClass ← if depth = 1 then pure (Ir.ImageClass.depth multisampled)
    else if format ≠ 0 then do
      let format ← (liftFormat format : Except _ _)
      pure (.storage format {})
    else pure (.sampled kind multisampled)
  declareType id (.image dim (arrayed != 0) imageClass) name

/-- Lifts an instruction that declares a type. -/
def typeInstruction (inst : Instruction) : LiftM Unit := do
  let some id := inst.result | throw (.instruction inst.opcode)
  match inst.opcode - Op.typeVoid, inst.operands with
  | 0, [] => modify fun s => { s with voidType := some id }
  | 1, [] => do declareType id (.scalar .bool) (← takeName id)
  | 2, [.word bits, .word sign] => intType id bits sign
  | 3, [.word bits] => floatType id bits
  | 4, [.id component, .word count] => vectorType id component count
  | 5, [.id column, .word count] => matrixType id column count
  | 6, [.id sampled, .value .dim dim, .word depth, .word arrayed, .word multisampled, .word _,
      .value .imageFormat format] => imageType id sampled dim depth arrayed multisampled format
  | 7, [] => do declareType id (.sampler false) (← takeName id)
  | 8, [.id image] => do setType id (← typeEntry image)
  | 9, [.id element, .id length] => do
    arrayType id element (.constant (← arrayLength length))
  | 10, [.id element] => arrayType id element .dynamic
  | 11, members => structType id (members.filterMap (·.ref?))
  | 13, [.value .storageClass c, .id pointee] => pointerType id c pointee
  | 14, .id result :: parameters =>
    modify fun s => { s with
      functionTypes := (id, ⟨result, parameters.filterMap (·.ref?)⟩) :: s.functionTypes }
  | _, _ => throw (.instruction inst.opcode)

end LiftM

end ShaderKit.Spirv
