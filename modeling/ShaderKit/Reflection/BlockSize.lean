import ShaderKit.Reflection.Definitions

/-!
# Declared size of a buffer block

The size that the layout decorations of a block add up to.  A struct ends where its last member ends, a
runtime array counts as one element, and a matrix takes its stride times its number of major vectors.  All
products and sums have to fit in 64 bits.
-/

namespace ShaderKit.Spirv.Definitions

variable (defs : Definitions)

/-- The value of a constant that is an array length. -/
def lengthOf (id : Id) : Except ReflectionError Word := do
  let inst ← defs.get id
  match inst.opcode == Op.constant, inst.operands with
  | true, .word value :: _ => return value
  | _, _ => throw (.arrayLength id)

/-- Size of a matrix that is a struct member. -/
def matrixSize (struct : Id) (member : Nat) (matrix : Id) (name : String) :
    Except ReflectionError UInt64 := do
  let some stride := defs.memberLiteral? struct (UInt32.ofNat member) Decoration.matrixStride
    | throw (.block name (.matrixStride member struct))
  let (column, columns) ← match (← defs.get matrix).operands with
    | [.id column, .word count] => pure (column, count)
    | _ => throw (.matrixForm matrix)
  let vectors ←
    if defs.memberHas struct (UInt32.ofNat member) Decoration.rowMajor then
      match (← defs.get column).operands with
      | [_, .word rows] => pure rows
      | _ => throw (.columnForm column)
    else pure columns
  byteSize (stride.toNat * vectors.toNat)

/-! The size of a type by its definition.  Errors name the buffer, and `measure` gives the sizes of the types
that the definition names. -/

section Definition

variable (name : String) (type : Id) (measure : Id → Except ReflectionError UInt64)

/-- A number takes the whole bytes of its width. -/
def numberSize : List Operand → Except ReflectionError UInt64
  | .word width :: _ => .ok (width / 8).toUInt64
  | _ => .error (.block name (.notSized type))

/-- A vector takes the size of its component for each of them. -/
def vectorSize : List Operand → Except ReflectionError UInt64
  | [.id component, .word count] => do
    let size ← measure component
    byteSize (count.toNat * size.toNat)
  | _ => .error (.block name (.notSized type))

/-- An array takes its stride for each element. -/
def arraySize : List Operand → Except ReflectionError UInt64
  | [.id _, .id length] => do
    let some stride := defs.literal? type Decoration.arrayStride
      | throw (.block name (.arrayStride type))
    let count ← defs.lengthOf length
    byteSize (count.toNat * stride.toNat)
  | _ => .error (.block name (.notSized type))

/-- An array without a length takes its stride once. -/
def runtimeArraySize : Except ReflectionError UInt64 :=
  match defs.literal? type Decoration.arrayStride with
  | some stride => .ok stride.toUInt64
  | none => .error (.block name (.runtimeArrayStride type))

/-- A struct ends where its last member ends. -/
def structSize (members : List Operand) : Except ReflectionError UInt64 :=
  match members.getLast? with
  | none => .ok 0
  | some (.id member) => do
    let last := members.length - 1
    let some offset := defs.memberLiteral? type (UInt32.ofNat last) Decoration.offset
      | throw (.block name (.memberOffset last type))
    let inst ← defs.get member
    let size ←
      if inst.opcode = Op.typeMatrix then defs.matrixSize type last member name else measure member
    byteSize (offset.toNat + size.toNat)
  | some _ => .error (.block name (.malformedMember type))

/-- The size of a type that `inst` defines. -/
def definedSize (inst : Instruction) : Except ReflectionError UInt64 :=
  if inst.opcode = Op.typeInt ∨ inst.opcode = Op.typeFloat then numberSize name type inst.operands
  else if inst.opcode = Op.typeVector then vectorSize name type measure inst.operands
  else if inst.opcode = Op.typeArray then defs.arraySize name type inst.operands
  else if inst.opcode = Op.typeRuntimeArray then defs.runtimeArraySize name type
  else if inst.opcode = Op.typeStruct then defs.structSize name type measure inst.operands
  else if inst.opcode = Op.typeMatrix then .error (.block name (.matrixOutsideStruct type))
  else .error (.block name (.notSized type))

/-! Each opcode has a rule of its own. -/

variable {name type measure} {defs} {inst : Instruction}

theorem definedSize_number (h : inst.opcode = Op.typeInt ∨ inst.opcode = Op.typeFloat) :
    defs.definedSize name type measure inst = numberSize name type inst.operands := if_pos h

theorem definedSize_vector (h : inst.opcode = Op.typeVector) :
    defs.definedSize name type measure inst = vectorSize name type measure inst.operands := by
  simp [definedSize, h, Op.typeInt, Op.typeFloat, Op.typeVector]

theorem definedSize_array (h : inst.opcode = Op.typeArray) :
    defs.definedSize name type measure inst = defs.arraySize name type inst.operands := by
  simp [definedSize, h, Op.typeInt, Op.typeFloat, Op.typeVector, Op.typeArray]

theorem definedSize_runtimeArray (h : inst.opcode = Op.typeRuntimeArray) :
    defs.definedSize name type measure inst = defs.runtimeArraySize name type := by
  simp [definedSize, h, Op.typeInt, Op.typeFloat, Op.typeVector, Op.typeArray, Op.typeRuntimeArray]

theorem definedSize_struct (h : inst.opcode = Op.typeStruct) :
    defs.definedSize name type measure inst = defs.structSize name type measure inst.operands := by
  simp [definedSize, h, Op.typeInt, Op.typeFloat, Op.typeVector, Op.typeArray, Op.typeRuntimeArray,
    Op.typeStruct]

end Definition

/-- The size of a type; `fuel` bounds the walk into components and last members. -/
def sizeFrom (name : String) : Nat → Id → Except ReflectionError UInt64
  | 0, type => .error (.cyclicType type)
  | fuel + 1, type => do defs.definedSize name type (sizeFrom name fuel) (← defs.get type)

/-- The declared size of the block type of the buffer `name`. -/
def blockSize (type : Id) (name : String) : Except ReflectionError UInt64 :=
  defs.sizeFrom name defs.walkFuel type

end ShaderKit.Spirv.Definitions
