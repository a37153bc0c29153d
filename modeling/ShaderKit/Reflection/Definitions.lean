import ShaderKit.Spirv.Module
import ShaderKit.Spirv.Enumerants
import ShaderKit.Reflection.Error

/-!
# What a module says about an id

Definitions, names and decorations of ids, as the declarations give them: of several definitions or
names of one id the last counts, of several equal decorations the first.
-/

namespace ShaderKit.Spirv

/-- A decoration of an id. -/
structure Decorating where
  target : Id
  decoration : Word
  operands : List Operand
  deriving DecidableEq

/-- A decoration of a struct member. -/
structure MemberDecorating where
  target : Id
  member : Word
  decoration : Word
  operands : List Operand
  deriving DecidableEq

/-- The declarations of a module, arranged for look-ups. -/
structure Definitions where
  /-- Global instructions by result id, last one first. -/
  values : List (Id × Instruction)
  decorations : List Decorating
  memberDecorations : List MemberDecorating
  /-- Names by id, last one first. -/
  names : List (Id × String)

namespace Instruction

/-- The decoration that the instruction gives to an id. -/
def decorating? (inst : Instruction) : Option Decorating :=
  if inst.opcode = Op.decorate then
    match inst.operands with
    | .id target :: .value .decoration d :: rest => some ⟨target, d, rest⟩
    | _ => none
  else none

/-- The decoration that the instruction gives to a member of a struct. -/
def memberDecorating? (inst : Instruction) : Option MemberDecorating :=
  if inst.opcode = Op.memberDecorate then
    match inst.operands with
    | .id target :: .word member :: .value .decoration d :: rest =>
      some ⟨target, member, d, rest⟩
    | _ => none
  else none

/-- The name that the instruction gives to an id. -/
def naming? (inst : Instruction) : Option (Id × String) :=
  if inst.opcode = Op.name then
    match inst.operands with
    | .id target :: .text name :: _ => some (target, name)
    | _ => none
  else none

end Instruction

namespace Definitions

/-- The definitions of a module.  Of several definitions or names of one id the last one counts. -/
def ofModule (m : Module) : Definitions where
  values := m.globals.reverse.filterMap fun inst => inst.result.map (·, inst)
  decorations := m.annotations.filterMap (·.decorating?)
  memberDecorations := m.annotations.filterMap (·.memberDecorating?)
  names := m.names.reverse.filterMap (·.naming?)

variable (defs : Definitions)

/-- The name of an id. -/
def name (id : Id) : String := (defs.names.lookup id).getD "<unnamed>"

/-- The instruction that defines the id. -/
def find? (id : Id) : Option Instruction := defs.values.lookup id

/-- The instruction that defines the id, which has to be there. -/
def get (id : Id) : Except ReflectionError Instruction :=
  match defs.find? id with
  | some inst => .ok inst
  | none => .error (.undefinedId id)

/-- More than the steps that any walk can take from definition to definition without coming back. -/
def walkFuel : Nat := defs.values.length + 1

/-- The operands of the first such decoration of an id. -/
def decoration? (id : Id) (decoration : Word) : Option (List Operand) :=
  (defs.decorations.find? fun d => d.target == id && d.decoration == decoration).map (·.operands)

/-- The id has the decoration. -/
def hasDecoration (id : Id) (decoration : Word) : Bool := (defs.decoration? id decoration).isSome

/-- The literal of the first such decoration of an id. -/
def literal? (id : Id) (decoration : Word) : Option Word :=
  match defs.decoration? id decoration with
  | some (.word value :: _) => some value
  | _ => none

/-- The decorations of this kind on members of a struct. -/
def ofMembers (struct : Id) (decoration : Word) : List MemberDecorating :=
  defs.memberDecorations.filter fun d => d.target == struct && d.decoration == decoration

/-- The member has the decoration. -/
def memberHas (struct : Id) (member : Word) (decoration : Word) : Bool :=
  (defs.ofMembers struct decoration).any (·.member == member)

/-- The literal of the first such decoration of a member. -/
def memberLiteral? (struct : Id) (member : Word) (decoration : Word) : Option Word :=
  match (defs.ofMembers struct decoration).find? (·.member == member) with
  | some ⟨_, _, _, .word value :: _⟩ => some value
  | _ => none

/-- What a pointer type points to. -/
def pointee (pointer : Id) : Except ReflectionError Id := do
  match (← defs.get pointer).operands with
  | [.value .storageClass _, .id pointee] => return pointee
  | _ => throw (.notPointer pointer)

/-- The element type of an array type. -/
def element? (type : Id) : Option Id :=
  match defs.find? type with
  | some inst =>
    if inst.opcode = Op.typeArray ∨ inst.opcode = Op.typeRuntimeArray then
      inst.operands.head?.bind (·.ref?)
    else none
  | none => none

/-- Steps from arrays to their elements. -/
def stripArraysFrom : Nat → Id → Except ReflectionError Id
  | 0, type => .error (.cyclicType type)
  | fuel + 1, type =>
    match defs.element? type with
    | some element => stripArraysFrom fuel element
    | none => .ok type

/-- The type inside all arrays. -/
def stripArrays (type : Id) : Except ReflectionError Id := defs.stripArraysFrom defs.walkFuel type

/-- Component type of a scalar type. -/
def scalarComponent (type : Id) : Texture.ComponentType :=
  match defs.find? type with
  | none => .other
  | some inst =>
    if inst.opcode = Op.typeFloat then .float
    else if inst.opcode = Op.typeInt then
      match inst.operands with
      | [_, .word sign] => if sign = 1 then .sint else if sign = 0 then .uint else .other
      | _ => .other
    else .other

/-- Component type of the scalars that a type is made of, through arrays, vectors and matrices. -/
def componentFrom : Nat → Id → Except ReflectionError Texture.ComponentType
  | 0, type => .error (.cyclicType type)
  | fuel + 1, type => do
    let type ← defs.stripArrays type
    match defs.find? type with
    | none => return .other
    | some inst =>
      if inst.opcode = Op.typeVector ∨ inst.opcode = Op.typeMatrix then
        match inst.operands with
        | .id component :: _ => componentFrom fuel component
        | _ => return .other
      else if inst.opcode = Op.typeFloat ∨ inst.opcode = Op.typeInt then
        return defs.scalarComponent type
      else return .other

/-- The component type of a type: what its elements, columns and components come down to. -/
def component (type : Id) : Except ReflectionError Texture.ComponentType :=
  defs.componentFrom defs.walkFuel type

/-- Whether an interface variable is a builtin, by itself or by a member. -/
def isBuiltin (var pointee : Id) : Except ReflectionError Bool := do
  if defs.hasDecoration var Decoration.builtIn then return true
  return !(defs.ofMembers (← defs.stripArrays pointee) Decoration.builtIn).isEmpty

/-- Members of a struct type; 0 for any other. -/
def memberCount (struct : Id) : Nat :=
  match defs.find? struct with
  | some inst => if inst.opcode = Op.typeStruct then inst.operands.length else 0
  | none => 0

/-- Whether a buffer cannot be written, by itself or in every member of its block. -/
def isNonWritable (var block : Id) : Bool :=
  defs.hasDecoration var Decoration.nonWritable ||
    let count := defs.memberCount block
    0 < count && (List.range count).all fun member =>
      defs.memberHas block (UInt32.ofNat member) Decoration.nonWritable

end Definitions

end ShaderKit.Spirv
