import ShaderKit.Ir.Module
import ShaderKit.Spirv.Enumerants
import ShaderKit.Spirv.Instruction
import ShaderKit.Spirv.Lift.Error

/-!
# Decorations as a record

Everything that names and decorations say about one id or one struct member.  Of several decorations of
a kind the last one counts.
-/

namespace ShaderKit.Spirv

open Ir (BuiltIn Interpolation IoBinding ResourceBinding Sampling StorageAccess)

/-- What the annotations say of an id or of a member. -/
structure Decorations where
  name : Option String := none
  builtIn : Option Word := none
  location : Option Word := none
  descriptorSet : Option Word := none
  binding : Option Word := none
  bufferBlock : Bool := false
  offset : Option Word := none
  arrayStride : Option Word := none
  matrixStride : Option Word := none
  rowMajor : Bool := false
  invariant : Bool := false
  interpolation : Option Interpolation := none
  sampling : Option Sampling := none
  nonReadable : Bool := false
  nonWritable : Bool := false
  specId : Option Word := none
  deriving DecidableEq

/-- The builtins that the typed representation knows, by value. -/
def builtInTable : List (Word × BuiltIn) :=
  [(1, .pointSize), (3, .clipDistance), (4, .cullDistance), (7, .primitiveIndex),
   (16, .pointCoord), (17, .frontFacing), (18, .sampleIndex), (20, .sampleMask),
   (22, .fragDepth), (24, .numWorkGroups), (25, .workGroupSize), (26, .workGroupId),
   (27, .localInvocationId), (28, .globalInvocationId), (29, .localInvocationIndex),
   (36, .subgroupSize), (38, .numSubgroups), (40, .subgroupId), (41, .subgroupInvocationId),
   (42, .vertexIndex), (43, .instanceIndex), (4424, .baseVertex), (4425, .baseInstance),
   (4426, .drawId), (4440, .viewIndex)]

/-- A builtin by value; both the position of a vertex and that of a fragment are positions. -/
def liftBuiltIn (value : Word) (invariant : Bool) : Except LiftError BuiltIn :=
  if value = 0 ∨ value = 15 then .ok (.position invariant)
  else match builtInTable.lookup value with
    | some b => .ok b
    | none => .error (.builtIn value)

namespace Decorations

/-- A stride of zero is none. -/
def nonZero (w : Word) : Option Word := if w = 0 then none else some w

/-- Takes a decoration with its operands into account. -/
def apply (d : Decorations) (decoration : Word) (operands : List Operand) : Decorations :=
  let value : Option Word := match operands with
    | .word w :: _ => some w
    | .value _ w :: _ => some w
    | _ => none
  if decoration = Decoration.builtIn then { d with builtIn := value }
  else if decoration = Decoration.location then { d with location := value }
  else if decoration = Decoration.descriptorSet then { d with descriptorSet := value }
  else if decoration = Decoration.binding then { d with binding := value }
  else if decoration = Decoration.bufferBlock then { d with bufferBlock := true }
  else if decoration = Decoration.offset then { d with offset := value }
  else if decoration = Decoration.arrayStride then { d with arrayStride := value.bind nonZero }
  else if decoration = Decoration.matrixStride then { d with matrixStride := value.bind nonZero }
  else if decoration = Decoration.invariant then { d with invariant := true }
  else if decoration = Decoration.noPerspective then { d with interpolation := some .linear }
  else if decoration = Decoration.flat then { d with interpolation := some .flat }
  else if decoration = Decoration.centroid then { d with sampling := some .centroid }
  else if decoration = Decoration.sample then { d with sampling := some .sample }
  else if decoration = Decoration.nonReadable then { d with nonReadable := true }
  else if decoration = Decoration.nonWritable then { d with nonWritable := true }
  else if decoration = Decoration.colMajor then { d with rowMajor := false }
  else if decoration = Decoration.rowMajor then { d with rowMajor := true }
  else if decoration = Decoration.specId then { d with specId := value }
  else d

/-- Reading and writing, as far as the decorations allow. -/
def access (d : Decorations) : StorageAccess :=
  { load := !d.nonReadable, store := !d.nonWritable }

/-- The connection to the stage's interface: either a builtin or a location. -/
def ioBinding (d : Decorations) : Except LiftError IoBinding :=
  match d.builtIn, d.location with
  | some b, none => .builtIn <$> liftBuiltIn b d.invariant
  | none, some l => .ok (.location l.toNat false d.interpolation d.sampling)
  | _, _ => .error .ioDecoration

/-- A resource is bound only if both numbers are given. -/
def resourceBinding (d : Decorations) : Option ResourceBinding :=
  match d.descriptorSet, d.binding with
  | some group, some binding => some ⟨group.toNat, binding.toNat⟩
  | _, _ => none

end Decorations

end ShaderKit.Spirv
