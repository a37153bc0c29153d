import ShaderKit.Limits
import ShaderKit.Spirv.BrokenRule
import ShaderKit.Spirv.ReadFailure
import ShaderKit.Spirv.Enumerants
import ShaderKit.Resource.Extraction

/-!
# Failures of reflection
-/

namespace ShaderKit

open Spirv (Id Word)

/-- Why the size of a buffer block is not known. -/
inductive BlockFault
  | arrayStride (array : Id)
  | runtimeArrayStride (array : Id)
  | malformedMember (struct : Id)
  | memberOffset (member : Nat) (struct : Id)
  | matrixOutsideStruct (matrix : Id)
  | matrixStride (member : Nat) (struct : Id)
  | notSized (type : Id)
  /-- A type of the typed representation that has no place in a block, as text. -/
  | notSizedType (text : String)
  | arrayLength
  deriving DecidableEq

/-- The text of a fault. -/
def BlockFault.message : BlockFault → String
  | arrayStride array => s!"array %{array} has no ArrayStride decoration"
  | runtimeArrayStride array => s!"runtime array %{array} has no ArrayStride decoration"
  | malformedMember struct => s!"struct %{struct} has a malformed member"
  | memberOffset member struct => s!"member {member} of %{struct} has no Offset decoration"
  | matrixOutsideStruct matrix => s!"matrix %{matrix} outside a struct member has no stride"
  | matrixStride member struct => s!"matrix member {member} of %{struct} has no MatrixStride"
  | notSized type => s!"type %{type} cannot appear in a buffer block"
  | notSizedType text => s!"type {text} cannot appear in a buffer block"
  | arrayLength => "array length is not a constant"

/-- Why a module has no entry point metadata. -/
inductive ReflectionError
  | tooLarge (words : Nat)
  | unreadable (failure : Spirv.ReadFailure)
  | broken (rule : Spirv.BrokenRule)
  | noEntryPoint
  | undefinedId (id : Id)
  | notPointer (type : Id)
  | imageForm (name : String)
  | matrixForm (matrix : Id)
  | columnForm (column : Id)
  | arrayLength (constant : Id)
  /-- A type that is reached again from itself; no walk over it ends. -/
  | cyclicType (type : Id)
  /-- A product or sum of sizes that does not fit in 64 bits; reflection gives up. -/
  | sizeOverflow
  | imageDim (name : String) (dim : Word)
  | block (name : String) (fault : BlockFault)
  | extraction (error : ExtractionError)
  deriving DecidableEq

namespace ReflectionError

/-- What is wrong with an image dimension. -/
def dimReason (dim : Word) : String :=
  if dim = Spirv.Dim.rect then "rectangle images are not supported"
  else if dim = Spirv.Dim.buffer then "texel buffers are not supported"
  else if dim = Spirv.Dim.subpassData then "subpass inputs are not supported"
  else "unsupported image dimension"

/-- The text for a module that cannot be read. -/
private def unparsed (reason : String) : String :=
  s!"failed to parse SPIR-V for reflection: {reason}"

/-- The text of a failure. -/
def message : ReflectionError → String
  | tooLarge words =>
    s!"SPIR-V module of {words} words exceeds the maximum of {Limits.spirvWords} words"
  | unreadable failure => unparsed failure.message
  | broken rule => unparsed rule.message
  | noEntryPoint => "Shader module declares no entry point"
  | undefinedId id => unparsed s!"id %{id} has no definition"
  | notPointer type => unparsed s!"variable type %{type} is not a pointer"
  | imageForm name => unparsed s!"malformed image type for `{name}`"
  | matrixForm matrix => unparsed s!"malformed OpTypeMatrix %{matrix}"
  | columnForm column => unparsed s!"malformed matrix column type %{column}"
  | arrayLength constant => unparsed s!"array length %{constant} is not a 32-bit constant"
  | cyclicType type => unparsed s!"type %{type} contains itself"
  | sizeOverflow => "the size of a buffer block does not fit in 64 bits"
  | imageDim name dim => s!"Unsupported resource `{name}`: {dimReason dim}"
  | block name fault => s!"Invalid layout for buffer block `{name}`: {fault.message}"
  | extraction error => error.message

end ReflectionError

/-- A number of bytes, which has to fit in 64 bits. -/
def byteSize (n : Nat) : Except ReflectionError UInt64 :=
  if n < UInt64.size then .ok (UInt64.ofNat n) else .error .sizeOverflow

theorem byteSize_of_lt {n : Nat} (h : n < UInt64.size) : byteSize n = .ok (UInt64.ofNat n) := if_pos h

theorem byteSize_of_le {n : Nat} (h : UInt64.size ≤ n) : byteSize n = .error .sizeOverflow :=
  if_neg (Nat.not_lt.2 h)

end ShaderKit
