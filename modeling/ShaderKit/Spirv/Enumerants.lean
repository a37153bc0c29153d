import ShaderKit.Spirv.Grammar.Kind

/-!
# Enumerants by name

The values of enumerations that this library treats in a way of their own.
-/

namespace ShaderKit.Spirv

namespace Capability

/-- The capability of shaders. -/
def shader : Word := 1

end Capability

namespace AddressingModel

/-- The addressing model without physical pointers. -/
def logical : Word := 0

end AddressingModel

namespace ExecutionModel

/-- The vertex stage. -/
def vertex : Word := 0

/-- The fragment stage. -/
def fragment : Word := 4

/-- The compute stage. -/
def glCompute : Word := 5

/-- The models with no supported stage, by name. -/
def otherNames : List (Nat × String) :=
  [(1, "TessellationControl"), (2, "TessellationEvaluation"), (3, "Geometry"), (6, "Kernel"),
   (5267, "TaskNV"), (5268, "MeshNV"), (5313, "RayGenerationNV"), (5314, "IntersectionNV"),
   (5315, "AnyHitNV"), (5316, "ClosestHitNV"), (5317, "MissNV"), (5318, "CallableNV"),
   (5364, "TaskEXT"), (5365, "MeshEXT")]

end ExecutionModel

namespace StorageClass

/-- Images and samplers. -/
def uniformConstant : Word := 0

/-- Inputs of a stage. -/
def input : Word := 1

/-- Uniform buffers, and storage buffers of old modules. -/
def uniform : Word := 2

/-- Outputs of a stage. -/
def output : Word := 3

/-- Memory of a workgroup. -/
def workgroup : Word := 4

/-- Memory of an invocation, for all of its functions. -/
def private_ : Word := 6

/-- Memory of a function call. -/
def function : Word := 7

/-- Push constants. -/
def pushConstant : Word := 9

/-- Texels of images. -/
def image : Word := 11

/-- Storage buffers. -/
def storageBuffer : Word := 12

end StorageClass

namespace Dim

/-- Lines. -/
def d1 : Word := 0

/-- Planes. -/
def d2 : Word := 1

/-- Volumes. -/
def d3 : Word := 2

/-- Cubes. -/
def cube : Word := 3

/-- Rectangles, which have no levels. -/
def rect : Word := 4

/-- Buffers of texels. -/
def buffer : Word := 5

/-- Attachments that are read. -/
def subpassData : Word := 6

end Dim

namespace Decoration

/-- The number that a specialization constant is set by. -/
def specId : Word := 1

/-- A struct that is the block of a buffer. -/
def block : Word := 2

/-- A struct that is the block of a storage buffer, in old modules. -/
def bufferBlock : Word := 3

/-- A matrix whose rows lie together. -/
def rowMajor : Word := 4

/-- A matrix whose columns lie together. -/
def colMajor : Word := 5

/-- The bytes between elements of an array. -/
def arrayStride : Word := 6

/-- The bytes between columns, or rows, of a matrix. -/
def matrixStride : Word := 7

/-- A builtin of the stage. -/
def builtIn : Word := 11

/-- Interpolation on the screen, without perspective. -/
def noPerspective : Word := 13

/-- No interpolation. -/
def flat : Word := 14

/-- Interpolation inside the primitive. -/
def centroid : Word := 16

/-- Interpolation at each sample. -/
def sample : Word := 17

/-- The same value in all programs that compute it alike. -/
def invariant : Word := 18

/-- Nothing is written here. -/
def nonWritable : Word := 24

/-- Nothing is read here. -/
def nonReadable : Word := 25

/-- The location of an input or output. -/
def location : Word := 30

/-- The binding number of a resource. -/
def binding : Word := 33

/-- The group of a resource. -/
def descriptorSet : Word := 34

/-- The byte offset of a member. -/
def offset : Word := 35

/-- The color source that an output is for. -/
def index : Word := 32

end Decoration

end ShaderKit.Spirv
