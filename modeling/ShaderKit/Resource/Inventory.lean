import ShaderKit.Texture.Dimension
import ShaderKit.Texture.Format

/-!
# Resource inventories

What reflection finds in a module before any rule is applied: the resources by class, and the stage
interface of the first entry point.
-/

namespace ShaderKit

/-- Execution model of an entry point, before it is checked against the supported stages. -/
inductive ExecutionModel
  | vertex | fragment | compute
  | other (name : String)
  deriving DecidableEq

/-- Dimensionality declared on an image type. -/
inductive ImageDim
  | d1 | d2 | d3 | cube
  deriving DecidableEq

/-- The name of a dimension in inventories. -/
def ImageDim.name : ImageDim → String
  | d1 => "1d"
  | d2 => "2d"
  | d3 => "3d"
  | cube => "cube"

/-- The dimension of that name. -/
def ImageDim.ofName? (text : String) : Option ImageDim :=
  [d1, d2, d3, cube].find? (·.name == text)

/-- The view dimension of an image; an array of 1D or 3D images is viewed as its element. -/
def ImageDim.view : ImageDim → Bool → Texture.ViewDimension
  | d1, _ => .d1
  | d2, false => .d2
  | d2, true => .d2Array
  | d3, _ => .d3
  | cube, false => .cube
  | cube, true => .cubeArray

namespace Resource

/-- What stands behind a declaration. -/
inductive Kind
  /-- `size` is the declared block size, a trailing runtime array counted as one element. -/
  | buffer (size : UInt64) (nonWritable : Bool)
  | sampledImage (dim : ImageDim) (arrayed multisampled : Bool) (component : Texture.ComponentType)
  /-- `format` is none where the declared format has no equivalent here. -/
  | storageImage (dim : ImageDim) (arrayed multisampled : Bool) (format : Option Texture.Format)
      (nonReadable nonWritable : Bool)
  | sampler
  deriving DecidableEq

/-- One resource behind a descriptor. -/
structure Declaration where
  name : String
  set : Option Nat
  binding : Option Nat
  kind : Kind
  deriving DecidableEq

/-- One stage input or output that is not a builtin. -/
structure Varying where
  name : String
  location : Option Nat
  component : Texture.ComponentType
  deriving DecidableEq

/-- Everything found in a module, seen from its first entry point. -/
structure Inventory where
  model : ExecutionModel
  pushConstants : Nat := 0
  combinedSamplers : Nat := 0
  uniformBuffers : List Declaration := []
  images : List Declaration := []
  samplers : List Declaration := []
  storageBuffers : List Declaration := []
  storageImages : List Declaration := []
  inputs : List Varying := []
  outputs : List Varying := []
  deriving DecidableEq

end Resource

end ShaderKit
