/-!
# Texture dimensions

How a shader views a texture (`ViewDimension`) and how the texture behind the view is stored
(`StorageDimension`).
-/

namespace ShaderKit.Texture

/-- Dimensionality of a texture view as a shader binding sees it. -/
inductive ViewDimension
  | d1 | d2 | d2Array | cube | cubeArray | d3
  deriving DecidableEq

/-- Dimensionality of the storage behind a view. -/
inductive StorageDimension
  | d1 | d2 | d3
  deriving DecidableEq

namespace ViewDimension

/-- All view dimensions. -/
def all : List ViewDimension := [d1, d2, d2Array, cube, cubeArray, d3]

/-- The name of a view dimension in layouts and metadata. -/
def name : ViewDimension → String
  | d1 => "1d"
  | d2 => "2d"
  | d2Array => "2d-array"
  | cube => "cube"
  | cubeArray => "cube-array"
  | d3 => "3d"

/-- The view dimension of that name. -/
def ofName? (text : String) : Option ViewDimension :=
  all.find? (·.name == text)

/-- Array and cube views look at a layered 2D texture. -/
def storage : ViewDimension → StorageDimension
  | d1 => .d1
  | d2 | d2Array | cube | cubeArray => .d2
  | d3 => .d3

end ViewDimension

end ShaderKit.Texture
