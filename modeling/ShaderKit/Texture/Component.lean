/-!
# Component types

The base type of the values that a shader reads from a texture, writes to one, or writes to a color
target.
-/

namespace ShaderKit.Texture

/-- Base type of a component; `other` means that it is unused or none of the three. -/
inductive ComponentType
  | float | sint | uint | other
  deriving DecidableEq, Inhabited

namespace ComponentType

/-- All component types. -/
def all : List ComponentType := [float, sint, uint, other]

/-- The name of a component type in layouts and metadata. -/
def name : ComponentType → String
  | float => "float"
  | sint => "sint"
  | uint => "uint"
  | other => "other"

/-- The component type of that name. -/
def ofName? (text : String) : Option ComponentType :=
  all.find? (·.name == text)

/-- The WGSL scalar type with this base type. -/
def wgslScalar? : ComponentType → Option String
  | float => some "f32"
  | sint => some "i32"
  | uint => some "u32"
  | other => none

end ComponentType

end ShaderKit.Texture
