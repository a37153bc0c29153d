/-!
# Vertex formats

How one vertex attribute is laid out in memory, and what the shader receives for it.
-/

namespace ShaderKit.Vertex

/-- Scalar kind that an attribute presents to the shader.  Normalised and half-precision formats
present floats. -/
inductive ComponentKind
  | float | uint | sint
  deriving DecidableEq

/-- Whether a vertex buffer advances per vertex or per instance. -/
inductive StepMode
  | perVertex | perInstance
  deriving DecidableEq

/-- Memory layout of a single vertex attribute. -/
inductive Format
  | uint8x2 | uint8x4 | sint8x2 | sint8x4 | unorm8x2 | unorm8x4 | snorm8x2 | snorm8x4 | uint16x2
  | uint16x4 | sint16x2 | sint16x4 | unorm16x2 | unorm16x4 | snorm16x2 | snorm16x4 | float16x2
  | float16x4 | float32 | float32x2 | float32x3 | float32x4 | uint32 | uint32x2 | uint32x3
  | uint32x4 | sint32 | sint32x2 | sint32x3 | sint32x4
  deriving DecidableEq

namespace Format

/-- All formats. -/
def all : List Format :=
  [uint8x2, uint8x4, sint8x2, sint8x4, unorm8x2, unorm8x4, snorm8x2, snorm8x4, uint16x2, uint16x4,
   sint16x2, sint16x4, unorm16x2, unorm16x4, snorm16x2, snorm16x4, float16x2, float16x4, float32,
   float32x2, float32x3, float32x4, uint32, uint32x2, uint32x3, uint32x4, sint32, sint32x2,
   sint32x3, sint32x4]

/-- The name of a format. -/
def name : Format → String
  | uint8x2 => "uint8x2"
  | uint8x4 => "uint8x4"
  | sint8x2 => "sint8x2"
  | sint8x4 => "sint8x4"
  | unorm8x2 => "unorm8x2"
  | unorm8x4 => "unorm8x4"
  | snorm8x2 => "snorm8x2"
  | snorm8x4 => "snorm8x4"
  | uint16x2 => "uint16x2"
  | uint16x4 => "uint16x4"
  | sint16x2 => "sint16x2"
  | sint16x4 => "sint16x4"
  | unorm16x2 => "unorm16x2"
  | unorm16x4 => "unorm16x4"
  | snorm16x2 => "snorm16x2"
  | snorm16x4 => "snorm16x4"
  | float16x2 => "float16x2"
  | float16x4 => "float16x4"
  | float32 => "float32"
  | float32x2 => "float32x2"
  | float32x3 => "float32x3"
  | float32x4 => "float32x4"
  | uint32 => "uint32"
  | uint32x2 => "uint32x2"
  | uint32x3 => "uint32x3"
  | uint32x4 => "uint32x4"
  | sint32 => "sint32"
  | sint32x2 => "sint32x2"
  | sint32x3 => "sint32x3"
  | sint32x4 => "sint32x4"

/-- The format of that name. -/
def ofName? (text : String) : Option Format :=
  all.find? (·.name == text)

/-- Components stored per attribute. -/
def components : Format → Nat
  | float32 | uint32 | sint32 => 1
  | uint8x2 | sint8x2 | unorm8x2 | snorm8x2 | uint16x2 | sint16x2 | unorm16x2 | snorm16x2
  | float16x2 | float32x2 | uint32x2 | sint32x2 => 2
  | float32x3 | uint32x3 | sint32x3 => 3
  | uint8x4 | sint8x4 | unorm8x4 | snorm8x4 | uint16x4 | sint16x4 | unorm16x4 | snorm16x4
  | float16x4 | float32x4 | uint32x4 | sint32x4 => 4

/-- Bytes of one stored component. -/
def componentBytes : Format → Nat
  | uint8x2 | uint8x4 | sint8x2 | sint8x4 | unorm8x2 | unorm8x4 | snorm8x2 | snorm8x4 => 1
  | uint16x2 | uint16x4 | sint16x2 | sint16x4 | unorm16x2 | unorm16x4 | snorm16x2 | snorm16x4
  | float16x2 | float16x4 => 2
  | _ => 4

/-- Bytes of the whole attribute. -/
def bytes (format : Format) : Nat := format.components * format.componentBytes

/-- Words that the attribute touches when it starts at a word boundary. -/
def words (format : Format) : Nat := (format.bytes + 3) / 4

/-- What the components of a format are in the shader. -/
def kind : Format → ComponentKind
  | uint8x2 | uint8x4 | uint16x2 | uint16x4 | uint32 | uint32x2 | uint32x3 | uint32x4 => .uint
  | sint8x2 | sint8x4 | sint16x2 | sint16x4 | sint32 | sint32x2 | sint32x3 | sint32x4 => .sint
  | _ => .float

end Format

end ShaderKit.Vertex
