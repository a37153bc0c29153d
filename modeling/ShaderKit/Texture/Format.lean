import ShaderKit.Texture.Component

/-!
# Texture formats

Every texture format, its name, and one capability record per format (`FormatInfo`).  The name
lists of the compressed families are cut from `Format.all`, so they keep its order.
-/

namespace ShaderKit.Texture

/-- Block-compression family of a compressed format. -/
inductive CompressionFamily
  | bc | etc2 | astc
  deriving DecidableEq

/-- The texture formats. -/
inductive Format
  | r8Unorm | r8Snorm | r8Uint | r8Sint | r16Uint | r16Sint | r16Float | rg8Unorm | rg8Snorm
  | rg8Uint | rg8Sint | r32Float | r32Uint | r32Sint | rg16Uint | rg16Sint | rg16Float
  | rgba8Unorm | rgba8UnormSrgb | rgba8Snorm | rgba8Uint | rgba8Sint | bgra8Unorm | bgra8UnormSrgb
  | rgb10a2Unorm | rg11b10Ufloat | rgb9e5Ufloat | rg32Float | rg32Uint | rg32Sint | rgba16Uint
  | rgba16Sint | rgba16Float | rgba32Float | rgba32Uint | rgba32Sint | depth32Float | depth24Plus
  | depth24PlusStencil8 | bc1RgbaUnorm | bc1RgbaUnormSrgb | bc2RgbaUnorm | bc2RgbaUnormSrgb
  | bc3RgbaUnorm | bc3RgbaUnormSrgb | bc4RUnorm | bc4RSnorm | bc5RgUnorm | bc5RgSnorm
  | bc6hRgbUfloat | bc6hRgbFloat | bc7RgbaUnorm | bc7RgbaUnormSrgb | etc2Rgb8Unorm
  | etc2Rgb8UnormSrgb | etc2Rgb8A1Unorm | etc2Rgb8A1UnormSrgb | etc2Rgba8Unorm
  | etc2Rgba8UnormSrgb | eacR11Unorm | eacR11Snorm | eacRg11Unorm | eacRg11Snorm
  deriving DecidableEq

/-- Capabilities of one format. -/
structure FormatInfo where
  /-- Bytes of one texel block; none where the size depends on the aspect. -/
  blockBytes : Option Nat
  blockWidth : Nat := 1
  blockHeight : Nat := 1
  /-- Whether a storage texture may have this format. -/
  storage : Bool := false
  compression : Option CompressionFamily := none
  component : ComponentType
  renderable : Bool := true
  depthStencil : Bool := false
  deriving DecidableEq

namespace FormatInfo

/-- A color format that can be rendered to. -/
def color (bytes : Nat) (component : ComponentType) : FormatInfo where
  blockBytes := some bytes
  component := component

/-- The format may be that of a storage texture. -/
def asStorage (info : FormatInfo) : FormatInfo := { info with storage := true }

/-- The format cannot be rendered to. -/
def notRenderable (info : FormatInfo) : FormatInfo := { info with renderable := false }

/-- A format of depth, perhaps with stencil. -/
def depth (bytes : Option Nat) : FormatInfo where
  blockBytes := bytes
  component := .float
  depthStencil := true

/-- Compressed formats store blocks of 4 × 4 texels and cannot be rendered to. -/
def compressed (family : CompressionFamily) (bytes : Nat) : FormatInfo where
  blockBytes := some bytes
  blockWidth := 4
  blockHeight := 4
  compression := some family
  component := .float
  renderable := false

/-- The format stores blocks of texels. -/
def isCompressed (info : FormatInfo) : Bool := info.compression.isSome

end FormatInfo

namespace Format

/-- All formats. -/
def all : List Format :=
  [r8Unorm, r8Snorm, r8Uint, r8Sint, r16Uint, r16Sint, r16Float, rg8Unorm, rg8Snorm, rg8Uint,
   rg8Sint, r32Float, r32Uint, r32Sint, rg16Uint, rg16Sint, rg16Float, rgba8Unorm, rgba8UnormSrgb,
   rgba8Snorm, rgba8Uint, rgba8Sint, bgra8Unorm, bgra8UnormSrgb, rgb10a2Unorm, rg11b10Ufloat,
   rgb9e5Ufloat, rg32Float, rg32Uint, rg32Sint, rgba16Uint, rgba16Sint, rgba16Float, rgba32Float,
   rgba32Uint, rgba32Sint, depth32Float, depth24Plus, depth24PlusStencil8, bc1RgbaUnorm,
   bc1RgbaUnormSrgb, bc2RgbaUnorm, bc2RgbaUnormSrgb, bc3RgbaUnorm, bc3RgbaUnormSrgb, bc4RUnorm,
   bc4RSnorm, bc5RgUnorm, bc5RgSnorm, bc6hRgbUfloat, bc6hRgbFloat, bc7RgbaUnorm, bc7RgbaUnormSrgb,
   etc2Rgb8Unorm, etc2Rgb8UnormSrgb, etc2Rgb8A1Unorm, etc2Rgb8A1UnormSrgb, etc2Rgba8Unorm,
   etc2Rgba8UnormSrgb, eacR11Unorm, eacR11Snorm, eacRg11Unorm, eacRg11Snorm]

/-- Lower-case name, as in `rgba8unorm`. -/
def name : Format → String
  | r8Unorm => "r8unorm"
  | r8Snorm => "r8snorm"
  | r8Uint => "r8uint"
  | r8Sint => "r8sint"
  | r16Uint => "r16uint"
  | r16Sint => "r16sint"
  | r16Float => "r16float"
  | rg8Unorm => "rg8unorm"
  | rg8Snorm => "rg8snorm"
  | rg8Uint => "rg8uint"
  | rg8Sint => "rg8sint"
  | r32Float => "r32float"
  | r32Uint => "r32uint"
  | r32Sint => "r32sint"
  | rg16Uint => "rg16uint"
  | rg16Sint => "rg16sint"
  | rg16Float => "rg16float"
  | rgba8Unorm => "rgba8unorm"
  | rgba8UnormSrgb => "rgba8unorm-srgb"
  | rgba8Snorm => "rgba8snorm"
  | rgba8Uint => "rgba8uint"
  | rgba8Sint => "rgba8sint"
  | bgra8Unorm => "bgra8unorm"
  | bgra8UnormSrgb => "bgra8unorm-srgb"
  | rgb10a2Unorm => "rgb10a2unorm"
  | rg11b10Ufloat => "rg11b10ufloat"
  | rgb9e5Ufloat => "rgb9e5ufloat"
  | rg32Float => "rg32float"
  | rg32Uint => "rg32uint"
  | rg32Sint => "rg32sint"
  | rgba16Uint => "rgba16uint"
  | rgba16Sint => "rgba16sint"
  | rgba16Float => "rgba16float"
  | rgba32Float => "rgba32float"
  | rgba32Uint => "rgba32uint"
  | rgba32Sint => "rgba32sint"
  | depth32Float => "depth32float"
  | depth24Plus => "depth24plus"
  | depth24PlusStencil8 => "depth24plus-stencil8"
  | bc1RgbaUnorm => "bc1-rgba-unorm"
  | bc1RgbaUnormSrgb => "bc1-rgba-unorm-srgb"
  | bc2RgbaUnorm => "bc2-rgba-unorm"
  | bc2RgbaUnormSrgb => "bc2-rgba-unorm-srgb"
  | bc3RgbaUnorm => "bc3-rgba-unorm"
  | bc3RgbaUnormSrgb => "bc3-rgba-unorm-srgb"
  | bc4RUnorm => "bc4-r-unorm"
  | bc4RSnorm => "bc4-r-snorm"
  | bc5RgUnorm => "bc5-rg-unorm"
  | bc5RgSnorm => "bc5-rg-snorm"
  | bc6hRgbUfloat => "bc6h-rgb-ufloat"
  | bc6hRgbFloat => "bc6h-rgb-float"
  | bc7RgbaUnorm => "bc7-rgba-unorm"
  | bc7RgbaUnormSrgb => "bc7-rgba-unorm-srgb"
  | etc2Rgb8Unorm => "etc2-rgb8unorm"
  | etc2Rgb8UnormSrgb => "etc2-rgb8unorm-srgb"
  | etc2Rgb8A1Unorm => "etc2-rgb8a1unorm"
  | etc2Rgb8A1UnormSrgb => "etc2-rgb8a1unorm-srgb"
  | etc2Rgba8Unorm => "etc2-rgba8unorm"
  | etc2Rgba8UnormSrgb => "etc2-rgba8unorm-srgb"
  | eacR11Unorm => "eac-r11unorm"
  | eacR11Snorm => "eac-r11snorm"
  | eacRg11Unorm => "eac-rg11unorm"
  | eacRg11Snorm => "eac-rg11snorm"

/-- The format of that name. -/
def ofName? (text : String) : Option Format :=
  all.find? (·.name == text)

open FormatInfo ComponentType CompressionFamily in
/-- The capability table. -/
def info : Format → FormatInfo
  | r8Unorm => color 1 float
  | r8Snorm => (color 1 float).notRenderable
  | r8Uint => color 1 uint
  | r8Sint => color 1 sint
  | r16Uint => color 2 uint
  | r16Sint => color 2 sint
  | r16Float => color 2 float
  | rg8Unorm => color 2 float
  | rg8Snorm => (color 2 float).notRenderable
  | rg8Uint => color 2 uint
  | rg8Sint => color 2 sint
  | r32Float => (color 4 float).asStorage
  | r32Uint => (color 4 uint).asStorage
  | r32Sint => (color 4 sint).asStorage
  | rg16Uint => color 4 uint
  | rg16Sint => color 4 sint
  | rg16Float => color 4 float
  | rgba8Unorm => (color 4 float).asStorage
  | rgba8UnormSrgb => color 4 float
  | rgba8Snorm => (color 4 float).asStorage.notRenderable
  | rgba8Uint => (color 4 uint).asStorage
  | rgba8Sint => (color 4 sint).asStorage
  | bgra8Unorm => color 4 float
  | bgra8UnormSrgb => color 4 float
  | rgb10a2Unorm => color 4 float
  | rg11b10Ufloat => (color 4 float).notRenderable
  | rgb9e5Ufloat => (color 4 float).notRenderable
  | rg32Float => (color 8 float).asStorage
  | rg32Uint => (color 8 uint).asStorage
  | rg32Sint => (color 8 sint).asStorage
  | rgba16Uint => (color 8 uint).asStorage
  | rgba16Sint => (color 8 sint).asStorage
  | rgba16Float => (color 8 float).asStorage
  | rgba32Float => (color 16 float).asStorage
  | rgba32Uint => (color 16 uint).asStorage
  | rgba32Sint => (color 16 sint).asStorage
  | depth32Float => depth (some 4)
  | depth24Plus => depth (some 4)
  | depth24PlusStencil8 => depth none
  | bc1RgbaUnorm | bc1RgbaUnormSrgb | bc4RUnorm | bc4RSnorm => compressed bc 8
  | bc2RgbaUnorm | bc2RgbaUnormSrgb | bc3RgbaUnorm | bc3RgbaUnormSrgb | bc5RgUnorm | bc5RgSnorm
  | bc6hRgbUfloat | bc6hRgbFloat | bc7RgbaUnorm | bc7RgbaUnormSrgb => compressed bc 16
  | etc2Rgb8Unorm | etc2Rgb8UnormSrgb | etc2Rgb8A1Unorm | etc2Rgb8A1UnormSrgb | eacR11Unorm
  | eacR11Snorm => compressed etc2 8
  | etc2Rgba8Unorm | etc2Rgba8UnormSrgb | eacRg11Unorm | eacRg11Snorm => compressed etc2 16

/-- Storage textures may have the format. -/
def storage (format : Format) : Bool := format.info.storage

/-- Formats of one compression family. -/
def ofFamily (family : CompressionFamily) : List Format :=
  all.filter (·.info.compression == some family)

/-- Formats of every compression family. -/
def compressed : List Format :=
  all.filter (·.info.isCompressed)

/-- The format is compressed in the way of the family. -/
def isOfFamily (format : Format) (family : CompressionFamily) : Bool :=
  format.info.compression == some family

/-- WGSL scalar type that sampling a color texture of this format gives.  Depth formats have none:
they are sampled through the depth texture types. -/
def wgslComponent? (format : Format) : Option String :=
  if format.info.depthStencil then none else format.info.component.wgslScalar?

/-- Qualifier for a WGSL storage texture declaration; only formats usable as storage textures have
one. -/
def wgslQualifier? (format : Format) : Option String :=
  if format.storage then some format.name else none

/-- Color channels that a fragment output to this format writes. -/
def wgslRenderableComponents? (format : Format) : Option Nat :=
  if !format.info.renderable || format.info.depthStencil then none
  else some <|
    match format with
    | r8Unorm | r8Uint | r8Sint | r16Uint | r16Sint | r16Float | r32Float | r32Uint | r32Sint => 1
    | rg8Unorm | rg8Uint | rg8Sint | rg16Uint | rg16Sint | rg16Float | rg32Float | rg32Uint
    | rg32Sint => 2
    | _ => 4

end Format

end ShaderKit.Texture
