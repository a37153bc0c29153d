import ShaderKit.Vertex.Format

/-!
# Vertex state

The vertex input state of a render pipeline: one layout per vertex buffer slot.
-/

namespace ShaderKit.Vertex

/-- An attribute of the elements of a vertex buffer. -/
structure Attribute where
  format : Format
  /-- Byte offset within one element of the buffer. -/
  offset : UInt64
  location : UInt32
  deriving DecidableEq

/-- How the elements of a vertex buffer lie, and by what they advance. -/
structure BufferLayout where
  /-- Bytes between consecutive elements. -/
  stride : UInt64
  step : StepMode
  attributes : List Attribute
  deriving DecidableEq

/-- Buffer layouts in slot order. -/
abbrev State := List BufferLayout

end ShaderKit.Vertex
