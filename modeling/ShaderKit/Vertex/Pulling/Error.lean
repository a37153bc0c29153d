import ShaderKit.Ir.Describe
import ShaderKit.Limits
import ShaderKit.Vertex.State

/-!
# Failures of vertex pulling
-/

namespace ShaderKit.Vertex

open Ir (BuiltIn Shape)

/-- Why an entry point cannot fetch its inputs from buffers. -/
inductive PullingError
  | entryPointMissing (name : String)
  | notVertexStage (name : String)
  | groupOverLimit (group : Nat)
  | groupTaken (group : Nat) (global : Option String)
  | tooManyBuffers (count : Nat)
  | strideAlignment (buffer : Nat) (stride : UInt64)
  | strideSize (buffer : Nat)
  | offsetAlignment (location : UInt32) (offset : UInt64)
  | offsetSize (location : UInt32)
  | locationOverLimit (location : UInt32)
  | locationRepeated (location : UInt32)
  | builtIn (builtIn : BuiltIn)
  | unboundInput
  | inputShape (location : Nat) (shape : Shape)
  | attributeMissing (location : Nat)
  | formatMismatch (location : Nat) (format : Format)
  /-- A word of the attribute that has no number of 32 bits in its element; pulling gives up. -/
  | wordOverflow (location : Nat)
  deriving DecidableEq

/-- The text of a failure. -/
def PullingError.message : PullingError → String
  | entryPointMissing name => s!"entry point `{name}` not found"
  | notVertexStage name => s!"entry point `{name}` is not a vertex shader"
  | groupOverLimit group =>
    s!"pulling group {group} is over the limit of {Limits.bindGroups} bind groups"
  | groupTaken group global =>
    let name := global.getD "<unnamed>"
    s!"pulling group {group} is already used by `{name}`"
  | tooManyBuffers count =>
    s!"{count} vertex buffers is over the limit of {Limits.vertexBuffers}"
  | strideAlignment buffer stride =>
    s!"vertex buffer {buffer} stride {stride} is not a multiple of 4"
  | strideSize buffer => s!"vertex buffer {buffer} stride is too large"
  | offsetAlignment location offset =>
    s!"vertex attribute at location {location} has offset {offset} which is not a multiple of 4"
  | offsetSize location => s!"vertex attribute at location {location} offset is too large"
  | locationOverLimit location =>
    s!"vertex attribute location {location} is over the limit of {Limits.vertexAttributes}"
  | locationRepeated location =>
    s!"vertex attribute location {location} is declared more than once"
  | builtIn b => s!"unsupported vertex input builtin {b.describe}"
  | unboundInput => "vertex input without a binding"
  | inputShape location shape =>
    s!"shader input at location {location} has unsupported type {shape.describe}"
  | attributeMissing location => s!"shader input at location {location} has no vertex attribute"
  | formatMismatch location format =>
    let name := format.name
    s!"vertex attribute at location {location} has format {name}, which does not match the shader input"
  | wordOverflow location =>
    s!"vertex attribute at location {location} has a word without a number of 32 bits"

end ShaderKit.Vertex
