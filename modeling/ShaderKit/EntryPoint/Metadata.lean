import ShaderKit.Limits
import ShaderKit.Texture.Dimension
import ShaderKit.Texture.Format
import ShaderKit.Binding.Kind
import ShaderKit.Binding.Stage
import ShaderKit.Binding.Mask
import ShaderKit.Binding.NumberMap

/-!
# Entry point metadata

Everything that reflection learns about the entry point of a module.
-/

namespace ShaderKit

/-- What a shader requires of one binding slot. -/
structure ShaderBinding where
  kind : BindingKind
  /-- For buffers: size of the declared block, a trailing runtime array counted as one element. -/
  minSize : UInt64 := 0
  view : Option Texture.ViewDimension := none
  component : Texture.ComponentType := .other
  format : Option Texture.Format := none
  multisampled : Bool := false
  deriving DecidableEq

/-- The bindings of one group, by binding number. -/
abbrev GroupBindings := NumberMap ShaderBinding

/-- What a pipeline has to know of an entry point. -/
structure EntryPointMetadata where
  stage : Stage
  /-- The declared bindings of each group. -/
  bindings : Vector GroupBindings Limits.bindGroups := .replicate _ .empty
  attributes : AttributeMask := .empty
  /-- The base type written to each color target. -/
  outputs : Vector Texture.ComponentType Limits.colorAttachments := .replicate _ .other
  deriving DecidableEq

namespace EntryPointMetadata

/-- The bindings of `group`; none for a group over the limit. -/
def group (m : EntryPointMetadata) (group : Nat) : GroupBindings :=
  m.bindings[group]?.getD .empty

/-- The groups in which the shader declares a binding. -/
def usedGroups (m : EntryPointMetadata) : GroupMask := .ofPred fun g => !(m.group g).isEmpty

end EntryPointMetadata

end ShaderKit
