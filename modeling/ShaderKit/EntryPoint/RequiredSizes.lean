import ShaderKit.EntryPoint.Metadata
import ShaderKit.Binding.Layout

/-!
# Required buffer sizes

The minimum sizes that a shader needs for the buffers whose size no layout pins.
-/

namespace ShaderKit.EntryPointMetadata

/-- The size that the shader requires of the buffer behind an entry; 0 if it does not declare it. -/
def requiredSize (m : EntryPointMetadata) (group : Nat) (e : LayoutEntry) : UInt64 :=
  ((m.group group).find? e.binding).elim 0 (·.minSize)

/-- One size for each buffer of the group layout whose size is not pinned, in packing order.  The buffers
come first, so only as many entries are looked at as there are buffers. -/
def requiredGroupSizes (m : EntryPointMetadata) (group : Nat) (layout : GroupLayout) :
    List UInt64 :=
  (layout.entries.take layout.bufferCount).filterMap fun e =>
    if e.minSize ≠ 0 then none else some (m.requiredSize group e)

/-- The sizes of every group; an absent group has none. -/
def requiredSizes (m : EntryPointMetadata) (layout : PipelineLayout) :
    Vector (List UInt64) Limits.bindGroups :=
  .ofFn fun g => (layout.group? g).elim [] (m.requiredGroupSizes g)

end ShaderKit.EntryPointMetadata
