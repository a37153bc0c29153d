import ShaderKit.EntryPoint.Metadata
import ShaderKit.Binding.Layout

/-!
# Compatibility of an entry point with layouts

Every binding that the shader declares must meet a layout entry that fits it.  The first violation
in the order of groups, then binding numbers, then checks is the one reported.
-/

namespace ShaderKit

/-- Why a declaration and a layout do not fit.  The declaration is named by group and binding. -/
inductive CompatibilityError
  | missingEntry (group binding : Nat)
  | kindConflict (group binding : Nat)
  | notVisible (group binding : Nat)
  | componentMismatch (group binding : Nat)
  | viewMismatch (group binding : Nat)
  | formatMismatch (group binding : Nat)
  | sizeTooSmall (group binding : Nat) (layoutSize shaderSize : UInt64)
  | missingGroup (group : Nat)
  deriving DecidableEq

namespace CompatibilityError

/-- How messages name a declaration. -/
private def declaration (group binding : Nat) : String :=
  s!"the shader module declaration at set {group} binding {binding}"

/-- The text of a failure. -/
def message : CompatibilityError → String
  | missingEntry g b => s!"Missing bind group layout entry for {declaration g b}"
  | kindConflict g b =>
    s!"The binding type of the bind group layout entry conflicts with {declaration g b}"
  | notVisible g b =>
    s!"The bind group layout entry for {declaration g b} is not visible for the shader stage"
  | componentMismatch g b =>
    "The textureComponentType of the bind group layout entry is different from " ++ declaration g b
  | viewMismatch g b =>
    s!"The viewDimension of the bind group layout entry is different from {declaration g b}"
  | formatMismatch g b =>
    "The storageTextureFormat of the bind group layout entry is different from " ++ declaration g b
  | sizeTooSmall g b layoutSize shaderSize =>
    s!"The minimum buffer size of the bind group layout entry is smaller than {declaration g b}"
      ++ s!" ({layoutSize} < {shaderSize})"
  | missingGroup g =>
    s!"No bind group layout entry matches the declaration set {g} in the shader module"

/-- The kind of error, in one word. -/
def kind : CompatibilityError → String
  | missingEntry .. => "MissingLayoutEntry"
  | kindConflict .. => "BindingTypeConflict"
  | notVisible .. => "NotVisible"
  | componentMismatch .. => "TextureComponentTypeMismatch"
  | viewMismatch .. => "ViewDimensionMismatch"
  | formatMismatch .. => "StorageTextureFormatMismatch"
  | sizeTooSmall .. => "MinBufferSizeTooSmall"
  | missingGroup _ => "MissingBindGroupLayout"

end CompatibilityError

/-- Whether a layout entry of this kind may stand for a declaration of kind `shader`.  A writable
storage buffer serves a read-only declaration, and the two sampler kinds serve each other because
reflection cannot tell them apart. -/
def BindingKind.serves (layout shader : BindingKind) : Bool :=
  layout == shader ||
    match layout, shader with
    | .storageBuffer, .readonlyStorageBuffer => true
    | .sampler, .comparisonSampler => true
    | .comparisonSampler, .sampler => true
    | _, _ => false

namespace LayoutEntry

/-- The first check that the entry fails for a declaration, as an error maker. -/
def mismatch? (entry : LayoutEntry) (stage : Stage) (shader : ShaderBinding) :
    Option (Nat → Nat → CompatibilityError) :=
  if !entry.kind.serves shader.kind then some .kindConflict
  else if !entry.visibility.contains stage.bit then some .notVisible
  else if entry.kind == .sampledTexture then
    if entry.component != shader.component then some .componentMismatch
    else if some entry.view != shader.view then some .viewMismatch
    else none
  else if entry.kind.isStorageTexture then
    if entry.format != shader.format then some .formatMismatch
    else if some entry.view != shader.view then some .viewMismatch
    else none
  else if entry.kind.isBuffer then
    if entry.minSize != 0 && entry.minSize < shader.minSize then
      some fun g b => .sizeTooSmall g b entry.minSize shader.minSize
    else none
  else none

end LayoutEntry

namespace EntryPointMetadata

/-- Checks one declaration against a group layout. -/
def checkBinding (m : EntryPointMetadata) (layout : GroupLayout) (group binding : Nat)
    (shader : ShaderBinding) : Except CompatibilityError Unit :=
  match layout.entry? binding with
  | none => .error (.missingEntry group binding)
  | some entry =>
    match entry.mismatch? m.stage shader with
    | some e => .error (e group binding)
    | none => .ok ()

/-- Checks every declaration of `group` against `layout`. -/
def checkGroup (m : EntryPointMetadata) (group : Nat) (layout : GroupLayout) :
    Except CompatibilityError Unit :=
  (m.group group).entries.forM fun (binding, shader) => m.checkBinding layout group binding shader

/-- Checks one group of a pipeline layout; an absent group fits a shader that declares nothing
there. -/
def checkPipelineGroup (m : EntryPointMetadata) (layout : PipelineLayout) (group : Nat) :
    Except CompatibilityError Unit :=
  match layout.group? group with
  | some groupLayout => m.checkGroup group groupLayout
  | none => if (m.group group).isEmpty then .ok () else .error (.missingGroup group)

/-- Checks every declaration against the pipeline layout, group by group. -/
def checkPipeline (m : EntryPointMetadata) (layout : PipelineLayout) :
    Except CompatibilityError Unit :=
  (List.range Limits.bindGroups).forM (m.checkPipelineGroup layout)

end EntryPointMetadata

end ShaderKit
