import ShaderKit.Resource.Inventory
import ShaderKit.EntryPoint.Metadata

/-!
# From an inventory to entry point metadata

The rules that an inventory has to meet are the same however it was found.  They are applied in the
order stage, unsupported features, resources by class, stage interface, and the first one broken is
reported.
-/

namespace ShaderKit

/-- What a module's resources and interface can be refused for. -/
inductive ExtractionError
  | executionModel (name : String)
  | pushConstants
  | combinedSampler
  | missingBinding (name : String)
  | missingSet (name : String)
  | groupOverLimit (group : Nat)
  | bindingOverLimit (group binding : Nat)
  | duplicateBinding (group binding : Nat)
  | kindMismatch (name : String) (cls : BindingKind)
  | imageFormat
  | storageFormat (format : Texture.Format)
  | componentType (name : String)
  | vertexInputLocation
  | vertexAttributeOverLimit (location : Nat)
  | vertexOutputLocation
  | fragmentInputLocation
  | fragmentOutputLocation
  | fragmentOutputOverLimit (location : Nat)
  | fragmentOutputType
  deriving DecidableEq

namespace ExtractionError

/-- The text of a failure. -/
def message : ExtractionError → String
  | executionModel name => s!"Unexpected shader execution model: {name}"
  | pushConstants => "Push constants aren't supported."
  | combinedSampler => "Combined images and samplers aren't supported."
  | missingBinding name => s!"No Binding decoration set for resource `{name}`"
  | missingSet name => s!"No Descriptor Decoration set for resource `{name}`"
  | groupOverLimit group => s!"Bind group index {group} over limits in the SPIRV"
  | bindingOverLimit group binding =>
    s!"Binding number {binding} over limits in the SPIRV (set {group})"
  | duplicateBinding group binding =>
    s!"Shader has duplicate bindings (set {group} binding {binding})"
  | kindMismatch name cls =>
    s!"Unsupported resource `{name}`: resource kind does not match its {cls.name} class"
  | imageFormat => "Invalid image format declaration on storage image"
  | storageFormat format => s!"The storage texture format {format.name} is not supported"
  | componentType name => s!"Unexpected texture component base type on `{name}`"
  | vertexInputLocation => "Need location qualifier on vertex input"
  | vertexAttributeOverLimit location =>
    s!"Attribute location ({location}) over limits in the SPIRV"
  | vertexOutputLocation => "Need location qualifier on vertex output"
  | fragmentInputLocation => "Need location qualifier on fragment input"
  | fragmentOutputLocation => "Need location qualifier on fragment output"
  | fragmentOutputOverLimit location =>
    s!"Fragment output location ({location}) over limits in the SPIRV"
  | fragmentOutputType => "Unexpected Fragment output type"

/-- The kind of error, in one word. -/
def kind : ExtractionError → String
  | executionModel _ => "UnsupportedExecutionModel"
  | pushConstants => "PushConstants"
  | combinedSampler => "CombinedImageSampler"
  | missingBinding _ => "MissingBindingDecoration"
  | missingSet _ => "MissingDescriptorSetDecoration"
  | groupOverLimit _ => "BindGroupOverLimit"
  | bindingOverLimit .. => "BindingOverLimit"
  | duplicateBinding .. => "DuplicateBinding"
  | kindMismatch .. => "UnsupportedResource"
  | imageFormat => "InvalidImageFormat"
  | storageFormat _ => "UnsupportedStorageFormat"
  | componentType _ => "UnexpectedComponentType"
  | vertexInputLocation => "MissingVertexInputLocation"
  | vertexAttributeOverLimit _ => "VertexAttributeOverLimit"
  | vertexOutputLocation => "MissingVertexOutputLocation"
  | fragmentInputLocation => "MissingFragmentInputLocation"
  | fragmentOutputLocation => "MissingFragmentOutputLocation"
  | fragmentOutputOverLimit _ => "FragmentOutputOverLimit"
  | fragmentOutputType => "UnexpectedFragmentOutputType"

end ExtractionError

namespace Resource

namespace Declaration

/-- What the shader requires of the slot of a declaration that stands in class `cls`. -/
def requirement (d : Declaration) (cls : BindingKind) : Except ExtractionError ShaderBinding :=
  match cls, d.kind with
  | .uniformBuffer, .buffer size _ =>
    .ok { kind := .uniformBuffer, minSize := size }
  | .storageBuffer, .buffer size nonWritable =>
    .ok { kind := if nonWritable then .readonlyStorageBuffer else .storageBuffer, minSize := size }
  | .sampledTexture, .sampledImage dim arrayed multisampled component =>
    if component = .other then .error (.componentType d.name)
    else .ok { kind := .sampledTexture, view := some (dim.view arrayed), component, multisampled }
  | .sampler, .sampler => .ok { kind := .sampler }
  | .storageTexture, .storageImage dim arrayed multisampled format nonReadable nonWritable =>
    match format with
    | none => .error .imageFormat
    | some format =>
      if format.storage then
        .ok { kind := if nonReadable then .writeonlyStorageTexture
                else if nonWritable then .readonlyStorageTexture else .storageTexture
              view := some (dim.view arrayed), format := some format, multisampled }
      else .error (.storageFormat format)
  | cls, _ => .error (.kindMismatch d.name cls)

/-- Adds a declaration of class `cls` to the metadata. -/
def addTo (d : Declaration) (cls : BindingKind) (m : EntryPointMetadata) :
    Except ExtractionError EntryPointMetadata :=
  match d.binding, d.set with
  | none, _ => .error (.missingBinding d.name)
  | some _, none => .error (.missingSet d.name)
  | some binding, some group =>
    if h : group < Limits.bindGroups then
      if binding > Limits.bindingNumber then .error (.bindingOverLimit group binding)
      else if m.bindings[group].contains binding then .error (.duplicateBinding group binding)
      else do
        let required ← d.requirement cls
        return { m with
          bindings := m.bindings.set group (m.bindings[group].insert binding required) }
    else .error (.groupOverLimit group)

end Declaration

namespace Varying

/-- Locations with component types, in ascending order of location; none if a location is
missing. -/
def located? (vs : List Varying) : Option (List (Nat × Texture.ComponentType)) := do
  let pairs ← vs.mapM fun v => do return (← v.location, v.component)
  return pairs.mergeSort (fun a b => a.1 ≤ b.1)

end Varying

namespace Inventory

/-- The stage of the execution model. -/
def stage (r : Inventory) : Except ExtractionError Stage :=
  match r.model with
  | .vertex => .ok .vertex
  | .fragment => .ok .fragment
  | .compute => .ok .compute
  | .other name => .error (.executionModel name)

/-- The declarations with the class each stands in, in the order the classes are taken. -/
def classified (r : Inventory) : List (BindingKind × Declaration) :=
  r.uniformBuffers.map (.uniformBuffer, ·) ++ r.images.map (.sampledTexture, ·)
    ++ r.samplers.map (.sampler, ·) ++ r.storageBuffers.map (.storageBuffer, ·)
    ++ r.storageImages.map (.storageTexture, ·)

/-- Records one attribute of a vertex shader. -/
def addVertexAttribute (mask : AttributeMask) :
    Nat × Texture.ComponentType → Except ExtractionError AttributeMask
  | (location, _) =>
    match mask.insert? location with
    | some mask => .ok mask
    | none => .error (.vertexAttributeOverLimit location)

/-- Records the attributes of a vertex shader.  Its outputs need locations too. -/
def addVertexInterface (r : Inventory) (m : EntryPointMetadata) :
    Except ExtractionError EntryPointMetadata := do
  let some inputs := Varying.located? r.inputs | throw .vertexInputLocation
  let attributes ← inputs.foldlM addVertexAttribute m.attributes
  if r.outputs.any (·.location.isNone) then throw .vertexOutputLocation
  return { m with attributes }

/-- Records one color output of a fragment shader. -/
def addFragmentOutput (outputs : Vector Texture.ComponentType Limits.colorAttachments) :
    Nat × Texture.ComponentType →
      Except ExtractionError (Vector Texture.ComponentType Limits.colorAttachments)
  | (location, component) =>
    if h : location < Limits.colorAttachments then
      if component = .other then .error .fragmentOutputType
      else .ok (outputs.set location component)
    else .error (.fragmentOutputOverLimit location)

/-- Records the color outputs of a fragment shader.  Its inputs need locations too. -/
def addFragmentInterface (r : Inventory) (m : EntryPointMetadata) :
    Except ExtractionError EntryPointMetadata := do
  if r.inputs.any (·.location.isNone) then throw .fragmentInputLocation
  let some located := Varying.located? r.outputs | throw .fragmentOutputLocation
  let outputs ← located.foldlM addFragmentOutput m.outputs
  return { m with outputs }

/-- Adds what the stage needs of the inputs and outputs. -/
def addInterface (r : Inventory) (stage : Stage) (m : EntryPointMetadata) :
    Except ExtractionError EntryPointMetadata :=
  match stage with
  | .vertex => r.addVertexInterface m
  | .fragment => r.addFragmentInterface m
  | .compute => .ok m

/-- Applies the rules. -/
def extract (r : Inventory) : Except ExtractionError EntryPointMetadata := do
  let stage ← r.stage
  if r.pushConstants > 0 then throw .pushConstants
  if r.combinedSamplers > 0 then throw .combinedSampler
  let m ← r.classified.foldlM (fun m (cls, d) => d.addTo cls m) { stage }
  r.addInterface stage m

end Inventory

end Resource

end ShaderKit
