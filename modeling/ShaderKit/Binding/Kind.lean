/-!
# Kinds of binding
-/

namespace ShaderKit

/-- What stands behind a binding.  `storageTexture` is the read-write one. -/
inductive BindingKind
  | uniformBuffer | storageBuffer | readonlyStorageBuffer
  | sampler | comparisonSampler
  | sampledTexture
  | storageTexture | readonlyStorageTexture | writeonlyStorageTexture
  deriving DecidableEq

namespace BindingKind

/-- All kinds. -/
def all : List BindingKind :=
  [uniformBuffer, storageBuffer, readonlyStorageBuffer, sampler, comparisonSampler, sampledTexture,
   storageTexture, readonlyStorageTexture, writeonlyStorageTexture]

/-- The name of a kind in layouts and metadata. -/
def name : BindingKind → String
  | uniformBuffer => "uniform-buffer"
  | storageBuffer => "storage-buffer"
  | readonlyStorageBuffer => "readonly-storage-buffer"
  | sampler => "sampler"
  | comparisonSampler => "comparison-sampler"
  | sampledTexture => "sampled-texture"
  | storageTexture => "storage-texture"
  | readonlyStorageTexture => "readonly-storage-texture"
  | writeonlyStorageTexture => "writeonly-storage-texture"

/-- The kind of that name. -/
def ofName? (text : String) : Option BindingKind :=
  all.find? (·.name == text)

/-- Buffers have a size, and may have a dynamic offset. -/
def isBuffer : BindingKind → Bool
  | uniformBuffer | storageBuffer | readonlyStorageBuffer => true
  | _ => false

/-- Storage textures have a format. -/
def isStorageTexture : BindingKind → Bool
  | storageTexture | readonlyStorageTexture | writeonlyStorageTexture => true
  | _ => false

end BindingKind

end ShaderKit
