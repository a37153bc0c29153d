import ShaderKit.Device.Cache
import ShaderKit.ShaderModule.Basic
import ShaderKit.Validation.Check

/-!
# Devices

A device creates modules and gives out handles of them.  While a valid module has a handle, creating a
module with the same words gives one more handle of it; when its last handle is released, the module
and its cache entry go.
-/

namespace ShaderKit

open Spirv (Word)

/-- Why a descriptor makes no module. -/
inductive CreationError
  | descriptor (error : DescriptorError)
  | validation (failure : Validation.CheckFailure)
  | compilation (error : Wgsl.CompileError)
  deriving DecidableEq

/-- The text of a failure. -/
def CreationError.message : CreationError → String
  | descriptor e => e.message
  | validation e => e.message
  | compilation e => e.message

/-- A module that has handles. -/
structure LiveModule where
  id : ModuleId
  module : ShaderModule
  handles : Nat

/-- A device: the modules that are alive, and the cache that finds them by their code. -/
structure Device where
  config : DeviceConfig
  cache : ModuleCache := {}
  live : List LiveModule := []
  nextId : ModuleId := 0

/-- What a descriptor comes to before the cache is asked. -/
structure Candidate where
  kind : SourceKind
  wgsl : Option String
  words : List Word
  info : CompilationInfo
  deriving DecidableEq

/-- The words of a descriptor.  SPIR-V is checked if the configuration says so; a source is compiled. -/
def Candidate.ofDescriptor (compiler : Wgsl.Compiler) (config : DeviceConfig)
    (d : ModuleDescriptor) : Except CreationError Candidate := do
  match ← d.source.mapError .descriptor with
  | .spirv words =>
    let info ← if config.validate then
        ((Validation.check words).mapError .validation).map .ofReport
      else pure {}
    return ⟨.spirv, none, words, info⟩
  | .wgsl source =>
    let words ← (compiler.compile source config.robust).mapError .compilation
    return ⟨.wgsl, some source, words, {}⟩

/-- The module that a candidate makes. -/
def Candidate.module (c : Candidate) (config : DeviceConfig) (label : Option String) :
    ShaderModule where
  label := label
  state := .valid {
    kind := c.kind
    wgsl := c.wgsl
    words := c.words
    backend := config.backend
    robust := config.robust }
  info := c.info

namespace Device

/-- The live module with a number. -/
def module? (d : Device) (id : ModuleId) : Option ShaderModule :=
  (d.live.find? (·.id == id)).map (·.module)

/-- The words of a live valid module. -/
def wordsOf (d : Device) (id : ModuleId) : Option (List Word) := (d.module? id).bind (·.words?)

/-- Changes the live module with a number. -/
def update (d : Device) (id : ModuleId) (f : LiveModule → LiveModule) : Device :=
  { d with live := d.live.map fun m => if m.id = id then f m else m }

/-- One more handle of a live module. -/
def retain (d : Device) (id : ModuleId) : Device :=
  d.update id fun m => { m with handles := m.handles + 1 }

/-- A new module with one handle. -/
def add (d : Device) (m : ShaderModule) : ModuleId × Device :=
  (d.nextId, { d with
    live := d.live ++ [⟨d.nextId, m, 1⟩]
    nextId := d.nextId + 1 })

/-- The entry of a module that goes. -/
def uncache (d : Device) (m : LiveModule) : ModuleCache :=
  match m.module.state with
  | .valid v => d.cache.remove v.hash m.id
  | .failed _ => d.cache

/-- One handle less.  With its last handle a module goes. -/
def release (d : Device) (id : ModuleId) : Device :=
  match d.live.find? (·.id == id) with
  | none => d
  | some m =>
    if m.handles ≤ 1 then
      { d with
        cache := d.uncache m
        live := d.live.filter (·.id != id) }
    else d.update id fun m => { m with handles := m.handles - 1 }

/-- The module of a candidate: a live one with the same words, or else a new one.  A source is kept by
the module it leads to. -/
def place (d : Device) (label : Option String) (c : Candidate) : ModuleId × Device :=
  let hash := Digest.ofWords c.words
  match d.cache.lookup d.wordsOf hash c.words with
  | (some id, cache) =>
    let d := ({ d with cache } : Device).retain id
    (id, match c.wgsl with
      | some source => d.update id fun m => { m with module := m.module.attach source }
      | none => d)
  | (none, cache) =>
    let (id, d) := ({ d with cache } : Device).add (c.module d.config label)
    (id, { d with cache := d.cache.insert hash id })

/-- A handle of the descriptor's module. -/
def create (compiler : Wgsl.Compiler) (d : Device) (descriptor : ModuleDescriptor) :
    Except CreationError (ModuleId × Device) := do
  let c ← Candidate.ofDescriptor compiler d.config descriptor
  return d.place descriptor.label c

/-- A handle of a module that stands for a failed creation.  It is never in the cache. -/
def createFailed (d : Device) (label : Option String) (reason : String) : ModuleId × Device :=
  d.add (.ofReason label reason)

/-- A handle of the descriptor's module, or of one that says why there is none. -/
def createOrFailed (compiler : Wgsl.Compiler) (d : Device) (descriptor : ModuleDescriptor) :
    ModuleId × Device :=
  match d.create compiler descriptor with
  | .ok created => created
  | .error e => d.createFailed descriptor.label e.message

end Device

end ShaderKit
