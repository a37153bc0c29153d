import ShaderKit.Digest
import ShaderKit.EntryPoint.Compatibility
import ShaderKit.EntryPoint.RequiredSizes
import ShaderKit.Reflection.Backend
import ShaderKit.ShaderModule.CompilationInfo
import ShaderKit.ShaderModule.Descriptor
import ShaderKit.Text.Quoted
import ShaderKit.Wgsl.Compile

/-!
# Shader modules

A module is valid, or it stands for a creation that failed.  Only a valid module has words, and all
that follows from them: its hash, its metadata, and what a pipeline layout must offer.
-/

namespace ShaderKit

open Spirv (Word)

/-- What a valid module is made of. -/
structure ValidModule where
  /-- What the module was created from first. -/
  kind : SourceKind
  /-- The source that vertex pulling starts from, once there is one. -/
  wgsl : Option String
  words : List Word
  backend : ReflectionBackend
  robust : Bool
  deriving DecidableEq

/-- What became of the source of a module. -/
inductive ModuleState
  | valid (m : ValidModule)
  /-- Stands for a creation that failed. -/
  | failed (reason : String)
  deriving DecidableEq

/-- A module of a device. -/
structure ShaderModule where
  label : Option String
  state : ModuleState
  info : CompilationInfo
  deriving DecidableEq

/-- The module has no words to ask about. -/
structure FailedModule where
  reason : String
  deriving DecidableEq

/-- The text of the failure. -/
def FailedModule.message (e : FailedModule) : String :=
  s!"queried reflection data of an error shader module: {e.reason}"

/-- Why a module does not fit a layout. -/
inductive LayoutMismatch
  | reflection (error : ReflectionError)
  | compatibility (error : CompatibilityError)

/-- Why there is no code with pulled vertices. -/
inductive PulledCodeError
  | requiresWgsl
  | compilation (error : Wgsl.CompileError)
  deriving DecidableEq

/-- The text of a failure. -/
def PulledCodeError.message : PulledCodeError → String
  | requiresWgsl => "vertex pulling requires a module created from WGSL source"
  | compilation e => e.message

namespace ValidModule

variable (m : ValidModule)

/-- The hash of the code, by which the cache files the module. -/
def hash : UInt64 := Digest.ofWords m.words

/-- The metadata of the first entry point. -/
def metadata : Except ReflectionError EntryPointMetadata := Reflection.reflect m.backend m.words

/-- Checks that a pipeline layout fits the entry point. -/
def checkPipeline (layout : PipelineLayout) : Except LayoutMismatch Unit := do
  let metadata ← m.metadata.mapError .reflection
  (metadata.checkPipeline layout).mapError .compatibility

/-- The sizes that the buffers of a pipeline need, group by group. -/
def requiredSizes (layout : PipelineLayout) :
    Except ReflectionError (Vector (List UInt64) Limits.bindGroups) :=
  m.metadata.map (·.requiredSizes layout)

/-- The words of one vertex entry point, compiled once more from the source with pulled vertices. -/
def pulled (compiler : Wgsl.Compiler) (state : Vertex.State) (entryPoint : String) (group : Nat) :
    Except PulledCodeError (List Word) :=
  match m.wgsl with
  | none => .error .requiresWgsl
  | some source =>
    (compiler.compilePulled source state entryPoint group m.robust).mapError .compilation

/-- Keeps a source for vertex pulling.  The first one stays. -/
def attach (source : String) : ValidModule := { m with wgsl := some (m.wgsl.getD source) }

end ValidModule

namespace ShaderModule

/-- The module of a creation that failed. -/
def ofReason (label : Option String) (reason : String) : ShaderModule :=
  ⟨label, .failed reason, .ofReason reason⟩

/-- The valid module, if creation did not fail. -/
def valid (m : ShaderModule) : Except FailedModule ValidModule :=
  match m.state with
  | .valid v => .ok v
  | .failed reason => .error ⟨reason⟩

/-- Creation did not fail. -/
def isValid (m : ShaderModule) : Bool :=
  match m.state with
  | .valid _ => true
  | .failed _ => false

/-- Why the module's creation failed, if it did. -/
def reason? (m : ShaderModule) : Option String :=
  match m.state with
  | .valid _ => none
  | .failed reason => some reason

/-- The code, if creation did not fail. -/
def words? (m : ShaderModule) : Option (List Word) :=
  match m.state with
  | .valid v => some v.words
  | .failed _ => none

/-- Keeps a source for vertex pulling, if the module is valid. -/
def attach (m : ShaderModule) (source : String) : ShaderModule :=
  match m.state with
  | .valid v => { m with state := .valid (v.attach source) }
  | .failed _ => m

/-- The module in one line. -/
def describe (m : ShaderModule) : String :=
  let label := match m.label with
    | none => "None"
    | some l => s!"Some({Text.quote l})"
  let state := match m.state with
    | .valid v =>
      let kind := match v.kind with
        | .spirv => "Spirv"
        | .wgsl => "Wgsl"
      s!"source_kind: {kind}, words: {v.words.length}, content_hash: {v.hash}"
    | .failed reason => s!"error: {Text.quote reason}"
  s!"ShaderModule \x7b label: {label}, {state} \x7d"

end ShaderModule

end ShaderKit
