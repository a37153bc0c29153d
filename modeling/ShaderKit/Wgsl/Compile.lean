import ShaderKit.Config
import ShaderKit.Ir.Check.Module
import ShaderKit.Vertex.Pulling.EntryPoint
import ShaderKit.Wgsl.Lower.Declaration
import ShaderKit.Spirv.Emit.Module

/-!
# Compiling sources

From a source to SPIR-V words, in stages that each may refuse it: reading, checking, and emission.  With
vertex pulling, the inputs of one vertex entry point are pulled before emission, and the module is
checked once more.
-/

namespace ShaderKit.Wgsl

/-- What a stage has to say against a source. -/
inductive CompileError
  | reading (fault : Fault)
  | checking (fault : Ir.Check.Fault)
  | pulling (error : Vertex.PullingError)
  | retyping (fault : Ir.Check.Fault)
  | emission (error : Spirv.EmitError)
  deriving DecidableEq

namespace CompileError

/-- The stage, as messages call it. -/
def stage : CompileError → String
  | reading _ => "Parser"
  | checking _ => "Validation"
  | pulling _ => "Vertex pulling transform"
  | retyping _ => "Type Determination"
  | emission _ => "Generator"

/-- What was wrong. -/
def reason : CompileError → String
  | reading fault => fault.message
  | checking fault => fault.message
  | pulling error => error.message
  | retyping fault => fault.message
  | emission error => error.message

/-- The text of a failure. -/
def message (e : CompileError) : String := s!"WGSL->SPIR-V failure:\n{e.stage}: {e.reason}"

end CompileError

/-- The module of a source that is fit for use. -/
def loadChecked (source : String) : Except CompileError Ir.Module := do
  let m ← (load source).mapError .reading
  m.check.mapError .checking
  return m

/-- Accepts a source that has a module fit for use. -/
def validate (source : String) : Except CompileError Unit := do
  let _ ← loadChecked source

/-- The words of a source, with all its entry points. -/
def compile (source : String) (robust : Bool) : Except CompileError (List Spirv.Word) := do
  let m ← loadChecked source
  (Spirv.emit m { robust }).mapError .emission

/-- The words of one vertex entry point of a source, which reads its inputs from storage buffers in
`group` as `state` lays them out. -/
def compilePulled (source : String) (state : Vertex.State) (entryPoint : String) (group : Nat)
    (robust : Bool) : Except CompileError (List Spirv.Word) := do
  let m ← loadChecked source
  let pulled ← (Vertex.pull m state entryPoint group).mapError .pulling
  pulled.check.mapError .retyping
  (Spirv.emit pulled { robust, entryPoint := some (.vertex, entryPoint) }).mapError .emission

/-- A way to compile sources. -/
structure Compiler where
  /-- From a source, and whether accesses are clamped. -/
  compile : String → Bool → Except CompileError (List Spirv.Word)
  /-- From a source, the vertex buffers, the entry point, the group of the storage buffers, and whether
  accesses are clamped. -/
  compilePulled : String → Vertex.State → String → Nat → Bool → Except CompileError (List Spirv.Word)

/-- The compiler of this library. -/
def compiler : Compiler := ⟨compile, compilePulled⟩

end ShaderKit.Wgsl
