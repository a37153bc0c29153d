import ShaderKit.Text.Blank

/-!
# Configuration
-/

namespace ShaderKit

/-- How a module's resources are found: through the typed representation of the module, or through
its declarations alone. -/
inductive ReflectionBackend
  | crossCompiler | reflectionService
  deriving DecidableEq

/-- No backend has the name `text`. -/
structure UnknownBackend where
  text : String

/-- The text of the failure. -/
def UnknownBackend.message (e : UnknownBackend) : String :=
  s!"unknown reflection backend `{e.text}` (expected `cross_compiler` or `reflection_service`)"

namespace ReflectionBackend

/-- The name of a backend in configurations. -/
def name : ReflectionBackend → String
  | crossCompiler => "cross_compiler"
  | reflectionService => "reflection_service"

/-- Reads a backend's name; blanks around it do not count. -/
def parse (text : String) : Except UnknownBackend ReflectionBackend :=
  let text := Text.trimBlank text
  match [crossCompiler, reflectionService].find? (·.name == text) with
  | some backend => .ok backend
  | none => .error ⟨text⟩

end ReflectionBackend

/-- Configuration of a device. -/
structure DeviceConfig where
  /-- Check modules when they are created. -/
  validate : Bool := true
  backend : ReflectionBackend := .crossCompiler
  /-- Clamp indices in generated code, so that no access leaves its buffer, array or image. -/
  robust : Bool := true
  deriving DecidableEq

end ShaderKit
