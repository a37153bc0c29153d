import ShaderKit.Spirv.Module
import ShaderKit.Spirv.Enumerants
import ShaderKit.Validation.Report

/-!
# Checking the structure

What every module must declare, and the id bound.
-/

namespace ShaderKit.Validation

open Spirv

/-- The module has a memory model, with logical addressing. -/
def memoryModelReport (m : Module) : Report :=
  match m.memoryModel with
  | none => .error none "module is missing OpMemoryModel"
  | some inst =>
    .when (!inst.hasOperand 0 (.value .addressingModel AddressingModel.logical))
      (.error none "Vulkan requires the Logical addressing model")

/-- The module declares the capability of shaders. -/
def capabilityReport (m : Module) : Report :=
  .when (!m.capabilities.any (·.hasOperand 0 (.value .capability Capability.shader)))
    (.error none "module does not declare the Shader capability")

/-- The name under which an entry point is declared. -/
def entryPointName (inst : Instruction) : String :=
  match inst.operands.drop 2 with
  | .text name :: _ => name
  | _ => "<unnamed>"

/-- The module has an entry point; if there are more, the first one counts. -/
def entryPointReport (m : Module) : Report :=
  match m.entryPoints with
  | [] => .error none "module declares no OpEntryPoint"
  | [_] => {}
  | first :: rest =>
    .warning none <|
      s!"module declares {rest.length + 1} entry points; only the first " ++
        s!"(`{entryPointName first}`) is used"

/-- The first id, in the order of the instructions, that is not below the bound. -/
def unboundedId? (m : Module) : Option Id :=
  (m.instructions.flatMap (·.plainIds)).find? (m.bound ≤ ·)

/-- All ids are below the bound. -/
def boundReport (m : Module) : Report :=
  match unboundedId? m with
  | none => {}
  | some id => .error none s!"id %{id} is not below the module's id bound {m.bound}"

/-- The checks of the parts of a module, one after another. -/
def structureReport (m : Module) : Report :=
  memoryModelReport m ++ capabilityReport m ++ entryPointReport m ++ boundReport m

end ShaderKit.Validation
