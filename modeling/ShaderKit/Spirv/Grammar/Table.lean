import ShaderKit.Spirv.Grammar.Core
import ShaderKit.Spirv.Grammar.Extension

/-!
# The instruction table
-/

namespace ShaderKit.Spirv.Grammar

/-- Every instruction form. -/
def forms : List InstructionForm :=
  declarations ++ computations ++ groupOperations ++ crossVendor ++ motionEstimation
    ++ arbitraryPrecision

/-- The table that holds an opcode. -/
def tableOf (opcode : Nat) : List InstructionForm :=
  if opcode < 128 then declarations
  else if opcode < 256 then computations
  else if opcode < 4160 then groupOperations
  else if opcode < 5571 then crossVendor
  else if opcode < 5818 then motionEstimation
  else arbitraryPrecision

/-- The form of an opcode. -/
def form? (opcode : Nat) : Option InstructionForm :=
  (tableOf opcode).find? (·.opcode == opcode)

end ShaderKit.Spirv.Grammar
