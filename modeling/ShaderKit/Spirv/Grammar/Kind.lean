/-!
# Kinds of operand

What an operand of a SPIR-V instruction can be: an id, a literal, or a value of an enumeration.  Some
values of some enumerations are followed by parameters of their own; the tables are in
`ShaderKit.Spirv.Grammar.Enumeration`.
-/

namespace ShaderKit.Spirv

/-- A word of a module. -/
abbrev Word := UInt32

/-- The number by which instructions refer to each other. -/
abbrev Id := UInt32

/-- The enumerations and bit masks that operands are taken from. -/
inductive Enumeration
  | imageOperands | fpFastMathMode | selectionControl | loopControl | functionControl
  | memoryAccess | kernelProfilingInfo | cooperativeMatrixOperands
  | sourceLanguage | executionModel | addressingModel | memoryModel | executionMode | storageClass
  | dim | samplerAddressingMode | samplerFilterMode | imageFormat | fpRoundingMode | fpDenormMode
  | quantizationModes | fpOperationMode | overflowModes | linkageType | accessQualifier
  | hostAccessQualifier | functionParameterAttribute | decoration | builtIn | groupOperation
  | kernelEnqueueFlags | capability | packedVectorFormat | initializationModeQualifier
  | loadCacheControl | storeCacheControl
  deriving DecidableEq

/-- What stands at one place of an instruction. -/
inductive OperandKind
  | resultType
  | result
  | id
  /-- The id of a constant that names a scope. -/
  | scope
  /-- The id of a constant that names memory semantics. -/
  | semantics
  | literal
  | string
  /-- A literal as wide as the result type. -/
  | typedLiteral
  /-- The opcode of a nested instruction, followed by its operands. -/
  | nested
  | value (enumeration : Enumeration)
  /-- Two operands that come together.  A literal that comes first is as wide as the first operand of the
  instruction. -/
  | pair (first second : OperandKind)
  deriving DecidableEq

/-- How often an operand comes. -/
inductive Quantifier
  | once | optional | repeated
  deriving DecidableEq

/-- A place for operands in the form of an instruction. -/
structure OperandSlot where
  kind : OperandKind
  quantifier : Quantifier := .once

/-- The form of an instruction. -/
structure InstructionForm where
  opcode : Nat
  name : String
  slots : List OperandSlot

end ShaderKit.Spirv
