import ShaderKit.Spirv.Grammar.Table
import ShaderKit.Spirv.BrokenRule
import ShaderKit.Ir.Typing

/-!
# What cannot be lifted

The typed representation covers a part of SPIR-V only.  These are the reasons why a module is not in
that part.
-/

namespace ShaderKit.Spirv

open Ir (TypingFault)

/-- Why a module has no typed form. -/
inductive LiftError
  | rule (rule : BrokenRule)
  | sectionOrder (opcode : Nat)
  | instruction (opcode : Nat)
  | extension (name : String)
  | externalSet (name : String)
  | executionModel (model : Word)
  | executionMode (mode : Word)
  | undefinedId (id : Id)
  | typeWidth (bits : Word)
  | sign (sign : Word)
  | vectorSize (count : Word)
  | innerType (id : Id)
  | arrayLength (id : Id)
  | runtimeArrayClass
  | storageClass (storageClass : Word)
  | imageDim (dim : Word)
  | imageFormat (format : Word)
  | imageOperands (mask : Word)
  | imageType (id : Id)
  | matrixStride (stride : Word)
  | builtIn (builtIn : Word)
  | ioDecoration
  | unboundHandles
  | specId (id : Word)
  | constantType (type : Id)
  | functionResult (type : Id)
  | functionParameter
  | accessIndex (id : Id)
  | indexType (id : Id)
  | operandType (id : Id)
  | extendedInstruction (number : Word)
  | typing (fault : TypingFault)
  | scope (id : Id)
  | groupOperation (operation : Word)
  | switchPairs
  | callCycle
  | comparison
  | atomicPointer
  | atomicInit
  deriving DecidableEq

/-- The name of an instruction, as messages show it. -/
def instructionName (opcode : Nat) : String :=
  match Grammar.form? opcode with
  | some form => s!"Op{form.name}"
  | none => s!"instruction {opcode}"

/-- The text of a failure. -/
def LiftError.message : LiftError → String
  | rule r => r.message
  | sectionOrder opcode => s!"{instructionName opcode} comes too late"
  | instruction opcode => s!"{instructionName opcode} is not supported here"
  | extension name => s!"extension {name} is not supported"
  | externalSet name => s!"instruction set {name} is not supported"
  | executionModel model => s!"execution model {model} is not supported"
  | executionMode mode => s!"execution mode {mode} is not supported"
  | undefinedId id => s!"id %{id} is not defined"
  | typeWidth bits => s!"a width of {bits} bits is not supported"
  | sign s => s!"{s} is not a signedness"
  | vectorSize count => s!"{count} is not a number of components"
  | innerType id => s!"type %{id} cannot be a component type"
  | arrayLength id => s!"%{id} is not an array length"
  | runtimeArrayClass => "a runtime array is not in a storage buffer"
  | storageClass c => s!"storage class {c} is not supported"
  | imageDim dim => s!"image dimension {dim} is not supported"
  | imageFormat format => s!"image format {format} is not supported"
  | imageOperands mask => s!"image operands {mask} are not supported"
  | imageType id => s!"%{id} is not a suitable image"
  | matrixStride stride => s!"a matrix stride of {stride} is not supported"
  | builtIn b => s!"builtin {b} is not supported"
  | ioDecoration => "a variable has neither a location nor a builtin, or both"
  | unboundHandles => "an array of images or samplers has no binding"
  | specId id => s!"specialization id {id} is too high"
  | constantType type => s!"a constant cannot be of type %{type}"
  | functionResult type => s!"%{type} is not what the function type returns"
  | functionParameter => "the parameters do not fit the function type"
  | accessIndex id => s!"%{id} cannot be indexed so far"
  | indexType id => s!"%{id} is not a suitable index"
  | operandType id => s!"%{id} has an unsuitable type"
  | extendedInstruction number => s!"extended instruction {number} is not supported"
  | typing fault => fault.message
  | scope id => s!"%{id} is not a scope or semantics"
  | groupOperation o => s!"group operation {o} is not supported"
  | switchPairs => "a literal of a switch has no target"
  | callCycle => "functions call each other in a circle"
  | atomicPointer => "an atomic is not reached from a global variable"
  | atomicInit => "an atomic variable has an initial value"
  | comparison => "an image or sampler is used with and without comparison"

end ShaderKit.Spirv
