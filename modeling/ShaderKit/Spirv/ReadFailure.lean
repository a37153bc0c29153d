import ShaderKit.Spirv.Grammar.Enumeration
import ShaderKit.Text.Utf8

/-!
# Failures of reading a module

`DecodeFailure` is about a single operand, `ReadFailure` about the word stream, `StructureFailure` about
the order of well-formed instructions.  Offsets are in bytes from the start of the module, and
instructions are counted from 1.
-/

namespace ShaderKit.Spirv

/-- Why an operand cannot be read. -/
inductive DecodeFailure
  /-- The module ends, or an enumerated operand is missing. -/
  | streamEnd (offset : Nat)
  /-- The instruction's word count is used up inside an operand. -/
  | limitReached (offset : Nat)
  | unknownValue (enumeration : Enumeration) (value : Word) (offset : Nat)
  | badText (offset : Nat) (error : Text.Utf8Error)
  deriving DecidableEq

/-- The text of a failure. -/
def DecodeFailure.message : DecodeFailure → String
  | streamEnd offset => s!"expected more bytes in the stream at index {offset}"
  | limitReached offset => s!"reached word limit at index {offset}"
  | unknownValue e value offset =>
    s!"unknown value {value} for operand kind {e.name} at index {offset}"
  | badText offset error => s!"cannot decode string at index {offset}: {error.message}"

/-- Why the instructions do not form a module. -/
inductive StructureFailure
  | nestedFunction
  | unclosedFunction
  | mismatchedFunctionEnd
  | detachedParameter
  | detachedBlock
  | nestedBlock
  | unclosedBlock
  | mismatchedTerminator
  | detachedInstruction (name : String)
  deriving DecidableEq

/-- The text of a failure. -/
def StructureFailure.message : StructureFailure → String
  | nestedFunction => "found nested function"
  | unclosedFunction => "found unclosed function"
  | mismatchedFunctionEnd => "found mismatched OpFunctionEnd"
  | detachedParameter => "found function OpFunctionParameter not inside function"
  | detachedBlock => "found block not inside function"
  | nestedBlock => "found nested block"
  | unclosedBlock => "found block without terminator"
  | mismatchedTerminator => "found mismatched terminator"
  | detachedInstruction name => s!"found instruction `\"{name}\"` not inside block"

/-- Why a word sequence is not a module. -/
inductive ReadFailure
  | headerIncomplete (words : Nat)
  | headerIncorrect
  | endianness
  | zeroWordCount (offset index : Nat)
  | unknownOpcode (offset index opcode : Nat)
  | operandExpected (offset index : Nat)
  | operandExceeded (offset index : Nat)
  | operand (failure : DecodeFailure)
  | unsupportedType (offset index : Nat)
  | nestedOpcode (offset index : Nat)
  /-- A nested instruction has an operand that only stands at the top level; the reader gives up. -/
  | nestedForm
  | malformed (failure : StructureFailure)
  deriving DecidableEq

namespace ReadFailure

/-- The text of a failure. -/
def message : ReadFailure → String
  | headerIncomplete words =>
    s!"incomplete module header: {(DecodeFailure.streamEnd (4 * words)).message}"
  | headerIncorrect => "incorrect module header"
  | endianness => "unsupported endianness"
  | zeroWordCount offset index =>
    s!"zero word count found for instruction #{index} at offset {offset}"
  | unknownOpcode offset index opcode =>
    s!"unknown opcode ({opcode}) for instruction #{index} at offset {offset}"
  | operandExpected offset index =>
    s!"expected more operands for instruction #{index} at offset {offset}"
  | operandExceeded offset index =>
    s!"found extra operands for instruction #{index} at offset {offset}"
  | operand failure => s!"operand decoding error: {failure.message}"
  | unsupportedType offset index =>
    s!"unsupported type for instruction #{index} at offset {offset}"
  | nestedOpcode offset index =>
    s!"incorrect SpecConstantOp number for instruction #{index} at offset {offset}"
  | nestedForm => "operand cannot be nested"
  | malformed failure => s!"consumer error: {failure.message}"

/-- The word that the failure is about, where it is known. -/
def position? : ReadFailure → Option Nat
  | zeroWordCount offset _ | unknownOpcode offset _ _ | operandExpected offset _
  | operandExceeded offset _ | unsupportedType offset _ | nestedOpcode offset _
  | operand (.streamEnd offset) | operand (.limitReached offset)
  | operand (.badText offset _) => some (offset / 4)
  | _ => none

end ReadFailure

end ShaderKit.Spirv
