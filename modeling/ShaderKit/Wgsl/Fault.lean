import ShaderKit.Ir.Typing
import ShaderKit.Wgsl.Number

/-!
# Faults in a source

Why a source has no module: it cannot be read, or what it says has no meaning.
-/

namespace ShaderKit.Wgsl

/-- Why an expression has no value when it needs one. -/
inductive ValueFault
  /-- It is only known when the program runs. -/
  | notConstant
  /-- It is only known when the pipeline is created. -/
  | overridden
  | overflow
  | divisionByZero
  | shift
  | notFinite
  | lossy
  | operands
  | unaryOperand
  | argument
  | argumentCount
  | clampRange
  | cast
  | zero
  | splat
  | swizzle
  | access
  | index
  | unsupported
  deriving DecidableEq

namespace ValueFault

/-- Whether the program can compute what could not be computed before. -/
def canWait : ValueFault → Bool
  | operands | unsupported => true
  | _ => false

/-- The text of a fault. -/
def message : ValueFault → String
  | notConstant => "the value is not known before the program runs"
  | overridden => "the value is not known before the pipeline is created"
  | overflow => "the result is out of range"
  | divisionByZero => "a division by zero"
  | shift => "a shift by too many bits"
  | notFinite => "the result is not finite"
  | lossy => "the value cannot be represented in the type"
  | operands => "the operands do not fit the operator"
  | unaryOperand => "the operand does not fit the operator"
  | argument => "the arguments do not fit the function"
  | argumentCount => "the function takes another number of arguments"
  | clampRange => "the range of values is empty"
  | cast => "the value cannot be converted to the type"
  | zero => "the type has no zero"
  | splat => "only a scalar can be repeated"
  | swizzle => "only components of a vector can be picked"
  | access => "the value has no such part"
  | index => "the index is not a number of a part"
  | unsupported => "the function is not known for constants"

end ValueFault

/-- What is wrong with a source. -/
inductive Fault
  -- reading
  | expected (what : String)
  | number (fault : NumberFault)
  | reservedWord (word : String)
  | unknownWord (role word : String)
  | directive (name : String)
  | repeatedAttribute (name : String)
  | missingAttribute (name : String)
  | inconsistentBinding
  | forInitializer
  | breakIf
  | braces
  -- names
  | redefined (name : String)
  | cyclic (name : String)
  | undefined (name : String)
  | notValue (name : String)
  | notFunction (name : String)
  | notType (name : String)
  | noMember (name : String)
  -- types
  | untyped (name : String)
  | notConstructible
  | notInferable
  | conversion
  | components
  | scalarExpected
  | matrixScalar
  | notReference
  | notPointer
  | pointer
  | immutable
  | notSteppable
  | image
  | storageImage
  | sampleType
  | atomicPointer
  | rayQueryPointer
  | typing (fault : Ir.TypingFault)
  | argumentCount (function : String)
  | returnsNothing (function : String)
  | switchSelector
  | switchCase
  -- values
  | value (fault : ValueFault)
  | arrayLength
  | memberSize
  | memberAlignment
  | overrideId
  | assertion
  deriving DecidableEq

/-- The text of a fault. -/
def NumberFault.message : NumberFault → String
  | outOfRange => "no number of this type is that large"
  | malformed => "a malformed number"
  | half => "numbers with 16 bits are not supported"

/-- The text of a fault. -/
def Fault.message : Fault → String
  | expected what => s!"expected {what}"
  | number fault => fault.message
  | reservedWord word => s!"name `{word}` is a reserved keyword"
  | unknownWord role word => s!"unknown {role}: `{word}`"
  | directive name => s!"`{name}` cannot be enabled or required here"
  | repeatedAttribute name => s!"attribute `{name}` is repeated"
  | missingAttribute name => s!"attribute `{name}` is missing"
  | inconsistentBinding => "the attributes do not fit together"
  | forInitializer => "a loop cannot start with this statement"
  | breakIf => "`break if` ends a continuing block"
  | braces => "brace nesting limit reached"
  | redefined name => s!"redefinition of `{name}`"
  | cyclic name => s!"declaration of `{name}` is recursive"
  | undefined name => s!"no definition in scope for identifier: `{name}`"
  | notValue name => s!"`{name}` is not a value"
  | notFunction name => s!"`{name}` is not a function"
  | notType name => s!"`{name}` is not a type"
  | noMember name => s!"invalid field accessor `{name}`"
  | untyped name => s!"variable `{name}` needs a type"
  | notConstructible => "type is not constructible"
  | notInferable => "type can't be inferred"
  | conversion => "the value does not convert to the type"
  | components => "the components do not fit the type"
  | scalarExpected => "a scalar type is expected"
  | matrixScalar => "a matrix needs a float type"
  | notReference => "the operand is not a reference"
  | notPointer => "the operand is not a pointer"
  | pointer => "the operand must not be a pointer"
  | immutable => "invalid left-hand side of assignment"
  | notSteppable => "only an integer reference can be stepped"
  | image => "an image is expected"
  | storageImage => "a storage image is expected"
  | sampleType => "a texture has f32, i32, u32 or u64 texels"
  | atomicPointer => "a pointer to an atomic is expected"
  | rayQueryPointer => "a pointer to a ray query is expected"
  | typing fault => fault.message
  | argumentCount function => s!"wrong number of arguments of `{function}`"
  | returnsNothing function => s!"function `{function}` doesn't return any value"
  | switchSelector => "invalid switch selector"
  | switchCase => "invalid switch case value"
  | value fault => fault.message
  | arrayLength => "an array length must be positive"
  | memberSize => "the size is below that of the type"
  | memberAlignment => "the alignment does not suit the type"
  | overrideId => "an override id has 16 bits"
  | assertion => "a constant assertion failed"

end ShaderKit.Wgsl
