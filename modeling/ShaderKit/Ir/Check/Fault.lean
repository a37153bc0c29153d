import ShaderKit.Ir.Typing

/-!
# Faults

What makes a module of the typed representation unfit for use.
-/

namespace ShaderKit.Ir.Check

/-- What is wrong with a module. -/
inductive Fault
  -- types
  | layout
  | width (scalar : Scalar)
  | integerMatrix
  | arrayElement
  | pointee
  | unsizedPointee
  | emptyStruct
  | memberType (index : Nat)
  | memberOverlap (index : Nat)
  | memberOutside (index : Nat)
  | unsizedMember (index : Nat)
  | arrayedVolume
  | bindingArrayElement
  -- constants
  | literal
  | components
  | splat
  | notConstant
  | notConstructible
  | initializer
  | overrideType
  | overrideId (id : Nat)
  -- variables
  | uniformLayout
  | storageLayout
  | writeOnlyBuffer
  | variableType
  | binding
  -- functions
  | argumentType (index : Nat)
  | plainBinding
  | typing (expression : ExprId) (fault : TypingFault)
  | expression (expression : ExprId)
  | notInScope (expression : ExprId)
  | alreadyInScope (expression : ExprId)
  | unvisited (expression : ExprId)
  | unreachable
  | condition (expression : ExprId)
  | selector (expression : ExprId)
  | cases
  | control
  | returned
  | storePointer (expression : ExprId)
  | storeValue (expression : ExprId)
  | image (expression : ExprId)
  | call (function : FunctionId)
  | atomic (pointer : ExprId)
  | uniformLoad (pointer : ExprId)
  | rayQuery (query : ExprId)
  | subgroup (result : ExprId)
  -- entry points
  | duplicateEntry (name : String)
  | workgroupSize
  | earlyDepthTest
  | stage
  | missingBinding
  | duplicateBuiltIn
  | builtIn
  | sharedLocation (location : Nat)
  | notShareable
  | interpolation
  | secondBlendSource
  | noPosition
  | pushConstants
  | usage (global : GlobalId)
  | sharedBinding (group binding : Nat)
  deriving DecidableEq

/-- The text of a fault. -/
def Fault.message : Fault → String
  | layout => "a type has no layout"
  | width s => s!"a scalar cannot be {s.width} bytes wide"
  | integerMatrix => "a matrix needs floats"
  | arrayElement => "an array needs elements of known size"
  | pointee => "a pointer cannot point to this"
  | unsizedPointee => "only storage can hold values of unknown size"
  | emptyStruct => "a struct needs members"
  | memberType index => s!"member {index} has an unsuitable type"
  | memberOverlap index => s!"member {index} overlaps the member before it"
  | memberOutside index => s!"member {index} ends outside the struct"
  | unsizedMember index => s!"member {index} has no known size and is not the last one"
  | arrayedVolume => "there are no arrays of volumes"
  | bindingArrayElement => "a binding array needs structs or handles"
  | literal => "a literal has no finite value"
  | components => "the components do not fit the type"
  | splat => "only a scalar can be splatted"
  | notConstant => "a constant expression is expected"
  | notConstructible => "values of this type cannot be constructed"
  | initializer => "the initial value has another type"
  | overrideType => "an override is a truth value, a number of 32 bits or a double"
  | overrideId id => s!"override id {id} is used twice"
  | uniformLayout => "the layout does not suit a uniform buffer"
  | storageLayout => "the layout does not suit a storage buffer"
  | writeOnlyBuffer => "a storage buffer cannot be write-only"
  | variableType => "a variable cannot have this type"
  | binding => "a resource needs a binding, and only a resource has one"
  | argumentType index => s!"argument {index} has an unsuitable type"
  | plainBinding => "only entry points have an interface"
  | typing e fault => s!"expression {e} has no type: {fault.message}"
  | expression e => s!"expression {e} has unsuitable operands"
  | notInScope e => s!"expression {e} is not in scope"
  | alreadyInScope e => s!"expression {e} is in scope already"
  | unvisited e => s!"no statement gives expression {e} its value"
  | unreachable => "a statement cannot be reached"
  | condition e => s!"expression {e} is not a condition"
  | selector e => s!"expression {e} is not an integer"
  | cases => "the cases of a switch do not fit together"
  | control => "control cannot be passed on from here"
  | returned => "the returned value does not fit the function"
  | storePointer e => s!"nothing can be stored through expression {e}"
  | storeValue e => s!"expression {e} cannot be stored here"
  | image e => s!"expression {e} is not a suitable image"
  | call f => s!"the call of function {f} does not fit it"
  | atomic e => s!"the atomic operation on expression {e} is not possible"
  | uniformLoad e => s!"expression {e} cannot be loaded uniformly"
  | rayQuery e => s!"expression {e} cannot be used as a ray query"
  | subgroup e => s!"the operation of a subgroup with result {e} does not fit"
  | duplicateEntry name => s!"there are two entry points {name} of one stage"
  | workgroupSize => "the workgroup size is out of range"
  | earlyDepthTest => "only fragments have a depth test"
  | stage => "the stage does not allow some operation"
  | missingBinding => "a part of the interface has no binding"
  | duplicateBuiltIn => "a builtin occurs twice"
  | builtIn => "a builtin does not suit the stage or has a wrong type"
  | sharedLocation location => s!"location {location} is used twice"
  | notShareable => "values of this type cannot pass between stages"
  | interpolation => "the interpolation does not suit the type"
  | secondBlendSource => "a second blend source is not possible here"
  | noPosition => "a vertex needs a position"
  | pushConstants => "more than one push constant is used"
  | usage global => s!"variable {global} does not allow how it is used"
  | sharedBinding group slot => s!"group {group} binding {slot} is used twice"

end ShaderKit.Ir.Check
