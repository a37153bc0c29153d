import ShaderKit.Spirv.Grammar.Enumeration

/-!
# Rules that lifting rests on

Lifting checks most of what it needs, and says that a module cannot be lifted where something is missing.
These rules it takes for granted: a module that breaks one is not looked at any further, neither for
checking nor for reflection.
-/

namespace ShaderKit.Spirv

/-- A rule and where it is broken. -/
inductive BrokenRule
  | layout
  | selector (id : Id)
  | scalarType (id : Id)
  | coordinate (id : Id)
  | coordinateType
  | noComponents (id : Id)
  | componentIndex (type : Id)
  | function
  | value (id : Id)
  | block (label : Id)
  | sampler (id : Id)
  | operand (id : Id)
  | atomicPath
  | atomicStruct
  deriving DecidableEq

/-- The text for a broken rule. -/
def BrokenRule.message : BrokenRule → String
  | layout => "a type has no layout"
  | selector id => s!"%{id} cannot be the selector of a switch"
  | scalarType id => s!"%{id} is not made of scalars"
  | coordinate id => s!"%{id} is not a coordinate"
  | coordinateType => "the module has no type for the coordinates of an image"
  | noComponents id => s!"%{id} is made of nothing"
  | componentIndex type => s!"values of type %{type} have no such component"
  | function => "a function that is called is not defined"
  | value id => s!"%{id} is not a value"
  | block label => s!"%{label} is not a block of the function"
  | sampler id => s!"%{id} has no sampler"
  | operand id => s!"%{id} is not defined around its use"
  | atomicPath => "an atomic is part of something other than arrays and structs"
  | atomicStruct => "a struct is used as an atomic"

end ShaderKit.Spirv
