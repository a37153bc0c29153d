import ShaderKit.Ir.Module

/-!
# Syntax

The tree of a WGSL source.  Loops of every kind are written with one loop statement, and an `else if` is
an `if` inside an `else`.
-/

namespace ShaderKit.Wgsl

open Ir (AddressSpace BinaryOp BuiltIn ImageClass ImageDimension Interpolation Literal Sampling Scalar
  ShaderStage UnaryOp VectorSize)

mutual

/-- A type as it is written. -/
inductive TypeSyntax
  | scalar (scalar : Scalar)
  | vector (size : VectorSize) (component : TypeSyntax)
  | matrix (columns rows : VectorSize) (component : TypeSyntax)
  | atomic (scalar : Scalar)
  | pointer (base : TypeSyntax) (space : AddressSpace)
  /-- Without a length the array is as long as its buffer allows. -/
  | array (element : TypeSyntax) (length : Option Expr)
  | bindingArray (element : TypeSyntax) (length : Option Expr)
  | image (dim : ImageDimension) (arrayed : Bool) (imageClass : ImageClass)
  | sampler (comparison : Bool)
  | accelerationStructure
  | rayQuery
  | rayDescription
  | rayIntersection
  | named (name : String)

/-- What a constructor call constructs.  The last three leave the component type open. -/
inductive Constructor
  | type (type : TypeSyntax)
  | vector (size : VectorSize)
  | matrix (columns rows : VectorSize)
  | array

/-- Expressions as they are written. -/
inductive Expr
  | literal (value : Literal)
  | name (name : String)
  | construct (constructor_ : Constructor) (arguments : List Expr)
  | unary (op : UnaryOp) (operand : Expr)
  | addressOf (operand : Expr)
  | dereference (operand : Expr)
  | binary (op : BinaryOp) (left right : Expr)
  /-- A call, or the construction of a value of a named type. -/
  | call (function : String) (arguments : List Expr)
  | index (base index : Expr)
  | member (base : Expr) (field : String)
  | bitcast (type : TypeSyntax) (operand : Expr)

end

/-- Statements as they are written. -/
inductive Statement
  | block (body : List Statement)
  | letValue (name : String) (type : Option TypeSyntax) (value : Expr)
  | constValue (name : String) (type : Option TypeSyntax) (value : Expr)
  | var (name : String) (type : Option TypeSyntax) (init : Option Expr)
  | branch (condition : Expr) (accept reject : List Statement)
  /-- Each case has a value, or none for the default, and falls through if it says so. -/
  | switch (selector : Expr) (cases : List (Option Expr × List Statement × Bool))
  | loop (body continuing : List Statement) (breakIf : Option Expr)
  | breakLoop
  | continueLoop
  | ret (value : Option Expr)
  | discard
  | call (function : String) (arguments : List Expr)
  | assign (target : Expr) (op : Option BinaryOp) (value : Expr)
  /-- Adds one to the target, or takes it away. -/
  | step (target : Expr) (up : Bool)
  | phony (value : Expr)
  | constAssert (condition : Expr)

/-- How a value is connected to the stage's interface. -/
inductive BindingSyntax
  | builtIn (builtIn : BuiltIn)
  | location (location : Expr) (secondBlendSource : Bool)
      (interpolation : Option Interpolation) (sampling : Option Sampling)

/-- A member of a struct as it is written. -/
structure MemberSyntax where
  name : String
  type : TypeSyntax
  binding : Option BindingSyntax
  size : Option Expr
  alignment : Option Expr

/-- A parameter as it is written. -/
structure ParameterSyntax where
  name : String
  type : TypeSyntax
  binding : Option BindingSyntax

/-- What makes a function an entry point. -/
structure EntrySyntax where
  stage : ShaderStage
  earlyDepthTest : Bool
  workgroupSize : Option (List Expr)

/-- A function as it is written. -/
structure FunctionSyntax where
  name : String
  parameters : List ParameterSyntax
  result : Option (TypeSyntax × Option BindingSyntax)
  body : List Statement
  entry : Option EntrySyntax

/-- A global variable as it is written. -/
structure VariableSyntax where
  name : String
  space : AddressSpace
  /-- Group and binding. -/
  binding : Option (Expr × Expr)
  type : Option TypeSyntax
  init : Option Expr

/-- A declaration at module scope. -/
inductive Declaration
  | struct (name : String) (members : List MemberSyntax)
  | typeAlias (name : String) (type : TypeSyntax)
  | constant (name : String) (type : Option TypeSyntax) (value : Expr)
  | overridden (name : String) (id : Option Expr) (type : Option TypeSyntax) (init : Option Expr)
  | var (v : VariableSyntax)
  | function (f : FunctionSyntax)
  | constAssert (condition : Expr)

/-- The name that a declaration gives a meaning to. -/
def Declaration.name? : Declaration → Option String
  | struct name _ | typeAlias name _ | constant name _ _ | overridden name _ _ _ => some name
  | var v => some v.name
  | function f => some f.name
  | constAssert _ => none

end ShaderKit.Wgsl
