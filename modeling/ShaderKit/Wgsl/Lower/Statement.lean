import ShaderKit.Wgsl.Lower.Expression

/-!
# Statements of a source

A variable whose first value is known before the program runs has it from the start, unless it is declared
in a loop, where it has to get it anew each time.
-/

namespace ShaderKit.Wgsl

open Ir (BinaryOp ExprId Literal Scalar Shape SwitchValue)

namespace Lower

/-- Declares a local constant, whose value may depend on other local constants. -/
def declareConstant (name : String) (t : Option TypeSyntax) (e : Expr) : Lower Unit := do
  let (_, init) ← knownBy .constant (typeAndValue name t (some e))
  match init.bind Term.value? with
  | some v =>
    nameExpression (← place v)
    declare name (.value v)
  | none => throw (.value .notConstant)

/-- Declares a name for a value.  A number without a type has got one before it is compared with the type
that is given. -/
def declareValue (name : String) (t : Option TypeSyntax) (e : Expr) : Lower Unit := do
  let e ← expression (← typedValue e)
  hideValue e
  if let some t ← t.mapM fun t => atModuleScope (type t) then
    if !(← shapeOf e).isEquivalent (← types) (← shapeOfType t) then throw .conversion
  nameExpression e
  declare name (.plain e)

/-- Whether a value is known before the program runs. -/
def isKnown (e : ExprId) : Lower Bool := return (← arena).constness[e]? ≠ some .runtime

/-- Declares a local variable. -/
def declareVariable (name : String) (t : Option TypeSyntax) (init : Option Expr) :
    Lower Unit := do
  let (type, init) ← typeAndValue name t init
  let value ← init.mapM expression
  let known ← match value with
    | some v => isKnown v
    | none => pure false
  let hoisted := known && !(← draft).inLoop
  let id ← addLocal { name := some name, type, init := if hoisted then value else none }
  let pointer ← push (.localVar id)
  if let some v := value then
    if !hoisted then statement (.store pointer v)
  declare name (.reference pointer)

/-- The value that a switch compares with. -/
def caseValue (selectsUnsigned : Bool) : Option Expr → Lower SwitchValue
  | none => return .fallback
  | some e => do
    let v ← atModuleScope (typedValue e)
    match v.value?.bind (Value.literal? (← types)) with
    | some (.i32 n) => if selectsUnsigned then throw .switchCase else return .i32 n
    | some (.u32 n) => if selectsUnsigned then return .u32 n else throw .switchCase
    | _ => throw .switchCase

/-- The scalar that what is assigned gets. -/
def assignedScalar? (pointer : ExprId) (op : Option BinaryOp) : Lower (Option Scalar) := do
  if op = some .shiftLeft ∨ op = some .shiftRight then return some .u32
  return Shape.pointeeLeaf? (← types) (← shapeOf pointer)

/-- Assigns to what a term refers to, perhaps by an operator. -/
def assign (target : Term) (op : Option BinaryOp) (e : Expr) : Lower Unit := do
  let .reference pointer := target | throw .immutable
  let scalar ← assignedScalar? pointer op
  let v ← value e
  let v ← match scalar with
    | some s => convertLeafTo s v
    | none => pure v
  let v ← match op with
    | none => pure v
    | some op => do
      let (l, r) ← splatOperands op (← loaded target) v
      operation op l r
  statement (.store pointer (← expression v))

/-- The one of an integer type. -/
def integerOne? : Shape → Option Literal
  | .scalar s => if s.kind = .sint ∨ s.kind = .uint then Literal.one? s else none
  | _ => none

/-- Adds one to an integer in memory, or takes it away. -/
def step (target : Term) (up : Bool) : Lower Unit := do
  let .reference pointer := target | throw .notSteppable
  let some one := integerOne? (← targetShape target) | throw .notSteppable
  let one ← push (.literal one)
  let before ← push (.load pointer)
  statement (.store pointer (← push (.binary (if up then .add else .subtract) before one)))

/-- Checks an assertion, whose value has to be known. -/
def assertion (e : Expr) : Lower Unit := do
  let v ← typedValue e
  match v.value?.bind (Value.literal? (← types)) with
  | some (.bool holds) => if !holds then throw .assertion
  | _ => throw .conversion

/-- The value of an expression that a statement uses. -/
def used (e : Expr) : Lower ExprId := do expression (← typedValue e)

mutual

/-- Lowers a statement. -/
def run : Statement → Lower Unit
  | .block body => do
    let (_, inner) ← block (inScope (runAll body))
    statement (.block inner)
  | .letValue name t e => declareValue name t e
  | .constValue name t e => declareConstant name t e
  | .var name t init => declareVariable name t init
  | .branch condition accept reject => do
    let condition ← used condition
    let (_, accept) ← block (inScope (runAll accept))
    let (_, reject) ← block (inScope (runAll reject))
    statement (.branch condition accept reject)
  | .switch selector cases => do
    let selector ← used selector
    let unsigned := (← shapeOf selector).scalar?.any (·.kind = .uint)
    flush
    let cases ← runCases unsigned cases
    statement (.switch selector cases)
  | .loop body continuing breakIf => insideLoop <| inScope do
    let (_, body) ← block (runAll body)
    let (breakIf, continuing) ← block do
      runAll continuing
      breakIf.mapM used
    statement (.loop body continuing breakIf)
  | .breakLoop => statement .breakLoop
  | .continueLoop => statement .continueLoop
  | .ret e => do statement (.ret (← e.mapM used))
  | .discard => statement .kill
  | .call f args => do
    let _ ← call f true (arguments args)
  | .assign target op e => do assign (← term target) op e
  | .step target up => do step (← term target) up
  | .phony e => do nameExpression (← used e)
  | .constAssert e => knownBy .constant (assertion e)

/-- Lowers statements in order. -/
def runAll : List Statement → Lower Unit
  | [] => return
  | s :: rest => do
    run s
    runAll rest

/-- Lowers the cases of a switch in order. -/
def runCases (unsigned : Bool) : List (Option Expr × List Statement × Bool) →
    Lower (List (SwitchValue × List Ir.Statement × Bool))
  | [] => return []
  | (v, body, fallsThrough) :: rest => do
    let v ← caseValue unsigned v
    let (_, body) ← block (inScope (runAll body))
    return (v, body, fallsThrough) :: (← runCases unsigned rest)

end

end Lower

end ShaderKit.Wgsl
