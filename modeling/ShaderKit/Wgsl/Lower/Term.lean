import ShaderKit.Wgsl.Lower.State

/-!
# Terms

What can be done with the values of a source.  What is known is computed, and everything else becomes
expressions.
-/

namespace ShaderKit.Wgsl

open Ir (BinaryOp ExprId Expression Scalar ScalarKind Shape TypeId UnaryOp ValueType VectorSize)
open Ir.Check (Constness)

namespace Lower

mutual

/-- Adds the expressions of a value, and gives the last. -/
def place : Value → Lower ExprId
  | .literal l => push (.literal l)
  | .zero t => push (.zero t)
  | .splat n v => do push (.splat n (← place v))
  | .compose t components => do push (.compose t (← placeAll components))

/-- Makes expressions of values. -/
def placeAll : List Value → Lower (List ExprId)
  | [] => return []
  | v :: rest => do
    let first ← place v
    return first :: (← placeAll rest)

end

/-- The expression of a loaded term, as it is: a number without a type stays without one. -/
def expression : Term → Lower ExprId
  | .value v => place v
  | .constant c _ => push (.constant c)
  | .plain e | .reference e => return e

/-- The type of a term. -/
def typeOfTerm (t : Term) : Lower ValueType := do
  checkTyped
  match t with
  | .value v => match v.type (← types) with
    | .ok t => return t
    | .error fault => throw (.typing fault)
  | .constant c _ => match (← get).module.constants[c]? with
    | some c => return .named c.type
    | none => throw (.typing .undefined)
  | .plain e | .reference e => typeOf e

/-- The shape of the type of a term. -/
def shapeOfTerm (t : Term) : Lower Shape := do
  match (← typeOfTerm t).shape? (← types) with
  | some shape => return shape
  | none => throw (.typing .undefined)

/-- The value of a term; what is in memory is loaded. -/
def loaded : Term → Lower Term
  | .reference pointer => .plain <$> push (.load pointer)
  | t => return t

/-- A value that is computed if its operands are known, and otherwise an expression of them.  Where the
computation is not known, the program has to do it. -/
def computed (operands : List Term) (known : List Value → Evaluation Value)
    (e : List ExprId → Expression) : Lower Term := do
  match operands.mapM Term.value? with
  | none => .plain <$> do push (e (← operands.mapM expression))
  | some values =>
    match ← evaluate (known values) with
    | .ok v => return .value v
    | .error fault =>
      if fault.canWait ∧ (← deadline) = .runtime then
        .plain <$> do pushKnown .runtime (e (← operands.mapM expression))
      else throw (.value fault)

/-- The operand at a place; there are enough operands. -/
def operand (operands : List ExprId) (i : Nat) : ExprId := operands[i]?.getD 0

/-- A computation on one value. -/
def onOne (f : Value → Evaluation Value) : List Value → Evaluation Value
  | [v] => f v
  | _ => throw .operands

/-- A computation on two values. -/
def onTwo (f : Value → Value → Evaluation Value) : List Value → Evaluation Value
  | [a, b] => f a b
  | _ => throw .operands

/-- An operator on one term. -/
def unary (op : UnaryOp) (t : Term) : Lower Term :=
  computed [t] (onOne (·.unary op)) fun es => .unary op (operand es 0)

/-- An operation on operands that have been made to fit each other. -/
def operation (op : BinaryOp) (l r : Term) : Lower Term :=
  computed [l, r] (onTwo (Value.binary op)) fun es => .binary op (operand es 0) (operand es 1)

/-- A vector with a term for each component. -/
def splat (n : VectorSize) (t : Term) : Lower Term :=
  computed [t] (onOne fun v => return .splat n v) fun es => .splat n (operand es 0)

/-- A value of a type that is made of parts.  Parts that do not fit are put together all the same; the
module is refused later. -/
def compose (type : TypeId) (parts : List Term) : Lower Term :=
  computed parts (fun values => return .compose type values) (.compose type)

/-- Conversion to a scalar that has been asked for. -/
def conversion (target : Scalar) (t : Term) : Lower Term :=
  computed [t] (onOne (·.cast target)) fun es =>
    .convert (operand es 0) target.kind (some target.width)

/-- The bits of a value, taken for those of another scalar kind. -/
def bitcast (kind : ScalarKind) (t : Term) : Lower Term :=
  computed [t] (fun _ => throw .unsupported) fun es => .convert (operand es 0) kind none

/-- A value, or an array of values, with another scalar; it has to be known. -/
def castArray (target : Scalar) (t : Term) : Lower Term := do
  match t.value? with
  | some v => .value <$> evaluated (v.castArray target)
  | none => throw (.value .cast)

/-- Gives a number without a type its type. -/
def concretize (t : Term) : Lower Term := do
  match Shape.leaf? (← types) (← shapeOfTerm t) with
  | some s => if Scalar.concrete s = s then return t else castArray (Scalar.concrete s) t
  | none => return t

/-- A scalar, a vector or a matrix with another scalar; others stay as they are. -/
def convertScalar (target : Scalar) (t : Term) : Lower Term := do
  match Shape.scalarOf? (← shapeOfTerm t) with
  | some s => if s = target then return t else conversion target t
  | none => return t

/-- A value with another scalar, or an array of such values. -/
def convertLeaf (target : Scalar) (t : Term) : Lower Term := do
  match ← shapeOfTerm t with
  | .array .. => castArray target t
  | _ => conversion target t

/-- Converts a term to a type, if it can be done without being asked for. -/
def convertTo (goal : Shape) (t : Term) : Lower Term := do
  let types ← types
  let own ← shapeOfTerm t
  if own.isEquivalent types goal then return t
  match Shape.conversion? types own goal with
  | some target => convertLeaf target t
  | none => throw .conversion

/-- A term as one of a type. -/
def convertToType (goal : TypeId) (t : Term) : Lower Term := do convertTo (← shapeOfType goal) t

/-- Converts the scalar of a term, if it can be done without being asked for. -/
def convertLeafTo (target : Scalar) (t : Term) : Lower Term := do
  match Shape.leaf? (← types) (← shapeOfTerm t) with
  | none => throw .conversion
  | some s =>
    if s = target then return t
    else if Scalar.convertsTo s target then convertLeaf target t
    else throw .conversion

/-- The scalar that all terms convert to, if there is one. -/
def common? (terms : List Term) : Lower (Option Scalar) := do
  let scalars ← terms.mapM fun t => return Shape.scalarOf? (← shapeOfTerm t)
  match scalars with
  | some first :: rest => return rest.foldlM (fun best s => s.bind (Scalar.common? best)) first
  | _ => return none

/-- Makes a scalar operand a vector if the other one is a vector and the operator asks for it. -/
def splatOperands (op : BinaryOp) (l r : Term) : Lower (Term × Term) := do
  if !([.add, .subtract, .divide, .modulo] : List BinaryOp).contains op then return (l, r)
  match ← shapeOfTerm l, ← shapeOfTerm r with
  | .vector n _, .scalar _ => return (l, ← splat n r)
  | .scalar _, .vector n _ => return (← splat n l, r)
  | _, _ => return (l, r)

/-- An operation on loaded operands.  A shift takes a number of bits, whose type does not depend on what is
shifted; other operands get a common scalar if they have one. -/
def binary (op : BinaryOp) (l r : Term) : Lower Term := do
  let (l, r) ← splatOperands op l r
  if op = .shiftLeft ∨ op = .shiftRight then
    let r ← convertLeafTo .u32 r
    let l ← if r.value?.isSome then pure l else concretize l
    operation op l r
  else match ← common? [l, r] with
    | some s => operation op (← convertScalar s l) (← convertScalar s r)
    | none => operation op l r

/-- Whether values of a shape are pointers. -/
def isPointer : Shape → Bool
  | .pointer .. | .valuePointer .. => true
  | _ => false

/-- A part of a value or of what is in memory. -/
def partOf (base : Term) (known : Value → Evaluation Value) (e : ExprId → Expression) :
    Lower Term := do
  match base with
  | .reference pointer => .reference <$> push (e pointer)
  | base => computed [base] (onOne known) fun es => e (operand es 0)

/-- The number that an index is, if it is known in time for being used as one. -/
def knownIndex? (index : Term) : Lower (Option Nat) := do
  if (← deadline) = .pipeline then return none
  return index.value?.bind (Value.index? (← types))

/-- The element of a value by an index that has a type. -/
def element (base index : Term) : Lower Term := do
  match base with
  | .reference _ => pure ()
  | base => if isPointer (← shapeOfTerm base) then throw .pointer
  match ← knownIndex? index with
  | some i => partOf base (Value.part i) (.accessIndex · i)
  | none => match base with
    | .reference pointer => .reference <$> do push (.access pointer (← expression index))
    | base =>
      let types ← types
      let known := onTwo fun v i => match i.index? types with
        | some i => v.part i
        | none => throw .index
      computed [base, index] known fun es => .access (operand es 0) (operand es 1)

/-- The positions of the components that letters name: of a place, or of a color. -/
def componentsOf? (letters : String) : Option (List Nat) :=
  let positions (names : List Char) : Option (List Nat) :=
    letters.toList.mapM fun c => names.findIdx? (· == c)
  (positions ['x', 'y', 'z', 'w']).or (positions ['r', 'g', 'b', 'a'])

/-- The shape of a value, or of what is in memory. -/
def targetShape (t : Term) : Lower Shape := do
  match t, ← shapeOfTerm t with
  | .reference _, .pointer base _ => shapeOfType base
  | .reference _, .valuePointer none s _ => return .scalar s
  | .reference _, .valuePointer (some n) s _ => return .vector n s
  | _, shape => return shape

/-- The member of a struct, or components of a vector. -/
def member (base : Term) (field : String) : Lower Term := do
  match ← targetShape base with
  | .struct members _ =>
    match members.findIdx? (·.name == some field) with
    | some i => partOf base (Value.part i) (.accessIndex · i)
    | none => throw (.noMember field)
  | .vector .. =>
    match componentsOf? field with
    | some [i] => partOf base (Value.part i) (.accessIndex · i)
    | some pattern =>
      let some n := VectorSize.ofNat? pattern.length | throw (.noMember field)
      computed [← loaded base] (onOne (Value.swizzle n pattern)) fun es =>
        .swizzle n (operand es 0) pattern
    | none => throw (.noMember field)
  | _ => throw (.noMember field)

/-- The pointer to a place in memory. -/
def addressOf : Term → Lower Term
  | .reference pointer => return .plain pointer
  | _ => throw .notReference

/-- The place in memory that a pointer points to. -/
def dereference (t : Term) : Lower Term := do
  match t with
  | .plain e => if isPointer (← shapeOf e) then return .reference e else throw .notPointer
  | _ => throw .notPointer

end Lower

end ShaderKit.Wgsl
