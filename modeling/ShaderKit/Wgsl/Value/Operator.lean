import ShaderKit.Wgsl.Value.Basic

/-!
# Operators on values

Operators go through a value component by component.  A single operand goes with every component of the
other one, and two vectors go together if their sizes are the same.
-/

namespace ShaderKit.Wgsl

open Ir (BinaryOp UnaryOp)

namespace Value

/-- Nesting that putting zeros and repeated components together can add to a value. -/
def expansionDepth : Nat := 4

/-- The result of an operator on a value that is nested less than `fuel` deep. -/
def unaryIn (op : UnaryOp) : Nat → Value → Evaluation Value
  | 0, _ => throw .unaryOperand
  | fuel + 1, v => do
    match ← composed v with
    | literal l => ofLiteral (do Literal.checked (← Literal.unary op l))
    | compose t components =>
      match ← Evaluation.shape? t with
      | some (.vector ..) | some (.matrix ..) =>
        return compose t (← components.mapM (unaryIn op fuel))
      | _ => throw .unaryOperand
    | _ => throw .unaryOperand

/-- An operator on one value. -/
def unary (op : UnaryOp) (v : Value) : Evaluation Value := unaryIn op (v.depth + expansionDepth) v

/-- Whether an operator compares. -/
def isComparison : BinaryOp → Bool
  | .equal | .notEqual | .less | .lessEqual | .greater | .greaterEqual => true
  | _ => false

/-- The result of an operator on values that are nested less than `fuel` deep, both together.  A value that
is composed keeps its type, but comparing vectors gives truth values. -/
def binaryIn (op : BinaryOp) : Nat → Value → Value → Evaluation Value
  | 0, _, _ => throw .operands
  | fuel + 1, l, r => do
    let l ← composed l
    let r ← composed r
    match l, r with
    | literal a, literal b => ofLiteral (Literal.binary op a b)
    | compose t components, literal b =>
      return compose t (← components.mapM (binaryIn op fuel · (literal b)))
    | literal a, compose t components =>
      return compose t (← components.mapM (binaryIn op fuel (literal a)))
    | compose t as, compose u bs =>
      match ← Evaluation.shape? t, ← Evaluation.shape? u with
      | some (.vector n s), some (.vector m s') =>
        if n ≠ m then throw .operands
        let result ← if isComparison op then Evaluation.intern (.vector n .bool) else pure t
        let pairs := (flattened (some (.vector n s)) as).zip (flattened (some (.vector m s')) bs)
        return compose result (← pairs.mapM fun (a, b) => binaryIn op fuel a b)
      | _, _ => throw .operands
    | _, _ => throw .operands

/-- An operator on two values. -/
def binary (op : BinaryOp) (l r : Value) : Evaluation Value := do
  let types := (← get).length
  binaryIn op (l.depth + r.depth + types + expansionDepth) l r

end Value

end ShaderKit.Wgsl
