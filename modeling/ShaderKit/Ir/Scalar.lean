/-!
# Scalars and literals

Numbers and truth values as shader code knows them.  Floats are kept as bit patterns, so that equality
of literals is decidable and no rounding happens by accident.
-/

namespace ShaderKit.Ir

/-- The number of values that `bits` bits have. -/
def twoPow (bits : Nat) : Nat := Nat.pow 2 bits

/-- Abstract kinds belong to constants that have not been given a width. -/
inductive ScalarKind
  | sint | uint | float | bool | abstractInt | abstractFloat
  deriving DecidableEq

/-- A scalar type; `width` is in bytes. -/
structure Scalar where
  kind : ScalarKind
  width : Nat
  deriving DecidableEq

namespace Scalar

/-- A signed integer of four bytes. -/
def i32 : Scalar := ⟨.sint, 4⟩

/-- An unsigned integer of four bytes. -/
def u32 : Scalar := ⟨.uint, 4⟩

/-- A float of four bytes. -/
def f32 : Scalar := ⟨.float, 4⟩

/-- A signed integer of eight bytes. -/
def i64 : Scalar := ⟨.sint, 8⟩

/-- An unsigned integer of eight bytes. -/
def u64 : Scalar := ⟨.uint, 8⟩

/-- A float of eight bytes. -/
def f64 : Scalar := ⟨.float, 8⟩

/-- A truth value. -/
def bool : Scalar := ⟨.bool, 1⟩

/-- An integer whose type is still open. -/
def abstractInt : Scalar := ⟨.abstractInt, 8⟩

/-- A float whose type is still open. -/
def abstractFloat : Scalar := ⟨.abstractFloat, 8⟩

/-- The type is still open. -/
def isAbstract (s : Scalar) : Bool := s.kind == .abstractInt || s.kind == .abstractFloat

end Scalar

namespace ScalarKind

/-- Scalars of this kind are numbers. -/
def isNumeric : ScalarKind → Bool
  | bool => false
  | _ => true

/-- Integers of either sign, abstract ones included. -/
def isInteger : ScalarKind → Bool
  | sint | uint | abstractInt => true
  | _ => false

/-- Scalars of this kind are floats. -/
def isFloat : ScalarKind → Bool
  | float | abstractFloat => true
  | _ => false

end ScalarKind

/-- How many components a vector has. -/
inductive VectorSize
  | two | three | four
  deriving DecidableEq

namespace VectorSize

/-- The size as a number. -/
def toNat : VectorSize → Nat
  | two => 2
  | three => 3
  | four => 4

/-- The size that the number is. -/
def ofNat? : Nat → Option VectorSize
  | 2 => some two
  | 3 => some three
  | 4 => some four
  | _ => none

theorem ofNat?_toNat (s : VectorSize) : ofNat? s.toNat = some s := by cases s <;> rfl

theorem toNat_of_ofNat? {n : Nat} {s : VectorSize} (h : ofNat? n = some s) : s.toNat = n := by
  unfold ofNat? at h
  split at h <;> simp_all [toNat] <;> subst h <;> rfl

end VectorSize

/-- A value of scalar type.  Floats are given by their bits. -/
inductive Literal
  | u32 (value : UInt32)
  | i32 (value : Int32)
  | f32 (bits : UInt32)
  | u64 (value : UInt64)
  | i64 (value : Int64)
  | f64 (bits : UInt64)
  | bool (value : Bool)
  | abstractInt (value : Int64)
  | abstractFloat (bits : UInt64)
  deriving DecidableEq

namespace Literal

/-- The scalar type of a literal. -/
def scalar : Literal → Scalar
  | u32 _ => .u32
  | i32 _ => .i32
  | f32 _ => .f32
  | u64 _ => .u64
  | i64 _ => .i64
  | f64 _ => .f64
  | bool _ => .bool
  | abstractInt _ => .abstractInt
  | abstractFloat _ => .abstractFloat

/-- The zero of a scalar type. -/
def zero? (s : Scalar) : Option Literal :=
  [.u32 0, .i32 0, .f32 0, .u64 0, .i64 0, .f64 0, .bool false, .abstractInt 0,
    .abstractFloat 0].find? fun l : Literal => l.scalar == s

end Literal

end ShaderKit.Ir
