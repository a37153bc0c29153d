import ShaderKit.Ir.Module

/-!
# Sizes and alignments

How much room a value of a type takes, and where it can start.  Sizes are 32-bit quantities: products
that do not fit are reduced.
-/

namespace ShaderKit.Ir

/-- The least multiple of `alignment` that is not below `n`. -/
def alignUp (alignment n : Nat) : Nat := (n + alignment - 1) / alignment * alignment

/-- Whether `n` is a multiple of `alignment`. -/
def isAligned (alignment n : Nat) : Bool := n % alignment == 0

/-- The number is one of the alignments that types can have. -/
def isPowerOfTwo (n : Nat) : Bool := [1, 2, 4, 8, 16, 32, 64, 128].contains n

/-- Slots that a vector is aligned to: three components are aligned like four. -/
def VectorSize.slots : VectorSize → Nat
  | two => 2
  | three | four => 4

/-- How many bytes a value takes, and where it may start. -/
structure Extent where
  size : Nat
  alignment : Nat
  deriving DecidableEq

/-- Bytes from one element to the next in an array without padding of its own. -/
def Extent.stride (e : Extent) : Nat := alignUp e.alignment e.size

/-- Bytes that a pointer takes. -/
def pointerSize : Nat := 4

namespace Shape

/-- The size of a type; a runtime array counts as one element. -/
def size : Shape → Nat
  | scalar s | atomic s => s.width
  | vector n s => n.toNat * s.width
  | matrix columns rows s => rows.slots * s.width * columns.toNat
  | pointer .. | valuePointer .. => pointerSize
  | array _ count stride =>
    let count := match count with
      | .constant n => n
      | .pending _ | .dynamic => 1
    count * stride % twoPow 32
  | struct _ span => span
  | image .. | sampler _ | bindingArray .. | accelerationStructure | rayQuery => 0

/-- The alignment of a type, given those of the types before it; none if a type in it has none. -/
def alignment? (known : List Extent) : Shape → Option Nat
  | scalar s | atomic s => if isPowerOfTwo s.width then some s.width else none
  | vector n s => if isPowerOfTwo s.width then some (n.slots * s.width) else none
  | matrix _ rows s => if isPowerOfTwo s.width then some (rows.slots * s.width) else none
  | array base _ _ => (known[base]?).map (·.alignment)
  | struct members _ => members.foldlM (fun a m => do
      let e ← known[m.type]?
      return max a e.alignment) 1
  | pointer .. | valuePointer .. | image .. | sampler _ | bindingArray .. | accelerationStructure
  | rayQuery => some 1

end Shape

/-- Extents of all types, in order; none if some type cannot be laid out.  A type is laid out after the
types that it is made of. -/
def extents? (types : List TypeInfo) : Option (List Extent) :=
  types.foldlM (fun known t => do
    let alignment ← t.shape.alignment? known
    return known ++ [⟨t.shape.size, alignment⟩]) []

/-- The extent of one type. -/
def extent? (types : List TypeInfo) (t : TypeId) : Option Extent := do
  (← extents? types)[t]?

end ShaderKit.Ir
