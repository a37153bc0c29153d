import ShaderKit.Ir.Module

/-!
# Values of expressions

What the expressions of a function stand for, for the part of the typed representation that moves words
from buffers into the arguments of a call: literals, arguments, integer sums and products, loads from
arrays of words, bit fields, unpacked numbers, vectors and structs.  Anything else has no value here.

Floats are kept as bits.  How packed numbers become floats, and what a load outside of a buffer gives, is
left open.

## Key results

- `Invocation.eval_mono`: more operands never change a value
- `Invocation.eval_of_isPreEmitted`: what is in scope everywhere has its value everywhere
-/

namespace ShaderKit.Ir

/-- A value of shader code.  A pointer names a global variable, or one element of it. -/
inductive Value
  | scalar (kind : ScalarKind) (bits : UInt32)
  | composite (components : List Value)
  | pointer (global : GlobalId) (element : Option UInt32)

/-- The scalars that a scalar or a vector is made of. -/
def Value.parts : Value → List Value
  | .composite components => components
  | v => [v]

/-- How packed numbers become the bits of floats. -/
structure ScalarConversions where
  unorm8 : UInt8 → UInt32
  snorm8 : UInt8 → UInt32
  unorm16 : UInt16 → UInt32
  snorm16 : UInt16 → UInt32
  float16 : UInt16 → UInt32

/-- What shader code runs on. -/
structure Machine where
  /-- The words of each buffer. -/
  buffer : ResourceBinding → List UInt32
  /-- What is read where a buffer has no word. -/
  outside : ResourceBinding → UInt32 → UInt32
  conversions : ScalarConversions
  /-- What the functions of the module return. -/
  call : FunctionId → List Value → Value

/-- One run of a function of a module. -/
structure Invocation where
  machine : Machine
  module : Module
  arguments : List Value

/-- The bytes of a word, lowest first. -/
def wordBytes (w : UInt32) : List UInt8 :=
  [w.toUInt8, (w >>> 8).toUInt8, (w >>> 16).toUInt8, (w >>> 24).toUInt8]

/-- The halves of a word, lowest first. -/
def wordHalves (w : UInt32) : List UInt16 := [w.toUInt16, (w >>> 16).toUInt16]

/-- The field of `count` bits at bit `offset`, as much of it as there is, with its sign extended if it is
signed. -/
def bitField (signed : Bool) (bits offset count : UInt32) : UInt32 :=
  let first := min offset.toNat 32
  let field := bits.toBitVec.extractLsb' first (min count.toNat (32 - first))
  ⟨if signed then field.signExtend 32 else field.setWidth 32⟩

/-- Literals of 32 bits have values; the others stand for none here. -/
def Literal.value? : Literal → Option Value
  | .u32 v => some (.scalar .uint v)
  | .i32 v => some (.scalar .sint v.toUInt32)
  | .f32 bits => some (.scalar .float bits)
  | _ => none

/-- The floats that a packed word stands for. -/
def unpacked? (c : ScalarConversions) (w : UInt32) : MathFunction → Option (List UInt32)
  | .unpack4x8unorm => some ((wordBytes w).map c.unorm8)
  | .unpack4x8snorm => some ((wordBytes w).map c.snorm8)
  | .unpack2x16unorm => some ((wordHalves w).map c.unorm16)
  | .unpack2x16snorm => some ((wordHalves w).map c.snorm16)
  | .unpack2x16float => some ((wordHalves w).map c.float16)
  | _ => none

/-- Integer arithmetic wraps around. -/
def wrapping? : BinaryOp → Option (UInt32 → UInt32 → UInt32)
  | .add => some (· + ·)
  | .subtract => some (· - ·)
  | .multiply => some (· * ·)
  | _ => none

namespace Invocation

variable (c : Invocation)

/-- An element of a global variable that is an array of words. -/
def word? (g : GlobalId) (i : UInt32) : Option Value := do
  let v ← c.module.globals[g]?
  let binding ← v.binding
  let .array base .dynamic 4 ← c.module.shape? v.type | none
  let .scalar ⟨kind, 4⟩ ← c.module.shape? base | none
  return .scalar kind ((c.machine.buffer binding)[i.toNat]?.getD (c.machine.outside binding i))

/-- The value that components make up. -/
def composed? (shape : Shape) (values : List Value) : Option Value :=
  match shape with
  | .vector size _ =>
    if (values.flatMap Value.parts).length = size.toNat then
      some (.composite (values.flatMap Value.parts))
    else none
  | .struct members _ => if values.length = members.length then some (.composite values) else none
  | _ => none

/-- The value of an expression whose operands have the values `operand`. -/
def eval (operand : ExprId → Option Value) : Expression → Option Value
  | .literal value => value.value?
  | .argument index => c.arguments[index]?
  | .global g => some (.pointer g none)
  | .binary op left right => do
    let .scalar kind a ← operand left | none
    let .scalar kind' b ← operand right | none
    if kind = kind' ∧ (kind = .uint ∨ kind = .sint) then
      return .scalar kind ((← wrapping? op) a b)
    else none
  | .access base index => do
    let .pointer g none ← operand base | none
    let .scalar .uint i ← operand index | none
    return .pointer g (some i)
  | .accessIndex base index => do
    let .composite components ← operand base | none
    components[index]?
  | .load pointer => do
    let .pointer g (some i) ← operand pointer | none
    c.word? g i
  | .convert operand' kind none => do
    let .scalar _ bits ← operand operand' | none
    return .scalar kind bits
  | .math .extractBits arg (some offset) (some count) none => do
    let .scalar kind bits ← operand arg | none
    let .scalar .uint offset ← operand offset | none
    let .scalar .uint count ← operand count | none
    match kind with
    | .uint => return .scalar .uint (bitField false bits offset count)
    | .sint => return .scalar .sint (bitField true bits offset count)
    | _ => none
  | .math f arg none none none => do
    let .scalar .uint bits ← operand arg | none
    return .composite ((← unpacked? c.machine.conversions bits f).map (.scalar .float))
  | .compose type components => do
    let values ← components.mapM operand
    composed? (← c.module.shape? type) values
  | _ => none

variable {c}

/-- Operands that have values under both readings have the same ones. -/
theorem mapM_mono {operand operand' : ExprId → Option Value}
    (h : ∀ e v, operand e = some v → operand' e = some v) {es : List ExprId} {vs : List Value}
    (hv : es.mapM operand = some vs) : es.mapM operand' = some vs := by
  induction es generalizing vs with
  | nil => exact hv
  | cons e rest ih =>
    simp only [List.mapM_cons, Option.bind_eq_bind, Option.bind_eq_some_iff] at hv ⊢
    obtain ⟨v, hv, ws, hws, hvs⟩ := hv
    exact ⟨v, h e v hv, ws, ih hws, hvs⟩

/-- A chain keeps its value when both of its parts keep theirs. -/
private theorem bind_mono {α : Type} {x y : Option α} {f g : α → Option Value} {v : Value}
    (h : x.bind f = some v) (hx : ∀ a, x = some a → y = some a)
    (hf : ∀ a, f a = some v → g a = some v) : y.bind g = some v := by
  obtain ⟨a, ha, hv⟩ := Option.bind_eq_some_iff.1 h
  rw [hx a ha]
  exact hf a hv

/-- More operands never change a value. -/
theorem eval_mono {operand operand' : ExprId → Option Value}
    (h : ∀ e v, operand e = some v → operand' e = some v) {x : Expression} {v : Value}
    (hv : c.eval operand x = some v) : c.eval operand' x = some v := by
  unfold eval at hv ⊢
  -- one case for each kind of expression that has a value, operand by operand
  split at hv
  · exact hv
  · exact hv
  · exact hv
  · rename_i op left right
    refine bind_mono hv (h left) fun a ha => ?_
    split at ha
    · exact bind_mono ha (h right) fun b hb => hb
    · exact nomatch ha
  · rename_i base index
    refine bind_mono hv (h base) fun a ha => ?_
    split at ha
    · exact bind_mono ha (h index) fun b hb => hb
    · exact nomatch ha
  · exact bind_mono hv (h _) fun a ha => ha
  · exact bind_mono hv (h _) fun a ha => ha
  · exact bind_mono hv (h _) fun a ha => ha
  · rename_i arg offset count
    refine bind_mono hv (h arg) fun a ha => ?_
    split at ha
    · refine bind_mono ha (h offset) fun b hb => ?_
      split at hb
      · exact bind_mono hb (h count) fun d hd => hd
      · exact nomatch hb
    · exact nomatch ha
  · exact bind_mono hv (h _) fun a ha => ha
  · exact bind_mono hv (fun vs hvs => mapM_mono h hvs) fun vs hvs => hvs
  · exact nomatch hv

/-- What is in scope everywhere has its value everywhere. -/
theorem eval_of_isPreEmitted {x : Expression} (h : x.isPreEmitted = true)
    (operand operand' : ExprId → Option Value) : c.eval operand x = c.eval operand' x := by
  cases x with
  | literal value => rfl
  | argument index => rfl
  | global g => rfl
  | constant constant => rfl
  | overridden override => rfl
  | zero type => rfl
  | localVar variable_ => rfl
  | _ => exact nomatch h

end Invocation

end ShaderKit.Ir
