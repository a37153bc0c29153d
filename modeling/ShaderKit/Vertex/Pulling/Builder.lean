import ShaderKit.Ir.Module
import ShaderKit.Vertex.Pulling.Placement

/-!
# Building the code that fetches attributes

The new entry function is a list of expressions and a list of statements that bring them into scope.
`Builder.push` adds an expression; runs of expressions between literals and variables become one `emit`
statement each.  The expressions for a buffer and for the start of its current element are made once and
shared.
-/

namespace ShaderKit.Vertex

open Ir

/-- A function body under construction. -/
structure Builder where
  expressions : List Expression := []
  /-- First expression that no statement has brought into scope. -/
  pending : Option ExprId := none
  body : List Statement := []
  /-- The expression of each buffer used so far. -/
  buffers : List (Nat × ExprId) := []
  /-- The first word of the current element of each buffer used so far. -/
  bases : List (Nat × ExprId) := []

/-- What the new entry function can use. -/
structure PullingScope where
  types : List TypeInfo
  layout : WordLayout
  /-- The global variable of vertex buffer 0; the others follow. -/
  firstBuffer : GlobalId
  vertexIndex : ExprId
  instanceIndex : ExprId

/-- An action that adds to a function body. -/
abbrev Build := StateM Builder

namespace Builder

/-- Brings the pending expressions into scope. -/
def flush (b : Builder) : Builder :=
  match b.pending with
  | none => b
  | some first =>
    { b with pending := none
             body := b.body ++ [.emit (some (first, b.expressions.length - 1))] }

/-- Adds an expression. -/
def push (e : Expression) : Build ExprId := fun b =>
  let b :=
    if e.isPreEmitted then b.flush
    else { b with pending := some (b.pending.getD b.expressions.length) }
  (b.expressions.length, { b with expressions := b.expressions ++ [e] })

end Builder

namespace Build

open Builder (push)

/-- A word as a literal. -/
def word (value : UInt32) : Build ExprId := push (.literal (.u32 value))

/-- What a component that the attribute lacks reads as: one in the fourth place, else zero. -/
def paddingLiteral (kind : ScalarKind) (component : Nat) : Literal :=
  match kind with
  | .float => .f32 (if component = 3 then 0x3f800000 else 0)
  | .sint => .i32 (if component = 3 then 1 else 0)
  | _ => .u32 (if component = 3 then 1 else 0)

/-- The first word of the buffer's current element. -/
def elementBase (s : PullingScope) (slot : Nat) : Build ExprId := do
  match (← get).bases.lookup slot with
  | some base => return base
  | none =>
    let buffer := s.layout.buffers[slot]?.getD ⟨0, .perVertex⟩
    let index := match buffer.step with
      | .perVertex => s.vertexIndex
      | .perInstance => s.instanceIndex
    let stride ← word buffer.stride
    let base ← push (.binary .multiply index stride)
    modify fun b => { b with bases := (slot, base) :: b.bases }
    return base

/-- The buffer as a variable. -/
def bufferVariable (s : PullingScope) (slot : Nat) : Build ExprId := do
  match (← get).buffers.lookup slot with
  | some buffer => return buffer
  | none =>
    let buffer ← push (.global (s.firstBuffer + slot))
    modify fun b => { b with buffers := (slot, buffer) :: b.buffers }
    return buffer

/-- A word of the buffer's current element. -/
def loadWord (s : PullingScope) (slot : Nat) (wordIndex : UInt32) : Build ExprId := do
  let base ← elementBase s slot
  let buffer ← bufferVariable s slot
  let offset ← word wordIndex
  let index ← push (.binary .add base offset)
  let pointer ← push (.access buffer index)
  push (.load pointer)

/-- The bits of a word as a number of another kind. -/
def bitcast (kind : ScalarKind) (e : ExprId) : Build ExprId := push (.convert e kind none)

/-- The first components of what a packed word stands for. -/
def unpack (f : MathFunction) (packed : ExprId) (count : Nat) : Build (List ExprId) := do
  let vector ← push (.math f packed none none none)
  (List.range count).mapM fun i => push (.accessIndex vector i)

/-- The field of `bits` bits at bit `offset`, with its sign extended if it is signed. -/
def extractBits (packed : ExprId) (offset : UInt32) (signed : Bool) (bits : UInt32) :
    Build ExprId := do
  let value ← if signed then bitcast .sint packed else pure packed
  let offset ← word offset
  let count ← word bits
  push (.math .extractBits value (some offset) (some count) none)

/-- How the words of an attribute become components. -/
inductive Decoding
  /-- Each word is a component. -/
  | words
  /-- The bits of each word are a component. -/
  | bits (kind : ScalarKind)
  /-- The only word holds all components. -/
  | packed (function : MathFunction)
  /-- Each word holds two components. -/
  | packedPairs (function : MathFunction)
  /-- Components are bit fields. -/
  | fields (signed : Bool) (width : Nat)
  deriving DecidableEq

/-- Every format is read in one of five ways. -/
def decoding : Format → Decoding
  | .float32 | .float32x2 | .float32x3 | .float32x4 => .bits .float
  | .uint32 | .uint32x2 | .uint32x3 | .uint32x4 => .words
  | .sint32 | .sint32x2 | .sint32x3 | .sint32x4 => .bits .sint
  | .unorm8x2 | .unorm8x4 => .packed .unpack4x8unorm
  | .snorm8x2 | .snorm8x4 => .packed .unpack4x8snorm
  | .unorm16x2 | .unorm16x4 => .packedPairs .unpack2x16unorm
  | .snorm16x2 | .snorm16x4 => .packedPairs .unpack2x16snorm
  | .float16x2 | .float16x4 => .packedPairs .unpack2x16float
  | .uint8x2 | .uint8x4 => .fields false 8
  | .sint8x2 | .sint8x4 => .fields true 8
  | .uint16x2 | .uint16x4 => .fields false 16
  | .sint16x2 | .sint16x4 => .fields true 16

/-- The components that the format's words hold. -/
def components (format : Format) (words : List ExprId) : Build (List ExprId) :=
  match decoding format with
  | .words => return words
  | .bits kind => words.mapM (bitcast kind)
  | .packed f => unpack f (words.headD 0) format.components
  | .packedPairs f => return (← words.mapM fun w => unpack f w 2).flatten
  | .fields signed width =>
    let perWord := 32 / width
    (List.range format.components).mapM fun i =>
      extractBits (words.getD (i / perWord) 0) (UInt32.ofNat (i % perWord * width)) signed
        (UInt32.ofNat width)

/-- The components of an attribute, as many as its format has, from the words of these numbers. -/
def fetch (s : PullingScope) (p : Placement) (words : List UInt32) : Build (List ExprId) := do
  components p.format (← words.mapM (loadWord s p.buffer))

/-- Fills up with what missing components read as, and leaves out what is too much. -/
def fit (kind : ScalarKind) (count : Nat) (values : List ExprId) : Build (List ExprId) := do
  let missing ← ((List.range count).drop values.length).mapM fun i =>
    push (.literal (paddingLiteral kind i))
  return (values ++ missing).take count

end Build

end ShaderKit.Vertex
