import ShaderKit.Vertex.Pulling.Error

/-!
# Where attributes lie

Vertex buffers are read as arrays of words, so strides and offsets are turned into words first.  A state
whose strides or offsets are not whole words, or whose locations are out of range or repeated, is
refused.
-/

namespace ShaderKit.Vertex

/-- A vertex buffer in words. -/
structure WordBuffer where
  /-- Words between consecutive elements. -/
  stride : UInt32
  step : StepMode
  deriving DecidableEq

/-- Where an attribute's words start. -/
structure Placement where
  buffer : Nat
  format : Format
  firstWord : UInt32
  deriving DecidableEq

/-- The numbers of an attribute's words in an element, if 32 bits are enough for all of them. -/
def Placement.words? (p : Placement) : Option (List UInt32) :=
  if p.firstWord.toNat + p.format.words ≤ UInt32.size then
    some ((List.range p.format.words).map fun w => UInt32.ofNat (p.firstWord.toNat + w))
  else none

theorem Placement.words?_eq_some_iff {p : Placement} {words : List UInt32} :
    p.words? = some words ↔ p.firstWord.toNat + p.format.words ≤ UInt32.size ∧
      words = (List.range p.format.words).map fun w => UInt32.ofNat (p.firstWord.toNat + w) := by
  unfold words?
  split
  · rename_i hle
    rw [and_iff_right hle, Option.some.injEq, eq_comm]
  · rename_i hlt
    exact iff_of_false nofun fun h => hlt h.1

theorem Placement.words?_eq_none_iff {p : Placement} :
    p.words? = none ↔ ¬ p.firstWord.toNat + p.format.words ≤ UInt32.size := by
  unfold words?
  split
  · rename_i hle
    exact iff_of_false nofun (not_not_intro hle)
  · rename_i hlt
    exact iff_of_true rfl hlt

/-- A vertex state in words: the buffers by slot, and the attributes by location. -/
structure WordLayout where
  buffers : List WordBuffer := []
  attributes : List (Nat × Placement) := []
  deriving DecidableEq

/-- A byte count in whole words, if their number of words fits a word. -/
def inWords? (bytes : UInt64) : Option UInt32 :=
  if bytes / 4 < 0x100000000 then some (bytes / 4).toUInt32 else none

namespace WordLayout

/-- Adds an attribute of the buffer at slot `buffer`. -/
def addAttribute (buffer : Nat) (l : WordLayout) (a : Attribute) :
    Except PullingError WordLayout :=
  if a.offset % 4 ≠ 0 then .error (.offsetAlignment a.location a.offset)
  else match inWords? a.offset with
    | none => .error (.offsetSize a.location)
    | some firstWord =>
      if Limits.vertexAttributes ≤ a.location.toNat then .error (.locationOverLimit a.location)
      else if (l.attributes.lookup a.location.toNat).isSome then
        .error (.locationRepeated a.location)
      else .ok { l with
        attributes := l.attributes ++ [(a.location.toNat, ⟨buffer, a.format, firstWord⟩)] }

/-- Adds the next buffer slot with its attributes. -/
def addBuffer (l : WordLayout) (b : BufferLayout) : Except PullingError WordLayout :=
  let slot := l.buffers.length
  if b.stride % 4 ≠ 0 then .error (.strideAlignment slot b.stride)
  else match inWords? b.stride with
    | none => .error (.strideSize slot)
    | some stride =>
      b.attributes.foldlM (addAttribute slot)
        { l with buffers := l.buffers ++ [⟨stride, b.step⟩] }

/-- The state in words, slot by slot. -/
def ofState (state : State) : Except PullingError WordLayout :=
  if Limits.vertexBuffers < state.length then .error (.tooManyBuffers state.length)
  else state.foldlM addBuffer {}

end WordLayout

end ShaderKit.Vertex
