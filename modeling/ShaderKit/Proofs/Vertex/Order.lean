import ShaderKit.Proofs.Std.Growth
import ShaderKit.Vertex.Pulling.EntryPoint

/-!
# The order in which a builder brings expressions into scope

What each step of a builder does to it, and the order of what its body emits.  A builder is ordered when its
emit statements name ascending ranges that hold all expressions but the pending ones and those that are in
scope from the start.  Adding an expression keeps a builder ordered, whatever the expression is.

## Key results

- `Builder.push_of_preEmitted`, `Builder.push_of_waiting`: what adding an expression does
- `Build.grows_elementBase`, `Build.grows_bufferVariable`: what is kept for a buffer is computed once
- `Builder.Ordered.flush`, `Builder.Ordered.push`: flushing and adding an expression keep the order
-/

namespace ShaderKit.Vertex

open Ir

namespace Builder

variable {b : Builder} {x : Expression}

/-! ### What each step does -/

@[simp] theorem flush_expressions (b : Builder) : b.flush.expressions = b.expressions := by
  unfold flush
  split <;> rfl

@[simp] theorem flush_pending (b : Builder) : b.flush.pending = none := by
  unfold flush
  split
  · assumption
  · rfl

@[simp] theorem flush_bases (b : Builder) : b.flush.bases = b.bases := by
  unfold flush
  split <;> rfl

@[simp] theorem flush_buffers (b : Builder) : b.flush.buffers = b.buffers := by
  unfold flush
  split <;> rfl

theorem flush_of_pending {first : ExprId} (h : b.pending = some first) :
    b.flush = { b with
      pending := none
      body := b.body ++ [.emit (some (first, b.expressions.length - 1))] } := by
  simp [flush, h]

theorem flush_of_none (h : b.pending = none) : b.flush = b := by
  simp [flush, h]

/-- The expressions that are not pending come first; this is their number. -/
def settled (b : Builder) : Nat := b.pending.getD b.expressions.length

@[simp] theorem flush_settled (b : Builder) : b.flush.settled = b.expressions.length := by
  simp [settled]

/-- An expression that is in scope from the start ends the pending ones. -/
theorem push_of_preEmitted (h : x.isPreEmitted = true) :
    push x b = (b.expressions.length, { b.flush with expressions := b.expressions ++ [x] }) := by
  simp [push, h]

/-- An expression that waits for a statement joins those that wait. -/
theorem push_of_waiting (h : x.isPreEmitted = false) :
    push x b = (b.expressions.length,
      { b with expressions := b.expressions ++ [x], pending := some b.settled }) := by
  simp [push, h, settled]

/-- The call's result comes after all other expressions. -/
theorem finish_expressions (b : Builder) (inner : FunctionId) (arguments : List ExprId)
    (hasResult : Bool) : (b.finish inner arguments hasResult).expressions =
      b.expressions ++ if hasResult then [Expression.callResult inner] else [] := by
  cases hasResult <;> simp [finish]

/-- The call comes after all that the body emits, and what it gives is returned. -/
theorem finish_body (b : Builder) (inner : FunctionId) (arguments : List ExprId) (hasResult : Bool) :
    (b.finish inner arguments hasResult).body = b.flush.body ++
      [.call inner arguments (if hasResult then some b.expressions.length else none),
        .ret (if hasResult then some b.expressions.length else none)] := by
  cases hasResult <;> simp [finish]

/-- A finished function has the expressions of the builder, and the call's result if there is one. -/
theorem finish_getElem?_eq_some_iff {inner : FunctionId} {arguments : List ExprId} {hasResult : Bool}
    {e : Nat} : (b.finish inner arguments hasResult).expressions[e]? = some x ↔
      b.expressions[e]? = some x ∨
        hasResult = true ∧ e = b.expressions.length ∧ x = .callResult inner := by
  rw [finish_expressions]
  cases hasResult with
  | false => simp
  | true =>
    simp only [if_true, true_and]
    -- the result of the call stands right behind the expressions of the builder
    by_cases he : e < b.expressions.length
    · rw [List.getElem?_append_left he]
      exact ⟨.inl, fun h => h.resolve_right fun h => absurd h.1 (Nat.ne_of_lt he)⟩
    · rw [List.getElem?_eq_none (Nat.le_of_not_lt he), List.getElem?_append_right (Nat.le_of_not_lt he),
        List.getElem?_singleton]
      split
      · rename_i hzero
        have heq : e = b.expressions.length := by omega
        simp [heq, eq_comm]
      · rename_i hpos
        have hne : e ≠ b.expressions.length := by omega
        simp [hne]

theorem push_fst (x : Expression) (b : Builder) : (push x b).1 = b.expressions.length := by
  cases h : x.isPreEmitted with
  | true => rw [push_of_preEmitted h]
  | false => rw [push_of_waiting h]

theorem push_expressions (x : Expression) (b : Builder) :
    (push x b).2.expressions = b.expressions ++ [x] := by
  cases h : x.isPreEmitted with
  | true => rw [push_of_preEmitted h]
  | false => rw [push_of_waiting h]

theorem push_bases (x : Expression) (b : Builder) : (push x b).2.bases = b.bases := by
  cases h : x.isPreEmitted with
  | true => rw [push_of_preEmitted h, flush_bases]
  | false => rw [push_of_waiting h]

theorem push_buffers (x : Expression) (b : Builder) : (push x b).2.buffers = b.buffers := by
  cases h : x.isPreEmitted with
  | true => rw [push_of_preEmitted h, flush_buffers]
  | false => rw [push_of_waiting h]

end Builder

/-- The argument by which a buffer advances. -/
def PullingScope.indexFor (s : PullingScope) : StepMode → ExprId
  | .perVertex => s.vertexIndex
  | .perInstance => s.instanceIndex

namespace Build

variable {s : PullingScope} {b : Builder} {slot : Nat} {e : ExprId}

/-- The first word of the buffer's current element, computed and kept. -/
def newBase (s : PullingScope) (slot : Nat) : Build ExprId := do
  let buffer := s.layout.buffers[slot]?.getD ⟨0, .perVertex⟩
  let stride ← word buffer.stride
  let base ← Builder.push (.binary .multiply (s.indexFor buffer.step) stride)
  modify fun b => { b with bases := (slot, base) :: b.bases }
  return base

/-- The buffer as a variable, named and kept. -/
def newBuffer (s : PullingScope) (slot : Nat) : Build ExprId := do
  let buffer ← Builder.push (.global (s.firstBuffer + slot))
  modify fun b => { b with buffers := (slot, buffer) :: b.buffers }
  return buffer

theorem elementBase_of_kept (h : b.bases.lookup slot = some e) : elementBase s slot b = (e, b) := by
  simp only [elementBase, h, get, getThe, MonadStateOf.get, StateT.get, bind, StateT.bind, pure]
  rfl

theorem elementBase_of_new (h : b.bases.lookup slot = none) :
    elementBase s slot b = newBase s slot b := by
  simp only [elementBase, h, get, getThe, MonadStateOf.get, StateT.get, bind, StateT.bind, pure]
  rfl

theorem bufferVariable_of_kept (h : b.buffers.lookup slot = some e) :
    bufferVariable s slot b = (e, b) := by
  simp only [bufferVariable, h, get, getThe, MonadStateOf.get, StateT.get, bind, StateT.bind, pure]
  rfl

theorem bufferVariable_of_new (h : b.buffers.lookup slot = none) :
    bufferVariable s slot b = newBuffer s slot b := by
  simp only [bufferVariable, h, get, getThe, MonadStateOf.get, StateT.get, bind, StateT.bind, pure]
  rfl

variable {γ : Type} {I : Builder → List γ → Prop} {xs : List γ} {post : List γ → ExprId → Prop}

/-- What holds of a base that is kept and of one that is computed holds of the base. -/
theorem grows_elementBase (hkept : ∀ b e, I b xs → b.bases.lookup slot = some e → post xs e)
    (hnew : Grows I (newBase s slot) xs post) : Grows I (elementBase s slot) xs post := by
  intro b hb
  cases hl : b.bases.lookup slot with
  | some base =>
    rw [elementBase_of_kept hl]
    exact ⟨xs, List.prefix_refl xs, hb, hkept b base hb hl⟩
  | none =>
    rw [elementBase_of_new hl]
    exact hnew b hb

/-- What holds of a variable that is kept and of one that is named holds of the variable. -/
theorem grows_bufferVariable (hkept : ∀ b e, I b xs → b.buffers.lookup slot = some e → post xs e)
    (hnew : Grows I (newBuffer s slot) xs post) : Grows I (bufferVariable s slot) xs post := by
  intro b hb
  cases hl : b.buffers.lookup slot with
  | some buffer =>
    rw [bufferVariable_of_kept hl]
    exact ⟨xs, List.prefix_refl xs, hb, hkept b buffer hb hl⟩
  | none =>
    rw [bufferVariable_of_new hl]
    exact hnew b hb

end Build

namespace Builder

/-! ### The order of emit statements -/

/-- The body emits the ranges one after another, and they hold the expressions that are neither pending nor
in scope from the start. -/
structure Ordered (b : Builder) (ranges : List (Nat × Nat)) : Prop where
  body : b.body = ranges.map fun range => .emit (some range)
  nonempty : ∀ range ∈ ranges, range.1 ≤ range.2
  ascending : ranges.Pairwise fun range later => range.2 < later.1
  bounded : ∀ range ∈ ranges, range.2 < b.settled
  covered : ∀ (e : Nat) x, b.expressions[e]? = some x →
    ((∃ range ∈ ranges, range.1 ≤ e ∧ e ≤ range.2) ↔ e < b.settled ∧ x.isPreEmitted = false)
  pending : ∀ first : Nat, b.pending = some first → first < b.expressions.length ∧
    ∀ (e : Nat) x, first ≤ e → b.expressions[e]? = some x → x.isPreEmitted = false

namespace Ordered

variable {b : Builder} {ranges : List (Nat × Nat)}

theorem settled_le (h : b.Ordered ranges) : b.settled ≤ b.expressions.length := by
  unfold settled
  cases hp : b.pending with
  | none => exact Nat.le_refl _
  | some first => exact Nat.le_of_lt (h.pending first hp).1

/-- Flushing emits what is pending as one more range. -/
theorem flush (h : b.Ordered ranges) : ∃ ranges', b.flush.Ordered ranges' := by
  cases hp : b.pending with
  | none => exact ⟨ranges, (flush_of_none hp).symm ▸ h⟩
  | some first =>
    obtain ⟨hfirst, hwaiting⟩ := h.pending first hp
    -- the ranges so far end before what is pending, and the new one holds just that
    have hsettled : b.settled = first := by simp [settled, hp]
    refine ⟨ranges ++ [(first, b.expressions.length - 1)], ?_⟩
    rw [flush_of_pending hp]
    refine ⟨by simp [h.body], ?_, ?_, ?_, fun e x hx => ?_, nofun⟩
    · rintro range hmem
      rcases List.mem_append.1 hmem with hmem | hmem
      · exact h.nonempty range hmem
      · rw [List.mem_singleton.1 hmem]
        exact Nat.le_sub_one_of_lt hfirst
    · refine List.pairwise_append.2
        ⟨h.ascending, List.pairwise_singleton .., fun range hmem later hlater => ?_⟩
      rw [List.mem_singleton.1 hlater, ← hsettled]
      exact h.bounded range hmem
    · intro range hmem
      simp only [settled, Option.getD_none]
      rcases List.mem_append.1 hmem with hmem | hmem
      · exact Nat.lt_trans (hsettled ▸ h.bounded range hmem) hfirst
      · rw [List.mem_singleton.1 hmem]
        exact Nat.sub_one_lt (Nat.ne_of_gt (Nat.zero_lt_of_lt hfirst))
    · -- an expression lies in the new range exactly if it was pending
      have hlt : e < b.expressions.length := (List.getElem?_eq_some_iff.1 hx).1
      have hold := h.covered e x hx
      simp only [settled, Option.getD_none, List.mem_append, List.mem_singleton, or_and_right,
        exists_or, exists_eq_left, hlt, true_and]
      rw [hold, hsettled]
      by_cases he : first ≤ e
      · have hpre := hwaiting e x he hx
        exact iff_of_true (.inr ⟨he, Nat.le_sub_one_of_lt hlt⟩) hpre
      · simp [he, Nat.lt_of_not_le he]

/-- An expression that was added stands at the end. -/
private theorem eq_of_concat {xs : List Expression} {x y : Expression} {e : Nat}
    (hy : (xs ++ [x])[e]? = some y) (he : ¬ e < xs.length) : e = xs.length ∧ x = y := by
  have hlt := (List.getElem?_eq_some_iff.1 hy).1
  rw [List.length_append, List.length_singleton] at hlt
  obtain rfl : e = xs.length := by omega
  exact ⟨rfl, by simpa using hy⟩

/-- Adding an expression that is in scope from the start keeps the order. -/
private theorem push_preEmitted (h : b.Ordered ranges) {x : Expression} (hpre : x.isPreEmitted = true) :
    ∃ ranges', { b.flush with expressions := b.expressions ++ [x] }.Ordered ranges' := by
  obtain ⟨ranges', hf⟩ := h.flush
  have hsettled := flush_settled b
  -- the flush has emitted what was pending, and the new expression adds no range
  refine ⟨ranges', hf.body, hf.nonempty, hf.ascending, fun range hmem => ?_, fun e y hy => ?_, ?_⟩
  · have hbound := hf.bounded range hmem
    simp only [settled, flush_pending, Option.getD_none, List.length_append, List.length_singleton]
    omega
  · simp only [settled, flush_pending, Option.getD_none, List.length_append, List.length_singleton]
    by_cases he : e < b.expressions.length
    · rw [List.getElem?_append_left he, ← flush_expressions b] at hy
      rw [hf.covered e y hy, hsettled]
      simp [he, Nat.lt_succ_of_lt he]
    · -- the new expression is behind all ranges, and never has to be emitted
      obtain ⟨rfl, rfl⟩ := eq_of_concat hy he
      refine iff_of_false ?_ (by simp [hpre])
      rintro ⟨range, hmem, _, hle⟩
      exact Nat.not_lt.2 hle (hsettled ▸ hf.bounded range hmem)
  · intro first hfirst
    exact nomatch (flush_pending b).symm.trans hfirst

/-- Adding an expression that waits for a statement keeps the order. -/
private theorem push_waiting (h : b.Ordered ranges) {x : Expression} (hpre : x.isPreEmitted = false) :
    { b with expressions := b.expressions ++ [x], pending := some b.settled }.Ordered ranges := by
  have hle := h.settled_le
  -- the body and what is settled stay as they are, so the ranges do
  refine ⟨h.body, h.nonempty, h.ascending, h.bounded, fun e y hy => ?_, ?_⟩
  · show _ ↔ e < b.settled ∧ _
    by_cases he : e < b.expressions.length
    · rw [List.getElem?_append_left he] at hy
      exact h.covered e y hy
    · refine iff_of_false ?_ (by omega)
      rintro ⟨range, hmem, _, hrange⟩
      have hbound := h.bounded range hmem
      omega
  · rintro first ⟨⟩
    rw [List.length_append, List.length_singleton]
    refine ⟨by omega, fun e y he hy => ?_⟩
    by_cases hlt : e < b.expressions.length
    · rw [List.getElem?_append_left hlt] at hy
      cases hp : b.pending with
      | none =>
        rw [settled, hp] at he
        exact absurd he (Nat.not_le.2 hlt)
      | some first =>
        rw [settled, hp] at he
        exact (h.pending first hp).2 e y he hy
    · obtain ⟨_, rfl⟩ := eq_of_concat hy hlt
      exact hpre

/-- Adding an expression keeps the order. -/
theorem push (h : b.Ordered ranges) (x : Expression) : ∃ ranges', (push x b).2.Ordered ranges' := by
  cases hpre : x.isPreEmitted with
  | true =>
    rw [push_of_preEmitted hpre]
    exact h.push_preEmitted hpre
  | false =>
    rw [push_of_waiting hpre]
    exact ⟨ranges, h.push_waiting hpre⟩

end Ordered

end Builder

end ShaderKit.Vertex
