import ShaderKit.Proofs.Ir.Execution
import ShaderKit.Proofs.Std.Growth
import ShaderKit.Proofs.Std.List
import ShaderKit.Proofs.Vertex.Order

/-!
# What a function under construction computes

A builder is sound when each of its expressions has a value, when its body runs and leaves everything
before the pending expressions in scope, and when the shared expressions have the values they stand for.
Each operation keeps a builder sound and says what its result stands for.

## Key results

- `Sound.flush`, `Sound.push`: flushing and adding an expression keep a builder sound
- `Yields.bind`, `Yields.mapM`: what follows for operations one after another
-/

namespace ShaderKit.Vertex

open Ir

/-- What vertex pulling is run on: the invocation of the new entry function, and the words it reads. -/
structure PullingRun where
  invocation : Invocation
  scope : PullingScope
  vertexIndex : UInt32
  instanceIndex : UInt32
  /-- The word of a vertex buffer at an index. -/
  word : Nat → UInt32 → UInt32

namespace PullingRun

variable (r : PullingRun)

/-- The index by which a vertex buffer advances. -/
def index (step : StepMode) : UInt32 :=
  match step with
  | .perVertex => r.vertexIndex
  | .perInstance => r.instanceIndex

/-- The first word of a vertex buffer's current element, as far as words go. -/
def elementBase (slot : Nat) : UInt32 :=
  let buffer := r.scope.layout.buffers[slot]?.getD ⟨0, .perVertex⟩
  r.index buffer.step * buffer.stride

/-- The builder's expressions have the values `vs`, and its body brings all that are not pending into
scope. -/
structure Sound (b : Builder) (vs : List Value) : Prop where
  evaluated : r.invocation.Evaluated b.expressions vs
  runs : ∀ xs, b.expressions <+: xs → b.body.foldlM (r.invocation.step xs) {} =
    some { values := inScope b.expressions vs (b.pending.getD b.expressions.length) }
  pending : ∀ first : Nat, b.pending = some first → first < b.expressions.length ∧
    ∀ e : Nat, first ≤ e → ∀ x, b.expressions[e]? = some x → x.isPreEmitted = false
  vertexIndex : vs[r.scope.vertexIndex]? = some (.scalar .uint r.vertexIndex)
  instanceIndex : vs[r.scope.instanceIndex]? = some (.scalar .uint r.instanceIndex)
  bases : ∀ slot e, b.bases.lookup slot = some e →
    vs[e]? = some (.scalar .uint (r.elementBase slot))
  buffers : ∀ slot e, b.buffers.lookup slot = some e →
    vs[e]? = some (.pointer (r.scope.firstBuffer + slot) none)

variable {r} {b : Builder} {vs : List Value}

/-- Flushing brings the pending expressions into scope. -/
theorem Sound.flush (h : r.Sound b vs) : r.Sound b.flush vs := by
  cases hp : b.pending with
  | none => exact (Builder.flush_of_none hp).symm ▸ h
  | some first =>
    obtain ⟨hfirst, hall⟩ := h.pending first hp
    rw [Builder.flush_of_pending hp]
    refine ⟨h.evaluated, fun xs hxs => ?_, fun _ hn => (nomatch hn), h.vertexIndex,
      h.instanceIndex, h.bases, h.buffers⟩
    rw [List.foldlM_append, h.runs xs hxs]
    -- the emit statement covers exactly what was pending
    have hcount : b.expressions.length - 1 + 1 - first = b.expressions.length - first := by omega
    have hrange := Invocation.emit_range h.evaluated hxs first (b.expressions.length - first)
      (s := { values := inScope b.expressions vs first }) rfl fun e h₁ h₂ =>
        have hlt : e < b.expressions.length := by omega
        ⟨_, List.getElem?_eq_getElem hlt, hall e h₁ _ (List.getElem?_eq_getElem hlt)⟩
    rw [Nat.add_sub_cancel' (Nat.le_of_lt hfirst)] at hrange
    simp only [hp, Option.getD_some, Option.getD_none, Option.bind_eq_bind, Option.bind_some,
      List.foldlM_cons, List.foldlM_nil, Invocation.step, Option.isSome_none, Bool.false_eq_true,
      if_false, hcount, hrange]
    rfl

/-- An expression that no statement has to bring into scope can be added. -/
private theorem Sound.push_preEmitted (h : r.Sound b vs) {x : Expression} {v : Value}
    (hv : r.invocation.eval (vs[·]?) x = some v) (hpre : x.isPreEmitted = true) :
    r.Sound { b.flush with expressions := b.expressions ++ [x] } (vs ++ [v]) := by
  have hlen := h.evaluated.length_eq
  have hf := h.flush
  have hnone := Builder.flush_pending b
  have hxs := Builder.flush_expressions b
  have hkept := List.prefix_append vs [v]
  refine ⟨hxs ▸ hf.evaluated.append hv, fun xs hinit => ?_, fun first hfirst => ?_,
    hkept.getElem?_eq_some hf.vertexIndex, hkept.getElem?_eq_some hf.instanceIndex,
    fun slot e he => hkept.getElem?_eq_some (hf.bases slot e he),
    fun slot e he => hkept.getElem?_eq_some (hf.buffers slot e he)⟩
  -- what runs is the body with everything flushed, after which the new value is in scope too
  · have hruns := hf.runs xs (hxs ▸ (List.prefix_append _ _).trans hinit)
    rw [hruns, hnone, hxs]
    have hlast : (b.expressions ++ [x])[b.expressions.length]? = some x := by simp
    simp only [Option.getD_none, List.length_append, List.length_singleton,
      inScope_succ hlast hpre]
    rw [inScope_append (Nat.le_refl _) (Nat.le_of_eq hlen.symm)]
  -- nothing is pending behind a flush
  · exact nomatch hnone.symm.trans hfirst

/-- An expression that waits for a statement can be added to those that wait. -/
private theorem Sound.push_pending (h : r.Sound b vs) {x : Expression} {v : Value}
    (hv : r.invocation.eval (vs[·]?) x = some v) (hpre : x.isPreEmitted = false) :
    r.Sound { b with
      expressions := b.expressions ++ [x]
      pending := some (b.pending.getD b.expressions.length) } (vs ++ [v]) := by
  have hlen := h.evaluated.length_eq
  have hbound : b.pending.getD b.expressions.length ≤ b.expressions.length := by
    cases hp : b.pending with
    | none => exact Nat.le_refl _
    | some first => exact Nat.le_of_lt (h.pending first hp).1
  have hkept := List.prefix_append vs [v]
  -- the body stays as it is, so what it brings into scope ends where the pending expressions start
  refine ⟨h.evaluated.append hv, fun xs hinit => ?_,
    fun first hfirst => ⟨?_, fun e he y hy => ?_⟩,
    hkept.getElem?_eq_some h.vertexIndex, hkept.getElem?_eq_some h.instanceIndex,
    fun slot e he => hkept.getElem?_eq_some (h.bases slot e he),
    fun slot e he => hkept.getElem?_eq_some (h.buffers slot e he)⟩
  · rw [h.runs xs ((List.prefix_append _ _).trans hinit)]
    simp only [Option.getD_some]
    rw [inScope_append hbound (hlen ▸ hbound)]
  · cases hfirst
    simp only [List.length_append, List.length_singleton]
    exact Nat.lt_succ_of_le hbound
  · cases hfirst
    by_cases hlt : e < b.expressions.length
    · rw [List.getElem?_append_left hlt] at hy
      cases hp : b.pending with
      | none =>
        rw [hp] at he
        exact absurd he (by simpa using hlt)
      | some first =>
        rw [hp] at he
        exact (h.pending first hp).2 e he y hy
    · rw [List.getElem?_append_right (Nat.le_of_not_lt hlt), List.getElem?_singleton] at hy
      split at hy
      · cases hy
        exact hpre
      · exact nomatch hy

/-- An expression that has a value can be added. -/
theorem Sound.push (h : r.Sound b vs) {x : Expression} {v : Value}
    (hv : r.invocation.eval (vs[·]?) x = some v) :
    r.Sound (Builder.push x b).2 (vs ++ [v]) ∧ (Builder.push x b).1 = vs.length := by
  have hlen := h.evaluated.length_eq
  cases hpre : x.isPreEmitted with
  | true =>
    rw [Builder.push_of_preEmitted hpre]
    exact ⟨h.push_preEmitted hv hpre, hlen.symm⟩
  | false =>
    rw [Builder.push_of_waiting hpre]
    exact ⟨h.push_pending hv hpre, hlen.symm⟩

/-- The expressions `es` have the values `ws`. -/
def Stand (vs : List Value) (es : List ExprId) (ws : List Value) : Prop :=
  es.map (vs[·]?) = ws.map some

namespace Stand

variable {us : List Value} {es es' : List ExprId} {ws ws' : List Value}

theorem length_eq (h : Stand vs es ws) : es.length = ws.length := by
  simpa using congrArg List.length h

theorem mono (h : Stand vs es ws) (hus : vs <+: us) : Stand us es ws := by
  induction es generalizing ws with
  | nil => exact h
  | cons e rest ih =>
    cases ws with
    | nil => exact nomatch h
    | cons w ws =>
      obtain ⟨he, hrest⟩ := List.cons.inj h
      simp only [Stand, List.map_cons, hus.getElem?_eq_some he]
      rw [ih hrest]

theorem of_forall₂ {ι : Type} {g : ι → Value} {l : List ι}
    (h : List.Forall₂ (fun i e => vs[e]? = some (g i)) l es) : Stand vs es (l.map g) := by
  induction h with
  | nil => rfl
  | cons he _ ih =>
    simp only [Stand, List.map_cons, he]
    rw [ih]

theorem append (h : Stand vs es ws) (h' : Stand vs es' ws') :
    Stand vs (es ++ es') (ws ++ ws') := by
  rw [Stand, List.map_append, List.map_append, h, h']

theorem take (h : Stand vs es ws) (n : Nat) : Stand vs (es.take n) (ws.take n) := by
  rw [Stand, List.map_take, List.map_take, h]

/-- One of some expressions has the value in its place. -/
theorem getD (h : Stand vs es ws) {i : Nat} {w : Value} (hw : ws[i]? = some w) :
    vs[es.getD i 0]? = some w := by
  have hi := congrArg (·[i]?) h
  simp only [List.getElem?_map, hw, Option.map_some] at hi
  obtain ⟨e, he, hvalue⟩ := Option.map_eq_some_iff.1 hi
  rw [List.getD_eq_getElem?_getD, he]
  exact hvalue

/-- The first of some expressions has the first value. -/
theorem headD (h : Stand vs es ws) {w : Value} (hw : ws[0]? = some w) :
    vs[es.headD 0]? = some w := by
  have hhead : es.headD 0 = es.getD 0 0 := by cases es <;> rfl
  rw [hhead]
  exact h.getD hw

/-- The values of operands, one after another. -/
theorem mapM_eq (h : Stand vs es ws) : es.mapM (vs[·]?) = some ws := by
  induction es generalizing ws with
  | nil =>
    have hws : ws = [] := by simpa [Stand] using h.symm
    subst hws
    rfl
  | cons e rest ih =>
    cases ws with
    | nil => exact nomatch h
    | cons w ws =>
      obtain ⟨he, hrest⟩ := List.cons.inj h
      simp [List.mapM_cons, he, ih hrest]

end Stand

variable (r) in
/-- On every sound builder with the values `vs` the action leaves a sound builder with more values, and
gives a result of which `post` holds. -/
def Yields {α : Type} (action : Build α) (vs : List Value) (post : List Value → α → Prop) : Prop :=
  ∀ b, r.Sound b vs → ∃ us, vs <+: us ∧ r.Sound (action b).2 us ∧ post us (action b).1

namespace Yields

variable {α β ι : Type}

theorem of_grows {x : Build α} {post : List Value → α → Prop} (h : Grows r.Sound x vs post) :
    r.Yields x vs post :=
  h

theorem pure {a : α} {post : List Value → α → Prop} (h : post vs a) :
    r.Yields (Pure.pure a) vs post :=
  Grows.pure h

theorem bind {x : Build α} {f : α → Build β} {mid : List Value → α → Prop}
    {post : List Value → β → Prop} (hx : r.Yields x vs mid)
    (hf : ∀ a us, vs <+: us → mid us a → r.Yields (f a) us post) :
    r.Yields (x >>= f) vs post :=
  Grows.bind hx hf

theorem mono {x : Build α} {mid post : List Value → α → Prop} (hx : r.Yields x vs mid)
    (h : ∀ us a, vs <+: us → mid us a → post us a) : r.Yields x vs post :=
  Grows.mono hx h

/-- An expression that has a value can be added, and stands for it. -/
theorem push {x : Expression} {v : Value} (hv : r.invocation.eval (vs[·]?) x = some v) :
    r.Yields (Builder.push x) vs fun us e => us[e]? = some v := by
  intro b hb
  obtain ⟨hsound, hid⟩ := hb.push hv
  refine ⟨vs ++ [v], List.prefix_append vs _, hsound, ?_⟩
  rw [hid]
  exact List.getElem?_concat_length ..

/-- Actions one after another give the values that each of them gives. -/
theorem mapM {f : ι → Build ExprId} {g : ι → Value} {l : List ι}
    (hf : ∀ i ∈ l, ∀ us, vs <+: us → r.Yields (f i) us fun ws e => ws[e]? = some (g i)) :
    r.Yields (l.mapM f) vs fun us es => Stand us es (l.map g) := by
  have heach : r.Yields (l.mapM f) vs fun us es =>
      List.Forall₂ (fun i e => us[e]? = some (g i)) l es :=
    .of_grows (Grows.mapM (fun _ _ _ _ hus he => hus.getElem?_eq_some he) hf)
  exact heach.mono fun _ _ _ hes => .of_forall₂ hes

/-- An action on each of some expressions gives the values that it makes of theirs. -/
theorem mapM_stand {f : ExprId → Build ExprId} {g : Value → Value} {es : List ExprId}
    {ws : List Value} (h : Stand vs es ws)
    (hf : ∀ e v us, v ∈ ws → vs <+: us → us[e]? = some v →
      r.Yields (f e) us fun zs e' => zs[e']? = some (g v)) :
    r.Yields (es.mapM f) vs fun us es' => Stand us es' (ws.map g) := by
  -- the values are those of the expressions one by one, so both lists are taken apart together
  induction es generalizing vs ws with
  | nil =>
    have hws : ws = [] := by simpa [Stand] using h.symm
    subst hws
    exact pure rfl
  | cons e rest ih =>
    obtain ⟨v, ws', rfl⟩ := List.exists_cons_of_length_eq_add_one
      (by simpa using (congrArg List.length h).symm : ws.length = rest.length + 1)
    obtain ⟨he, hrest⟩ := List.cons.inj h
    rw [List.mapM_cons]
    -- the first action only adds values, so what the rest stands for is still there
    refine bind (hf e v vs (by simp) (List.prefix_refl vs) he) fun e' us hus he' => ?_
    refine bind (ih (Stand.mono hrest hus) fun e v zs hv hzs =>
      hf e v zs (List.mem_cons_of_mem _ hv) (hus.trans hzs)) fun es' zs hzs hes' => pure ?_
    simp only [Stand, List.map_cons, hzs.getElem?_eq_some he']
    rw [hes']

/-- An action on each of some expressions that makes several values of each. -/
theorem mapM_stand_flatten {f : ExprId → Build (List ExprId)} {g : Value → List Value}
    {es : List ExprId} {ws : List Value} (h : Stand vs es ws)
    (hf : ∀ e v us, v ∈ ws → vs <+: us → us[e]? = some v →
      r.Yields (f e) us fun zs es' => Stand zs es' (g v)) :
    r.Yields (es.mapM f) vs fun us ess => Stand us ess.flatten (ws.flatMap g) := by
  -- as in the lemma before, with several values of each expression
  induction es generalizing vs ws with
  | nil =>
    have hws : ws = [] := by simpa [Stand] using h.symm
    subst hws
    exact pure rfl
  | cons e rest ih =>
    obtain ⟨v, ws', rfl⟩ := List.exists_cons_of_length_eq_add_one
      (by simpa using (congrArg List.length h).symm : ws.length = rest.length + 1)
    obtain ⟨he, hrest⟩ := List.cons.inj h
    rw [List.mapM_cons]
    refine bind (hf e v vs (by simp) (List.prefix_refl vs) he) fun es₁ us hus hes₁ => ?_
    refine bind (ih (Stand.mono hrest hus) fun e v zs hv hzs =>
      hf e v zs (List.mem_cons_of_mem _ hv) (hus.trans hzs)) fun ess zs hzs hess => pure ?_
    rw [List.flatten_cons, List.flatMap_cons]
    exact (hes₁.mono hzs).append hess

end Yields

end PullingRun

end ShaderKit.Vertex
