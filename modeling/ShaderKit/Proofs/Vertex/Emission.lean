import ShaderKit.Proofs.Vertex.Assembly

/-!
# The order of the new entry function

The new entry function emits its expressions in an order that a validator accepts: operands come before what
uses them, emit statements name ascending ranges of what has to be emitted, and when a statement runs, all
that it uses has been brought into scope.

## Key results

- `Fills.operands`: operands come before the expression that uses them
- `Continues.available_before`: what an emit statement uses is in scope, or computed by it before
- `pull_emits_in_order`: the new entry function emits everything once and in order, then calls and returns
-/

namespace ShaderKit.Ir

/-- When statement `k` of the body runs, the expression is in scope: from the start, or because an emit
statement before has brought it there. -/
def Function.AvailableAt (f : Function) (k : Nat) (e : Nat) : Prop :=
  (∃ x, f.expressions[e]? = some x ∧ x.isPreEmitted = true) ∨
    ∃ first last : Nat, .emit (some (first, last)) ∈ f.body.take k ∧ first ≤ e ∧ e ≤ last

/-- The function emits its expressions in the ranges, one after another, then calls `callee` once and returns
what that gives. -/
structure Function.EmitsInOrder (f : Function) (ranges : List (Nat × Nat)) (callee : FunctionId)
    (arguments : List ExprId) (result : Option ExprId) : Prop where
  operands : ∀ (e : Nat) x, f.expressions[e]? = some x → ∀ o ∈ x.operands, o < e
  body : f.body = (ranges.map fun range => Statement.emit (some range)) ++
    [.call callee arguments result, .ret result]
  nonempty : ∀ range ∈ ranges, range.1 ≤ range.2
  ascending : ranges.Pairwise fun range later => range.2 < later.1
  /-- The ranges hold exactly what is neither in scope from the start nor the result of the call. -/
  emitted : ∀ e : Nat, (∃ range ∈ ranges, range.1 ≤ e ∧ e ≤ range.2) ↔
    ∃ x, f.expressions[e]? = some x ∧ x.isPreEmitted = false ∧ x ≠ .callResult callee
  preEmitted : ∀ (e : Nat) x, f.expressions[e]? = some x → (x.isPreEmitted = true ↔
    (∃ l, x = .literal l) ∨ (∃ i, x = .argument i) ∨ ∃ g, x = .global g)
  /-- What an emit statement computes uses what is in scope, or what the same statement computes before. -/
  available : ∀ (k : Nat) range, ranges[k]? = some range → ∀ (e : Nat) x, range.1 ≤ e → e ≤ range.2 →
    f.expressions[e]? = some x → ∀ o ∈ x.operands, f.AvailableAt k o ∨ range.1 ≤ o ∧ o < e
  arguments : ∀ e ∈ arguments, f.AvailableAt ranges.length e
  callResults : ∀ (e : Nat) g, f.expressions[e]? = some (.callResult g) ↔ g = callee ∧ result = some e
  hasResult : result.isSome = f.result.isSome

end ShaderKit.Ir

namespace ShaderKit.Vertex

open Ir

variable {s : PullingScope} {inputs : Option IoBinding → TypeId → Prop} {b : Builder} {rs : List Role}

/-! ### Operands -/

/-- The operands of an expression that fills a role are among the expressions before it. -/
theorem Fills.operands {past : ExprId → Option Role} {x : Expression} {role : Role}
    (h : Fills s inputs past x role) {o : ExprId} (ho : o ∈ x.operands) : ∃ role', past o = some role' := by
  -- a role says which roles the operands have, so each case names them
  cases h with
  | vertexIndex | instanceIndex | literal | buffer => exact nomatch ho
  | base _ h₁ h₂ | address _ _ _ h₁ h₂ | pointer h₁ h₂ =>
    rcases List.mem_pair.1 ho with rfl | rfl
    · exact ⟨_, h₁⟩
    · exact ⟨_, h₂⟩
  | word h₁ | bits _ h₁ | unpacked _ h₁ | number _ h₁ =>
    obtain rfl := List.mem_singleton.1 ho
    exact ⟨_, h₁⟩
  | unsignedField h₁ h₂ h₃ | signedField h₁ h₂ h₃ =>
    simp only [Expression.operands, Option.toList_some, Option.toList_none, List.append_nil,
      List.cons_append, List.nil_append, List.mem_cons, List.not_mem_nil, or_false] at ho
    rcases ho with rfl | rfl | rfl
    · exact ⟨_, h₁⟩
    · exact ⟨_, h₂⟩
    · exact ⟨_, h₃⟩
  | vector _ _ heach =>
    obtain ⟨role, hrole, _⟩ := heach o ho
    exact ⟨role, hrole⟩
  | struct _ _ heach =>
    obtain ⟨_, _, role, hrole, _⟩ := heach.exists_mem_left ho
    exact ⟨role, hrole⟩

/-- What is in scope from the start is a literal, an argument or a variable. -/
theorem Fills.isPreEmitted_iff {past : ExprId → Option Role} {x : Expression} {role : Role}
    (h : Fills s inputs past x role) : x.isPreEmitted = true ↔
      (∃ l, x = .literal l) ∨ (∃ i, x = .argument i) ∨ ∃ g, x = .global g := by
  cases h <;> simp [Expression.isPreEmitted]

/-- No expression that fills a role is the result of a call. -/
theorem Fills.ne_callResult {past : ExprId → Option Role} {x : Expression} {role : Role}
    (h : Fills s inputs past x role) (g : FunctionId) : x ≠ .callResult g := by
  rintro rfl
  nomatch h

namespace Filled

/-- Operands come before the expression that uses them. -/
theorem operand_lt (h : Filled s inputs b rs) {e : Nat} {x : Expression}
    (hx : b.expressions[e]? = some x) {o : Nat} (ho : o ∈ x.operands) : o < e := by
  obtain ⟨_, _, hfills⟩ := h.exists_fills hx
  obtain ⟨_, hrole⟩ := hfills.operands ho
  have hlt := (List.getElem?_eq_some_iff.1 hrole).1
  rw [List.length_take] at hlt
  omega

end Filled

/-! ### Scope -/

/-- Once everything is flushed, an expression is in scope from the start, or one of the ranges holds it. -/
theorem Builder.Ordered.exists_range {ranges : List (Nat × Nat)} (h : b.flush.Ordered ranges) {e : Nat}
    {x : Expression} (hx : b.expressions[e]? = some x) (hpre : x.isPreEmitted = false) :
    ∃ (j : Nat) (range : Nat × Nat), ranges[j]? = some range ∧ range.1 ≤ e ∧ e ≤ range.2 := by
  have hlt : e < b.flush.settled := by
    rw [flush_settled]
    exact (List.getElem?_eq_some_iff.1 hx).1
  obtain ⟨range, hmem, hrange⟩ := (h.covered e x (by simpa using hx)).2 ⟨hlt, hpre⟩
  obtain ⟨j, hj⟩ := List.mem_iff_getElem?.1 hmem
  exact ⟨j, range, hj, hrange⟩

/-- The function goes on from the builder: its expressions begin with those of the builder, and its body with
emit statements for the ranges. -/
structure Continues (b : Builder) (f : Function) (ranges : List (Nat × Nat)) (rest : List Statement) :
    Prop where
  ordered : b.flush.Ordered ranges
  expressions : b.expressions <+: f.expressions
  body : f.body = (ranges.map fun range => Statement.emit (some range)) ++ rest

namespace Continues

variable {f : Function} {ranges : List (Nat × Nat)} {rest : List Statement}

/-- What a range holds is among the expressions of the builder. -/
theorem lt_of_mem (h : Continues b f ranges rest) {range : Nat × Nat} (hmem : range ∈ ranges) {e : Nat}
    (he : e ≤ range.2) : e < b.expressions.length := by
  have hbound := h.ordered.bounded range hmem
  rw [Builder.flush_settled] at hbound
  exact Nat.lt_of_le_of_lt he hbound

/-- An expression of a range is in scope after the statement that emits the range. -/
theorem available_of_range (h : Continues b f ranges rest) {j k e : Nat} {range : Nat × Nat}
    (hj : ranges[j]? = some range) (hjk : j < k) (hrange : range.1 ≤ e ∧ e ≤ range.2) :
    f.AvailableAt k e := by
  refine .inr ⟨range.1, range.2, List.mem_of_getElem? (i := j) ?_, hrange⟩
  have hlt : j < (ranges.map fun range => Statement.emit (some range)).length := by
    simpa using (List.getElem?_eq_some_iff.1 hj).1
  rw [List.getElem?_take_of_lt hjk, h.body, List.getElem?_append_left hlt, List.getElem?_map, hj]
  rfl

/-- An expression of the builder is in scope from the start, or one of the ranges holds it. -/
theorem available_or_range (h : Continues b f ranges rest) {e : Nat} (he : e < b.expressions.length) :
    (∀ k, f.AvailableAt k e) ∨
      ∃ (j : Nat) (range : Nat × Nat), ranges[j]? = some range ∧ range.1 ≤ e ∧ e ≤ range.2 := by
  have hx := List.getElem?_eq_getElem he
  cases hpre : b.expressions[e].isPreEmitted with
  | true => exact .inl fun k => .inl ⟨_, h.expressions.getElem?_eq_some hx, hpre⟩
  | false => exact .inr (h.ordered.exists_range hx hpre)

/-- After all ranges every expression of the builder is in scope. -/
theorem available (h : Continues b f ranges rest) {e : Nat} (he : e < b.expressions.length) :
    f.AvailableAt ranges.length e := by
  rcases h.available_or_range he with hstart | ⟨j, range, hj, hrange⟩
  · exact hstart ranges.length
  · exact h.available_of_range hj (List.getElem?_eq_some_iff.1 hj).1 hrange

/-- What comes before an expression of a range is in scope by then, or the range holds it too. -/
theorem available_before (h : Continues b f ranges rest) {k : Nat} {range : Nat × Nat}
    (hk : ranges[k]? = some range) {o e : Nat} (hoe : o < e) (he : e ≤ range.2) :
    f.AvailableAt k o ∨ range.1 ≤ o ∧ o < e := by
  have ho := Nat.lt_trans hoe (h.lt_of_mem (List.mem_of_getElem? hk) he)
  rcases h.available_or_range ho with hstart | ⟨j, range', hj, hrange⟩
  · exact .inl (hstart k)
  · -- a range that holds what comes before is not behind the range
    rcases Nat.lt_trichotomy j k with hjk | rfl | hkj
    · exact .inl (h.available_of_range hj hjk hrange)
    · cases hj.symm.trans hk
      exact .inr ⟨hrange.1, hoe⟩
    · obtain ⟨hltk, rfl⟩ := List.getElem?_eq_some_iff.1 hk
      obtain ⟨hltj, rfl⟩ := List.getElem?_eq_some_iff.1 hj
      have hascending := List.pairwise_iff_getElem.1 h.ordered.ascending k j hltk hltj hkj
      omega

end Continues

/-- A function whose expressions and body are those of a finished builder emits everything in order. -/
theorem Filled.emitsInOrder (hb : Filled s inputs b rs) {f : Function} {arguments : List ExprId}
    {inner : FunctionId} (harguments : ∀ e ∈ arguments, ∃ role, rs[e]? = some role)
    (hexpressions : f.expressions = (b.finish inner arguments f.result.isSome).expressions)
    (hbody : f.body = (b.finish inner arguments f.result.isSome).body) :
    ∃ ranges result, f.EmitsInOrder ranges inner arguments result := by
  obtain ⟨_, hordered⟩ := hb.ordered
  obtain ⟨ranges, hf⟩ := hordered.flush
  -- the function has the expressions of the builder, and the result of the call if there is one
  have hget {e : Nat} {x : Expression} : f.expressions[e]? = some x ↔ b.expressions[e]? = some x ∨
      f.result.isSome = true ∧ e = b.expressions.length ∧ x = .callResult inner := by
    rw [hexpressions]
    exact Builder.finish_getElem?_eq_some_iff
  rw [Builder.finish_body, hf.body] at hbody
  have hc : Continues b f ranges _ :=
    ⟨hf, ⟨_, (Builder.finish_expressions b inner arguments _).symm.trans hexpressions.symm⟩, hbody⟩
  refine ⟨ranges, if f.result.isSome then some b.expressions.length else none, ?_⟩
  -- what the builder has emitted is known, and the result of the call needs no range
  constructor
  case body => exact hbody
  case nonempty => exact hf.nonempty
  case ascending => exact hf.ascending
  case hasResult => cases f.result <;> rfl
  case operands =>
    intro e x hx o ho
    rcases hget.1 hx with hx | ⟨_, _, rfl⟩
    · exact hb.operand_lt hx ho
    · exact absurd ho List.not_mem_nil
  case emitted =>
    intro e
    constructor
    · rintro ⟨range, hmem, hrange⟩
      have hx := List.getElem?_eq_getElem (hc.lt_of_mem hmem hrange.2)
      obtain ⟨_, _, hfills⟩ := hb.exists_fills hx
      have hcovered := (hf.covered e _ (by rwa [Builder.flush_expressions])).1 ⟨range, hmem, hrange⟩
      exact ⟨_, hget.2 (.inl hx), hcovered.2, hfills.ne_callResult inner⟩
    · rintro ⟨x, hx, hpre, hne⟩
      obtain ⟨j, range, hj, hrange⟩ := hf.exists_range ((hget.1 hx).resolve_right fun h => hne h.2.2) hpre
      exact ⟨range, List.mem_of_getElem? hj, hrange⟩
  case preEmitted =>
    intro e x hx
    rcases hget.1 hx with hx | ⟨_, _, rfl⟩
    · obtain ⟨_, _, hfills⟩ := hb.exists_fills hx
      exact hfills.isPreEmitted_iff
    · simp [Expression.isPreEmitted]
  case available =>
    intro k range hk e x hfirst hlast hx o ho
    have he := hc.lt_of_mem (List.mem_of_getElem? hk) hlast
    have hx := (hget.1 hx).resolve_right fun h => absurd h.2.1 (Nat.ne_of_lt he)
    exact hc.available_before hk (hb.operand_lt hx ho) hlast
  case arguments =>
    intro e he
    obtain ⟨role, hrole⟩ := harguments e he
    exact hc.available (hb.length_eq ▸ (List.getElem?_eq_some_iff.1 hrole).1)
  case callResults =>
    intro e g
    rw [hget]
    constructor
    -- no expression of the builder is a call's result, so it is the one that was added for it
    · rintro (hx | ⟨hresult, rfl, hcall⟩)
      · obtain ⟨_, _, hfills⟩ := hb.exists_fills hx
        exact absurd rfl (hfills.ne_callResult g)
      · cases hcall
        exact ⟨rfl, if_pos hresult⟩
    · rintro ⟨rfl, hresult⟩
      split at hresult
      · rename_i hsome
        exact .inr ⟨hsome, (Option.some.inj hresult).symm, rfl⟩
      · cases hresult

/-- The new entry function has its operands before what uses them, emits everything that has to be emitted
once, in order and before it is used, then calls the original function once and returns what that gives. -/
theorem pull_emits_in_order {m m' : Module} {state : State} {entryPoint : String} {group : Nat}
    (h : pull m state entryPoint group = .ok m') :
    ∃ index entry entry' ranges arguments result,
      pullingTarget m entryPoint = .ok (index, entry) ∧
      m'.entryPoints[index]? = some entry' ∧
      m'.functions[m.functions.length]? = some (demote entryPoint entry.function) ∧
      entry'.function.result = entry.function.result ∧
      entry'.function.EmitsInOrder ranges m.functions.length arguments result := by
  obtain ⟨index, entry, layout, wordType, wordsType, arguments, built, hp⟩ := pulled_of_pull h
  obtain ⟨rs, hfilled, hsupplied⟩ := hp.filled
  -- what the call is given has a role, so it is an expression of the builder
  have harguments (e : ExprId) (he : e ∈ arguments) : ∃ role, rs[e]? = some role := by
    obtain ⟨_, _, ⟨role, hrole, _⟩, _⟩ := hsupplied.exists_mem_left he
    exact ⟨role, hrole⟩
  obtain ⟨ranges, result, horder⟩ := hfilled.emitsInOrder
    (f := (pullingEntry entryPoint entry wordType m.functions.length arguments built).function)
    harguments rfl rfl
  exact ⟨index, entry, _, ranges, arguments, result, hp.target, hp.entryPoint_eq, hp.callee_eq, rfl, horder⟩

theorem pull_emits_in_order_tintedPosition :
    ∃ m', pull tintedPosition interleaved "main" 1 = .ok m' ∧
      ∃ index entry entry' ranges arguments result,
        pullingTarget tintedPosition "main" = .ok (index, entry) ∧
        m'.entryPoints[index]? = some entry' ∧
        m'.functions[1]? = some (demote "main" entry.function) ∧
        entry'.function.result = entry.function.result ∧
        entry'.function.EmitsInOrder ranges 1 arguments result := by
  obtain ⟨m', h, _⟩ := Except.exists_eq_ok_of_decide (x := pull tintedPosition interleaved "main" 1)
    (P := fun _ => True) (by decide +kernel)
  exact ⟨m', h, pull_emits_in_order h⟩

end ShaderKit.Vertex
