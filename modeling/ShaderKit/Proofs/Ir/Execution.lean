import ShaderKit.Proofs.Ir.Evaluation

/-!
# Running a function

What the statements of a function do, for bodies that bring expressions into scope, call functions and
return.  An expression has to be brought into scope before it is used, unless it is in scope everywhere.
Any other statement, and any use out of scope, has no run.

## Key results

- `Invocation.emit_range`: bringing a range of expressions into scope gives each its value
-/

namespace ShaderKit.Ir

/-- How far a run has come. -/
structure Execution where
  /-- The values of the expressions that are in scope by now. -/
  values : ExprId → Option Value := fun _ => none
  /-- The calls so far. -/
  calls : List (FunctionId × List Value) := []
  /-- The returned value, once the function has returned. -/
  returned : Option (Option Value) := none

/-- Brings one value into scope. -/
def Execution.bring (s : Execution) (e : ExprId) (v : Value) : Execution :=
  { s with values := fun i => if i = e then some v else s.values i }

namespace Invocation

variable (c : Invocation) (xs : List Expression)

/-- The value of an operand. -/
def operand? (s : Execution) (e : ExprId) : Option Value := do
  let x ← xs[e]?
  if x.isPreEmitted then c.eval (fun _ => none) x else s.values e

/-- Brings one expression into scope; none can be brought twice. -/
def emit (s : Execution) (e : ExprId) : Option Execution := do
  let x ← xs[e]?
  if x.isPreEmitted ∨ (s.values e).isSome then none
  else return s.bring e (← c.eval (c.operand? xs s) x)

/-- Calls a function, whose result comes into scope. -/
def call (s : Execution) (f : FunctionId) (arguments : List ExprId) (result : Option ExprId) :
    Option Execution := do
  let callee ← c.module.functions[f]?
  let values ← arguments.mapM (c.operand? xs s)
  if values.length ≠ callee.arguments.length ∨ result.isSome ≠ callee.result.isSome then none
  else
    let s := { s with calls := s.calls ++ [(f, values)] }
    match result with
    | none => return s
    | some r =>
      if xs[r]? = some (.callResult f) ∧ s.values r = none then
        return s.bring r (c.machine.call f values)
      else none

/-- Runs a statement; nothing runs after a return. -/
def step (s : Execution) (statement : Statement) : Option Execution :=
  if s.returned.isSome then some s
  else match statement with
    | .emit none => some s
    | .emit (some (first, last)) =>
      (List.range' first (last + 1 - first)).foldlM (c.emit xs) s
    | .call f arguments result => c.call xs s f arguments result
    | .ret none => some { s with returned := some none }
    | .ret (some e) => do return { s with returned := some (some (← c.operand? xs s e)) }
    | _ => none

/-- Runs a function. -/
def run (f : Function) : Option Execution := f.body.foldlM (c.step f.expressions) {}

end Invocation

/-- Each expression has the value that those before it give it. -/
structure Invocation.Evaluated (c : Invocation) (xs : List Expression) (vs : List Value) : Prop where
  length_eq : vs.length = xs.length
  eval_eq : ∀ e x, xs[e]? = some x → c.eval (fun i => (vs.take e)[i]?) x = vs[e]?

/-- The values that are in scope once the expressions before `bound` are, without those that are in scope
everywhere. -/
def inScope (xs : List Expression) (vs : List Value) (bound : Nat) (e : ExprId) : Option Value :=
  if e < bound ∧ xs[e]?.any (!·.isPreEmitted) then vs[e]? else none

namespace Invocation

variable {c : Invocation} {xs xs' : List Expression} {vs : List Value}

/-- The next expression has a value if its operands do. -/
theorem Evaluated.append (h : c.Evaluated xs vs) {x : Expression} {v : Value}
    (hv : c.eval (vs[·]?) x = some v) : c.Evaluated (xs ++ [x]) (vs ++ [v]) := by
  constructor
  · simp [h.length_eq]
  · intro e y hy
    -- an old expression sees the same values before it; the new one sees all old ones
    by_cases he : e < xs.length
    · rw [List.getElem?_append_left he] at hy
      have hlt : e < vs.length := h.length_eq ▸ he
      rw [List.take_append_of_le_length (by omega), List.getElem?_append_left hlt]
      exact h.eval_eq e y hy
    · have heq : e = xs.length := by
        have := (List.getElem?_eq_some_iff.1 hy).1
        simp only [List.length_append, List.length_singleton] at this
        omega
      subst heq
      simp only [List.getElem?_concat_length, Option.some.injEq] at hy
      subst hy
      rw [← h.length_eq, List.take_left, List.getElem?_concat_length]
      exact hv

/-- An operand that is in scope has its value. -/
theorem operand?_eq (h : c.Evaluated xs vs) (hxs : xs <+: xs') {s : Execution} {bound : Nat}
    (hs : s.values = inScope xs vs bound) {e : ExprId} {x : Expression} (hx : xs[e]? = some x)
    (he : x.isPreEmitted = true ∨ e < bound) : c.operand? xs' s e = vs[e]? := by
  have hx' : xs'[e]? = some x := by
    obtain ⟨rest, rfl⟩ := hxs
    rw [List.getElem?_append_left (List.getElem?_eq_some_iff.1 hx).1, hx]
  simp only [operand?, hx', Option.bind_eq_bind, Option.bind_some]
  -- what is in scope everywhere is evaluated where it is used, all else is looked up
  cases hpre : x.isPreEmitted with
  | true =>
    rw [if_pos rfl, ← h.eval_eq e x hx]
    exact eval_of_isPreEmitted hpre _ _
  | false =>
    have hlt : e < bound := by simpa [hpre] using he
    simp [hs, inScope, hlt, hx, hpre]

/-- Bringing the next expression into scope gives it its value. -/
private theorem emit_next (h : c.Evaluated xs vs) (hxs : xs <+: xs') {s : Execution} {e : ExprId}
    (hs : s.values = inScope xs vs e) {x : Expression} (hx : xs[e]? = some x)
    (hpre : x.isPreEmitted = false) :
    c.emit xs' s e = some { s with values := inScope xs vs (e + 1) } := by
  have hlt : e < xs.length := (List.getElem?_eq_some_iff.1 hx).1
  have hx' : xs'[e]? = some x := by
    obtain ⟨rest, rfl⟩ := hxs
    rw [List.getElem?_append_left hlt, hx]
  obtain ⟨v, hv⟩ : ∃ v, vs[e]? = some v :=
    ⟨_, List.getElem?_eq_getElem (by rw [h.length_eq]; exact hlt)⟩
  have hnew : s.values e = none := by simp [hs, inScope]
  -- the expression was evaluated with what stands before it, all of which is in scope by now
  have heval : c.eval (c.operand? xs' s) x = some v := by
    refine eval_mono (fun i w hw => ?_) ((h.eval_eq e x hx).trans hv)
    have hi : i < e := by
      apply Nat.lt_of_not_le
      intro hle
      rw [List.getElem?_take_eq_none hle] at hw
      cases hw
    rw [List.getElem?_take_of_lt hi] at hw
    obtain ⟨y, hy⟩ : ∃ y, xs[i]? = some y := ⟨_, List.getElem?_eq_getElem (Nat.lt_trans hi hlt)⟩
    rw [operand?_eq h hxs hs hy (.inr hi), hw]
  -- one more expression is in scope, and no other value changes
  have hvalues : (s.bring e v).values = inScope xs vs (e + 1) := by
    funext i
    by_cases hi : i = e
    · subst hi
      simp [Execution.bring, inScope, hx, hpre, hv]
    · have hiff : i < e + 1 ↔ i < e := Nat.lt_succ_iff_lt_or_eq.trans (or_iff_left hi)
      simp [Execution.bring, hi, hs, inScope, hiff]
  simp [emit, hx', hpre, hnew, heval, ← hvalues, Execution.bring]

/-- Bringing a range of expressions into scope gives each its value. -/
theorem emit_range (h : c.Evaluated xs vs) (hxs : xs <+: xs') {s : Execution} (first count : Nat)
    (hs : s.values = inScope xs vs first)
    (hrange : ∀ e, first ≤ e → e < first + count → ∃ x, xs[e]? = some x ∧ x.isPreEmitted = false) :
    (List.range' first count).foldlM (c.emit xs') s =
      some { s with values := inScope xs vs (first + count) } := by
  induction count generalizing s first with
  | zero => simp [← hs]
  | succ count ih =>
    obtain ⟨x, hx, hpre⟩ := hrange first (by omega) (by omega)
    -- the first expression comes into scope, and the rest of the range follows from there
    rw [List.range'_succ, List.foldlM_cons, emit_next h hxs hs hx hpre]
    have hstep := ih (s := { s with values := inScope xs vs (first + 1) }) (first + 1) rfl
      fun e h₁ h₂ => hrange e (by omega) (by omega)
    rw [Nat.add_right_comm] at hstep
    exact hstep

end Invocation

/-- What is in scope everywhere does not count. -/
theorem inScope_succ {xs : List Expression} {vs : List Value} {e : Nat} {x : Expression}
    (hx : xs[e]? = some x) (hpre : x.isPreEmitted = true) :
    inScope xs vs (e + 1) = inScope xs vs e := by
  funext i
  by_cases hi : i = e
  · subst hi
    simp [inScope, hx, hpre]
  · have hiff : i < e + 1 ↔ i < e := Nat.lt_succ_iff_lt_or_eq.trans (or_iff_left hi)
    simp [inScope, hiff]

/-- Later expressions do not change what is in scope. -/
theorem inScope_append {xs : List Expression} {vs : List Value} {bound : Nat}
    (hxs : bound ≤ xs.length) (hvs : bound ≤ vs.length) (ys : List Expression) (ws : List Value) :
    inScope (xs ++ ys) (vs ++ ws) bound = inScope xs vs bound := by
  funext e
  by_cases he : e < bound
  · simp only [inScope, he, List.getElem?_append_left (Nat.lt_of_lt_of_le he hxs),
      List.getElem?_append_left (Nat.lt_of_lt_of_le he hvs)]
  · simp [inScope, he]

/-- What a vertex entry point takes as an argument with this binding. -/
def vertexInput? (vertexIndex instanceIndex : UInt32) : Option IoBinding → Option Value
  | some (.builtIn .vertexIndex) => some (.scalar .uint vertexIndex)
  | some (.builtIn .instanceIndex) => some (.scalar .uint instanceIndex)
  | _ => none

/-- Runs an entry point that takes the vertex and instance index only. -/
def Machine.runVertex (machine : Machine) (m : Module) (e : EntryPoint)
    (vertexIndex instanceIndex : UInt32) : Option Execution := do
  let arguments ← e.function.arguments.mapM fun a =>
    vertexInput? vertexIndex instanceIndex a.binding
  Invocation.run ⟨machine, m, arguments⟩ e.function

end ShaderKit.Ir
