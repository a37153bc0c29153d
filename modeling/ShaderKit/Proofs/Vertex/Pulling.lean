import ShaderKit.Proofs.Std.Except
import ShaderKit.Proofs.Vertex.Input

/-!
# Vertex pulling preserves meaning

The entry function that pulls its inputs from buffers calls the original function once, with the inputs
that the draw gives it, and returns what it returns.

## Key results

- `PullingRun.finish_runs`: the finished body calls the inner function with the values of the arguments
- `pull_calls_original`: running the new entry point calls the original function with the draw's inputs
-/

namespace ShaderKit.Ir

/-- An interned type is found where it is said to be, and the types that were there stay. -/
theorem internType_spec (types : List TypeInfo) (t : TypeInfo) :
    types <+: (internType types t).1 ∧ (internType types t).1[(internType types t).2]? = some t := by
  unfold internType
  cases h : types.findIdx? (· == t) with
  | none => exact ⟨List.prefix_append _ _, by simp⟩
  | some i =>
    refine ⟨List.prefix_refl _, ?_⟩
    obtain ⟨hi, heq, _⟩ := List.findIdx?_eq_some_iff_getElem.1 h
    rw [List.getElem?_eq_getElem hi, eq_of_beq heq]

end ShaderKit.Ir

namespace ShaderKit.Vertex

open Ir

namespace PullingRun

variable {r : PullingRun} {b : Builder} {vs : List Value}

/-- A builder that has the index arguments only is sound. -/
theorem sound_start (harguments : r.invocation.arguments =
      [.scalar .uint r.vertexIndex, .scalar .uint r.instanceIndex])
    (hvertex : r.scope.vertexIndex = 0) (hinstance : r.scope.instanceIndex = 1) :
    r.Sound { expressions := [.argument 0, .argument 1] }
      [.scalar .uint r.vertexIndex, .scalar .uint r.instanceIndex] := by
  have hscope : inScope [.argument 0, .argument 1]
      [.scalar .uint r.vertexIndex, .scalar .uint r.instanceIndex] 2 = fun _ => none := by
    rw [inScope_succ (e := 1) rfl rfl, inScope_succ (e := 0) rfl rfl]
    funext e
    simp [inScope]
  refine ⟨⟨rfl, fun e x hx => ?_⟩, fun xs _ => ?_, fun first hfirst => ?_, ?_, ?_,
    fun slot e he => ?_, fun slot e he => ?_⟩
  · rcases e with _ | _ | e
    · cases hx
      simp [Invocation.eval, harguments]
    · cases hx
      simp [Invocation.eval, harguments]
    · simp at hx
  · -- arguments are in scope from the start, so an empty body brings nothing
    simp only [Option.getD_none, List.length_cons, List.length_nil]
    rw [hscope]
    rfl
  · simp at hfirst
  · rw [hvertex]
    rfl
  · rw [hinstance]
    rfl
  · simp at he
  · simp at he

/-- Arguments that have values have them as operands, once everything before is in scope. -/
private theorem operands_eq {xs : List Expression}
    (hevaluated : r.invocation.Evaluated b.expressions vs) (hxs : b.expressions <+: xs)
    {s : Execution} (hs : s.values = inScope b.expressions vs b.expressions.length)
    {arguments : List ExprId} {ws : List Value} (harguments : Stand vs arguments ws) :
    arguments.mapM (r.invocation.operand? xs s) = some ws := by
  refine Invocation.mapM_mono (fun e v hv => ?_) harguments.mapM_eq
  have hlt : e < b.expressions.length :=
    hevaluated.length_eq ▸ (List.getElem?_eq_some_iff.1 hv).1
  rw [Invocation.operand?_eq hevaluated hxs hs (List.getElem?_eq_getElem hlt) (.inr hlt), hv]

/-- The finished body calls the inner function with the values of the arguments, and returns what it
returns. -/
theorem finish_runs (hb : r.Sound b vs) {arguments : List ExprId} {ws : List Value}
    (harguments : Stand vs arguments ws) {inner : FunctionId} {callee : Function}
    (hcallee : r.invocation.module.functions[inner]? = some callee)
    (hlength : callee.arguments.length = arguments.length) :
    ∃ execution, (b.finish inner arguments callee.result.isSome).body.foldlM
        (r.invocation.step (b.finish inner arguments callee.result.isSome).expressions) {} =
        some execution ∧
      execution.calls = [(inner, ws)] ∧
      execution.returned = some (callee.result.map fun _ => r.invocation.machine.call inner ws) := by
  have hf := hb.flush
  have hnone := Builder.flush_pending b
  have hxs := Builder.flush_expressions b
  have hfit : ws.length = callee.arguments.length := by rw [hlength, harguments.length_eq]
  -- the flushed body leaves everything in scope, so the arguments of the call have their values
  have hready (xs : List Expression) (hinit : b.expressions <+: xs) :
      b.flush.body.foldlM (r.invocation.step xs) {} =
        some { values := inScope b.expressions vs b.expressions.length } ∧
      arguments.mapM (r.invocation.operand? xs
        { values := inScope b.expressions vs b.expressions.length }) = some ws := by
    have hruns := hf.runs xs (by rw [hxs]; exact hinit)
    rw [hnone, hxs] at hruns
    exact ⟨hruns, operands_eq hb.evaluated hinit rfl harguments⟩
  cases hresult : callee.result with
  | none =>
    obtain ⟨hruns, hoperands⟩ := hready b.expressions (List.prefix_refl _)
    refine ⟨⟨inScope b.expressions vs b.expressions.length, [(inner, ws)], some none⟩, ?_, rfl, rfl⟩
    simp only [Builder.finish, Option.isSome_none, Bool.false_eq_true, if_false, hxs]
    rw [List.foldlM_append, hruns]
    simp [List.foldlM_cons, Invocation.step, Invocation.call, hcallee, hoperands, hfit, hresult]
  | some result =>
    obtain ⟨hruns, hoperands⟩ := hready (b.expressions ++ [.callResult inner])
      (List.prefix_append _ _)
    have hlast : (b.expressions ++ [Expression.callResult inner])[b.expressions.length]? =
        some (.callResult inner) := List.getElem?_concat_length ..
    have hfree : inScope b.expressions vs b.expressions.length b.expressions.length = none := by
      simp [inScope]
    let output := r.invocation.machine.call inner ws
    let s : Execution :=
      ⟨inScope b.expressions vs b.expressions.length, [(inner, ws)], some (some output)⟩
    refine ⟨s.bring b.expressions.length output, ?_, rfl, rfl⟩
    simp only [Builder.finish, Option.isSome_some, if_true, hxs]
    rw [List.foldlM_append, hruns]
    simp [List.foldlM_cons, Invocation.step, Invocation.call, hcallee, hoperands, hfit, hresult,
      hfree, Execution.bring, Invocation.operand?, Expression.isPreEmitted, s, output]

end PullingRun

/-- The entry point that is pulled is the one of that name, of the vertex stage. -/
theorem pullingTarget_spec {m : Module} {entryPoint : String} {index : Nat} {entry : EntryPoint}
    (h : pullingTarget m entryPoint = .ok (index, entry)) :
    m.entryPoints[index]? = some entry ∧ entry.name = entryPoint ∧ entry.stage = .vertex := by
  unfold pullingTarget at h
  split at h
  · exact nomatch h
  · rename_i i hi
    split at h
    · exact nomatch h
    · rename_i e he
      split at h
      · rename_i hstage
        cases h
        -- the index that was found is that of an entry point of the name
        obtain ⟨hlt, hname, _⟩ := List.findIdx?_eq_some_iff_getElem.1 hi
        rw [List.getElem?_eq_getElem hlt] at he
        cases he
        exact ⟨List.getElem?_eq_getElem hlt, by simpa using hname, hstage⟩
      · exact nomatch h

/-- The global variable of a vertex buffer. -/
private theorem globals_getElem? (m : Module) (group wordsType : Nat) {count slot : Nat}
    (h : slot < count) :
    (m.globals ++ (List.range count).map (bufferGlobal group wordsType))[m.globals.length + slot]? =
      some (bufferGlobal group wordsType slot) := by
  rw [List.getElem?_append_right (by omega), Nat.add_sub_cancel_left, List.getElem?_map,
    List.getElem?_range h]
  rfl

/-- What the machine gives a vertex of a draw that reads its buffers in `group`. -/
def drawOf (machine : Machine) (state : State) (group : Nat) (vertexIndex instanceIndex : UInt32) :
    Draw where
  state := state
  words slot := machine.buffer ⟨group, slot⟩
  conversions := machine.conversions
  vertexIndex := vertexIndex
  instanceIndex := instanceIndex

/-- The run of the new entry point's function in the module `m'`. -/
def runOf (machine : Machine) (m m' : Module) (layout : WordLayout) (group : Nat)
    (vertexIndex instanceIndex : UInt32) : PullingRun where
  invocation := ⟨machine, m', [.scalar .uint vertexIndex, .scalar .uint instanceIndex]⟩
  scope := ⟨m'.types, layout, m.globals.length, 0, 1⟩
  vertexIndex := vertexIndex
  instanceIndex := instanceIndex
  word slot i :=
    (machine.buffer ⟨group, slot⟩)[i.toNat]?.getD (machine.outside ⟨group, slot⟩ i)

/-- The entry point whose function pulls its inputs and calls the function `inner`. -/
def pullingEntry (entryPoint : String) (entry : EntryPoint) (wordType : TypeId) (inner : FunctionId)
    (arguments : List ExprId) (built : Builder) : EntryPoint :=
  let finished := built.finish inner arguments entry.function.result.isSome
  { entry with function := {
      name := some entryPoint
      arguments := indexArguments wordType
      result := entry.function.result
      expressions := finished.expressions
      body := finished.body } }

/-- What a module that has been made to pull its inputs consists of. -/
structure Pulled (m m' : Module) (state : State) (entryPoint : String) (group index : Nat)
    (entry : EntryPoint) (layout : WordLayout) (wordType wordsType : TypeId) (arguments : List ExprId)
    (built : Builder) : Prop where
  target : pullingTarget m entryPoint = .ok (index, entry)
  placement : WordLayout.ofState state = .ok layout
  word : m'.types[wordType]? = some { shape := .scalar .u32 }
  words : m'.types[wordsType]? = some { shape := .array wordType .dynamic 4 }
  inputs : entry.function.arguments.mapM (fun a =>
      PullingScope.inputValue ⟨m'.types, layout, m.globals.length, 0, 1⟩ (m'.types.length + 1)
        a.binding a.type) { expressions := [.argument 0, .argument 1] } = .ok (arguments, built)
  globals : m'.globals =
    m.globals ++ (List.range state.length).map (bufferGlobal group wordsType)
  functions : m'.functions = m.functions ++ [demote entryPoint entry.function]
  entryPoints : m'.entryPoints = m.entryPoints.set index
    (pullingEntry entryPoint entry wordType m.functions.length arguments built)

/-- What pulling does to a module. -/
theorem pulled_of_pull {m m' : Module} {state : State} {entryPoint : String} {group : Nat}
    (h : pull m state entryPoint group = .ok m') :
    ∃ index entry layout wordType wordsType arguments built,
      Pulled m m' state entryPoint group index entry layout wordType wordsType arguments built := by
  unfold pull at h
  -- the first three steps give the target, the check of the group and the layout
  obtain ⟨⟨index, entry⟩, htarget, h⟩ := Except.bind_eq_ok_iff.1 h
  obtain ⟨_, _, h⟩ := Except.bind_eq_ok_iff.1 h
  obtain ⟨layout, hlayout, h⟩ := Except.bind_eq_ok_iff.1 h
  -- the two types are interned one after the other, so the first may be anywhere in the types that
  -- the second leaves
  have hword := internType_spec m.types { shape := .scalar .u32 }
  cases hu32 : internType m.types { shape := .scalar .u32 } with
  | mk types₁ wordType =>
    rw [hu32] at hword
    simp only [hu32] at h
    have hwords := internType_spec types₁ { shape := .array wordType .dynamic 4 }
    cases harray : internType types₁ { shape := .array wordType .dynamic 4 } with
    | mk types wordsType =>
      rw [harray] at hwords
      simp only [harray] at h
      obtain ⟨⟨arguments, built⟩, hinputs, h⟩ := Except.bind_eq_ok_iff.1 h
      cases h
      obtain ⟨rest, hrest⟩ : types₁ <+: types := hwords.1
      have hword' : types[wordType]? = some { shape := .scalar .u32 } := by
        rw [← hrest, List.getElem?_append_left (List.getElem?_eq_some_iff.1 hword.2).1, hword.2]
      exact ⟨index, entry, layout, wordType, wordsType, arguments, built, htarget, hlayout, hword',
        hwords.2, hinputs, rfl, rfl, rfl⟩

namespace Pulled

variable {m m' : Module} {state : State} {entryPoint : String} {group index : Nat}
  {entry : EntryPoint} {layout : WordLayout} {wordType wordsType : TypeId}
  {arguments : List ExprId} {built : Builder} {machine : Machine}
  {vertexIndex instanceIndex : UInt32}

/-- The variable of a vertex buffer comes after those of the buffers before it. -/
theorem buffer_eq
    (h : Pulled m m' state entryPoint group index entry layout wordType wordsType arguments built)
    {slot : Nat} (hslot : slot < state.length) :
    m'.globals[m.globals.length + slot]? = some (bufferGlobal group wordsType slot) := by
  rw [h.globals]
  exact globals_getElem? m group wordsType hslot

/-- The entry point that pulls its inputs stands where the original one did. -/
theorem entryPoint_eq
    (h : Pulled m m' state entryPoint group index entry layout wordType wordsType arguments built) :
    m'.entryPoints[index]? =
      some (pullingEntry entryPoint entry wordType m.functions.length arguments built) := by
  have hlt := (List.getElem?_eq_some_iff.1 (pullingTarget_spec h.target).1).1
  rw [h.entryPoints, List.getElem?_set_self hlt]

/-- The original function comes after all other functions. -/
theorem callee_eq
    (h : Pulled m m' state entryPoint group index entry layout wordType wordsType arguments built) :
    m'.functions[m.functions.length]? = some (demote entryPoint entry.function) := by
  rw [h.functions, List.getElem?_concat_length]

/-- There are as many buffers as the state has. -/
theorem buffers_length
    (h : Pulled m m' state entryPoint group index entry layout wordType wordsType arguments built) :
    layout.buffers.length = state.length := by
  rw [(WordLayout.placed_of_ofState h.placement).buffers, List.length_map]

/-- The new module serves words from the buffers of the group. -/
theorem serves
    (h : Pulled m m' state entryPoint group index entry layout wordType wordsType arguments built) :
    (runOf machine m m' layout group vertexIndex instanceIndex).Serves := by
  refine ⟨rfl, fun slot hslot i => ?_⟩
  have hglobal := h.buffer_eq (h.buffers_length ▸ hslot)
  simp [Invocation.word?, runOf, hglobal, bufferGlobal, Module.shape?, h.words, h.word, Scalar.u32]

/-- The run reads what the draw reads. -/
theorem draws
    (h : Pulled m m' state entryPoint group index entry layout wordType wordsType arguments built)
    (hsize : ∀ slot < state.length, (machine.buffer ⟨group, slot⟩).length ≤ 2 ^ 32) :
    (runOf machine m m' layout group vertexIndex instanceIndex).Draws
      (drawOf machine state group vertexIndex instanceIndex) where
  layout := WordLayout.placed_of_ofState h.placement
  conversions := rfl
  vertexIndex := rfl
  instanceIndex := rfl
  words slot i w hw := by
    have hw' : (machine.buffer ⟨group, slot⟩)[i.toNat]? = some w := hw
    simp [runOf, hw']
  size := hsize

end Pulled

/-- Running the new entry point calls the original function once, with the inputs that the draw gives it,
and returns what it returns. -/
theorem pull_calls_original {m m' : Module} {state : State} {entryPoint : String} {group : Nat}
    (h : pull m state entryPoint group = .ok m') (machine : Machine)
    (hsize : ∀ slot < state.length, (machine.buffer ⟨group, slot⟩).length ≤ 2 ^ 32)
    (vertexIndex instanceIndex : UInt32) :
    ∃ index entry entry' values execution,
      pullingTarget m entryPoint = .ok (index, entry) ∧
      m'.entryPoints[index]? = some entry' ∧
      m'.functions[m.functions.length]? = some (demote entryPoint entry.function) ∧
      machine.runVertex m' entry' vertexIndex instanceIndex = some execution ∧
      execution.calls = [(m.functions.length, values)] ∧
      execution.returned =
        some (entry.function.result.map fun _ => machine.call m.functions.length values) ∧
      List.Forall₂ (fun a v => (drawOf machine state group vertexIndex instanceIndex).Gives m'.types
        a.binding a.type v) entry.function.arguments values := by
  obtain ⟨index, entry, layout, wordType, wordsType, arguments, built, hp⟩ := pulled_of_pull h
  let r := runOf machine m m' layout group vertexIndex instanceIndex
  -- the builder stays sound from the two index arguments to the last input
  have hstart := r.sound_start rfl rfl rfl
  obtain ⟨vs, values, _, hsound, hvalues, hgives⟩ := PullingRun.mapM_values (r := r)
    (fun a _ => PullingRun.inputValue_values hp.serves (hp.draws hsize) _ a.binding a.type)
    hstart hp.inputs
  have hcallee := hp.callee_eq
  have hlength : (demote entryPoint entry.function).arguments.length = arguments.length := by
    simp [demote, hgives.length_eq, hvalues.length_eq]
  -- the body emits what is pending, calls the original function with these values, and returns what
  -- that gives
  obtain ⟨execution, hrun, hcalls, hreturned⟩ :=
    PullingRun.finish_runs hsound hvalues hcallee hlength
  refine ⟨index, entry,
    pullingEntry entryPoint entry wordType m.functions.length arguments built, values, execution,
    hp.target, hp.entryPoint_eq, hcallee, ?_, hcalls, ?_, hgives⟩
  · have hresult : (demote entryPoint entry.function).result.isSome =
        entry.function.result.isSome := by
      simp [demote]
    rw [hresult] at hrun
    exact hrun
  · rw [hreturned]
    simp [demote, Function.comp_def, r, runOf]

/-- A vertex entry point that takes a struct of the vertex index and a position of three floats. -/
def indexedPosition : Module where
  types := [⟨none, .scalar .f32⟩, ⟨none, .vector .three .f32⟩, ⟨none, .scalar .u32⟩,
    ⟨some "Input", .struct [⟨some "index", 2, some (.builtIn .vertexIndex), 0⟩,
      ⟨some "position", 1, some (.location 0 false none none), 16⟩] 32⟩]
  entryPoints := [
    { name := "main", stage := .vertex, function := { arguments := [⟨some "input", 3, none⟩] } }]

/-- Two floats for each vertex, after four bytes that no attribute reads. -/
def twoFloats : State := [⟨12, .perVertex, [⟨.float32x2, 4, 0⟩]⟩]

/-- A vertex entry point that takes a position, a tint and the vertex index, beside a fragment entry point and
two bound variables. -/
def tintedPosition : Module where
  types := [⟨none, .scalar .f32⟩, ⟨none, .vector .four .f32⟩, ⟨none, .scalar .u32⟩]
  globals := [{ name := some "camera", space := .uniform, binding := some ⟨0, 0⟩, type := 1 },
    { name := some "light", space := .uniform, binding := some ⟨0, 1⟩, type := 1 }]
  functions := [{ name := some "helper" }]
  entryPoints := [
    { name := "shade", stage := .fragment, function := {} },
    { name := "main", stage := .vertex, function := {
        arguments := [⟨some "position", 1, some (.location 0 false none none)⟩,
          ⟨some "tint", 1, some (.location 1 false none none)⟩,
          ⟨some "vertex", 2, some (.builtIn .vertexIndex)⟩]
        result := some ⟨1, some (.builtIn (.position false))⟩
        expressions := [.argument 0]
        body := [.ret (some 0)] } }]

/-- Positions of three floats and tints of four bytes, element after element. -/
def interleaved : State := [⟨16, .perVertex, [⟨.float32x3, 0, 0⟩, ⟨.unorm8x4, 12, 1⟩]⟩]

/-- A machine whose buffers hold two elements. -/
def twoElements : Machine where
  buffer _ := [0, 0x3f800000, 0x40000000, 0, 0x40400000, 0x40800000]
  outside _ _ := 0
  conversions := ⟨fun _ => 0, fun _ => 0, fun _ => 0, fun _ => 0, fun _ => 0⟩
  call _ _ := .composite []

theorem pull_calls_original_indexedPosition :
    ∃ m', pull indexedPosition twoFloats "main" 1 = .ok m' ∧
      (∀ slot < twoFloats.length, (twoElements.buffer ⟨1, slot⟩).length ≤ 2 ^ 32) ∧
      ∃ index entry entry' values execution,
        pullingTarget indexedPosition "main" = .ok (index, entry) ∧
        m'.entryPoints[index]? = some entry' ∧
        m'.functions[0]? = some (demote "main" entry.function) ∧
        twoElements.runVertex m' entry' 1 0 = some execution ∧
        execution.calls = [(0, values)] ∧
        execution.returned = some (entry.function.result.map fun _ => twoElements.call 0 values) ∧
        List.Forall₂ (fun a v => (drawOf twoElements twoFloats 1 1 0).Gives m'.types a.binding a.type v)
          entry.function.arguments values := by
  have hok : (pull indexedPosition twoFloats "main" 1).isOk = true := by decide +kernel
  cases h : pull indexedPosition twoFloats "main" 1 with
  | error e =>
    rw [h] at hok
    exact nomatch hok
  | ok m' =>
    have hsize : ∀ slot < twoFloats.length, (twoElements.buffer ⟨1, slot⟩).length ≤ 2 ^ 32 := by
      intro slot _
      simp [twoElements]
    exact ⟨m', rfl, hsize, pull_calls_original h twoElements hsize 1 0⟩

end ShaderKit.Vertex
