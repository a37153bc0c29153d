import Mathlib.Data.List.Forall2
import ShaderKit.Proofs.Vertex.Decoding
import ShaderKit.Proofs.Vertex.Placement

/-!
# What a vertex shader is given

The inputs of a vertex shader, as a draw defines them: an index, the attribute at a location, or a struct
of such.  An attribute is read from the bytes of its buffer at the current element, cut or filled up to
what the shader declares.  The pulling code computes exactly these inputs.

## Key results

- `PullingRun.held_fetched`: the fetched components are those at the attribute's bytes
- `PullingRun.inputValue_values`: the code for an input stands for what the draw gives it
-/

namespace ShaderKit.Vertex

open Ir

/-- One vertex of a draw. -/
structure Draw where
  state : State
  /-- The words of each vertex buffer. -/
  words : Nat → List UInt32
  conversions : ScalarConversions
  vertexIndex : UInt32
  instanceIndex : UInt32

/-- The value of an input that is made of components. -/
def inputOf (shape : Shape) (component : Nat → Value) : Value :=
  match shape with
  | .vector size _ => .composite ((List.range size.toNat).map component)
  | _ => component 0

namespace Draw

variable (d : Draw)

/-- The index by which a vertex buffer advances. -/
def index (step : StepMode) : UInt32 :=
  match step with
  | .perVertex => d.vertexIndex
  | .perInstance => d.instanceIndex

/-- The byte at which an attribute of the current element starts. -/
def start (layout : BufferLayout) (a : Attribute) : Nat :=
  (d.index layout.step).toNat * layout.stride.toNat + a.offset.toNat

/-- The words that an attribute of the current element covers lie inside its buffer. -/
def Covers (slot : Nat) (layout : BufferLayout) (a : Attribute) : Prop :=
  d.start layout a / 4 + a.format.words ≤ (d.words slot).length

/-- Component `i` of an attribute, or what a missing one reads as. -/
def component (slot : Nat) (layout : BufferLayout) (a : Attribute) (i : Nat) : Value :=
  if i < a.format.components then
    a.format.component d.conversions (bytesOf (d.words slot)) (d.start layout a) i
  else padding a.format.kind i

/-- What the draw gives an input of a shader: an index, the attribute at a location if its words lie
inside its buffer, or a struct of inputs. -/
inductive Gives (types : List TypeInfo) : Option IoBinding → TypeId → Value → Prop
  | vertexIndex {t : TypeId} :
    Gives types (some (.builtIn .vertexIndex)) t (.scalar .uint d.vertexIndex)
  | instanceIndex {t : TypeId} :
    Gives types (some (.builtIn .instanceIndex)) t (.scalar .uint d.instanceIndex)
  | location {location : Nat} {blend : Bool} {interpolation : Option Interpolation}
      {sampling : Option Sampling} {t : TypeId} {info : TypeInfo} {v : Value}
      (type : types[t]? = some info)
      (declared : ∃ slot layout a, Declares d.state slot layout a ∧ a.location.toNat = location)
      (value : ∀ slot layout a, Declares d.state slot layout a → a.location.toNat = location →
        d.Covers slot layout a → v = inputOf info.shape (d.component slot layout a)) :
    Gives types (some (.location location blend interpolation sampling)) t v
  | struct {t : TypeId} {name : Option String} {members : List StructMember} {span : Nat}
      {values : List Value} (type : types[t]? = some ⟨name, .struct members span⟩)
      (each : List.Forall₂ (fun m v => Gives types m.binding m.type v) members values) :
    Gives types none t (.composite values)

end Draw

namespace PullingRun

variable {r : PullingRun} {vs : List Value}

variable (r) in
/-- The run has the layout of the draw's state, and reads the draw's buffers. -/
structure Draws (d : Draw) : Prop where
  layout : r.scope.layout.Placed d.state (slotted d.state 0)
  conversions : r.invocation.machine.conversions = d.conversions
  vertexIndex : r.vertexIndex = d.vertexIndex
  instanceIndex : r.instanceIndex = d.instanceIndex
  words : ∀ slot (i : UInt32) w, (d.words slot)[i.toNat]? = some w → r.word slot i = w
  size : ∀ slot < d.state.length, (d.words slot).length ≤ 2 ^ 32

/-- The current element of a declared attribute's buffer, in words. -/
private theorem elementBase_eq {d : Draw} (hd : r.Draws d) {slot : Nat} {layout : BufferLayout}
    (h : d.state[slot]? = some layout) :
    r.elementBase slot = d.index layout.step * (layout.stride / 4).toUInt32 := by
  have hindex : r.index layout.step = d.index layout.step := by
    cases layout.step with
    | perVertex => exact hd.vertexIndex
    | perInstance => exact hd.instanceIndex
  simp only [elementBase, hd.layout.buffers_getElem? h, Option.getD_some, hindex]

/-- An attribute starts at a whole number of words. -/
private theorem start_eq {d : Draw} (hd : r.Draws d) {slot : Nat} {layout : BufferLayout}
    {a : Attribute} (h : Declares d.state slot layout a) :
    d.start layout a = 4 * ((d.index layout.step).toNat * (layout.stride / 4).toUInt32.toNat +
      (a.offset / 4).toUInt32.toNat) := by
  have hstride := (hd.layout.strides layout (List.mem_of_getElem? h.slot)).toNat_eq
  have hoffset := (hd.layout.offsets (slot, a) (mem_slotted.2 ⟨layout, h⟩)).toNat_eq
  rw [Draw.start, ← hstride, ← hoffset, Nat.mul_add, Nat.mul_left_comm]

/-- A word of an attribute that lies inside its buffer is loaded from there: the sums of the address do
not wrap around. -/
theorem fetched_getElem? {d : Draw} (hd : r.Draws d) {slot : Nat} {layout : BufferLayout}
    {a : Attribute} (h : Declares d.state slot layout a) (hc : d.Covers slot layout a) {w : Nat}
    (hw : w < a.format.words) :
    (r.fetched ⟨slot, a.format, (a.offset / 4).toUInt32⟩)[w]? =
      (d.words slot)[d.start layout a / 4 + w]? := by
  have hlt : d.start layout a / 4 + w < (d.words slot).length := by
    unfold Draw.Covers at hc
    omega
  have hsize := hd.size slot (List.getElem?_eq_some_iff.1 h.slot).1
  have hstart := start_eq hd h
  have haddress : (r.elementBase slot + ((a.offset / 4).toUInt32 + UInt32.ofNat w)).toNat =
      d.start layout a / 4 + w := by
    -- a buffer has at most 2 ^ 32 words, so an address inside it is less than that
    rw [elementBase_eq hd h.slot, UInt32.toNat_add, UInt32.toNat_mul, UInt32.toNat_add,
      UInt32.toNat_ofNat']
    generalize (d.index layout.step).toNat * (layout.stride / 4).toUInt32.toNat = base at *
    omega
  obtain ⟨word, hword⟩ : ∃ word, (d.words slot)[d.start layout a / 4 + w]? = some word :=
    ⟨_, List.getElem?_eq_getElem hlt⟩
  rw [fetched, List.getElem?_map, List.getElem?_range hw, hword, Option.map_some,
    hd.words slot _ word (by rw [haddress]; exact hword)]

/-- The fetched components are those at the attribute's bytes. -/
theorem held_fetched {d : Draw} (hd : r.Draws d) {slot : Nat} {layout : BufferLayout}
    {a : Attribute} (h : Declares d.state slot layout a) (hc : d.Covers slot layout a) :
    r.held a.format (r.fetched ⟨slot, a.format, (a.offset / 4).toUInt32⟩) =
      (List.range a.format.components).map (d.component slot layout a) := by
  refine List.map_congr_left fun i hi => ?_
  have hi : i < a.format.components := List.mem_range.1 hi
  have hw := Format.component_word_lt hi
  -- the word that is loaded is the one in which the component starts, here found from the start of
  -- the element
  have hget := fetched_getElem? hd h hc hw
  obtain ⟨word, hword⟩ : ∃ word,
      (d.words slot)[d.start layout a / 4 + i * a.format.componentBytes / 4]? = some word := by
    refine ⟨_, List.getElem?_eq_getElem ?_⟩
    unfold Draw.Covers at hc
    omega
  have hdrop : ((d.words slot).drop (d.start layout a / 4))[i * a.format.componentBytes / 4]? =
      some word := by
    rw [List.getElem?_drop]
    exact hword
  have hstart : d.start layout a = 4 * (d.start layout a / 4) := by
    have := start_eq hd h
    omega
  rw [Draw.component, if_pos hi, Format.component, Format.component, hd.conversions,
    Format.stored_of_word (hget.trans hword), hstart, Format.stored_drop,
    Format.stored_of_word hdrop]

variable (r) in
/-- Component `i` of what is loaded for an attribute, or what a missing one reads as. -/
def loaded (p : Placement) (i : Nat) : Value :=
  (r.held p.format (r.fetched p))[i]?.getD (padding p.format.kind i)

/-- Components of attributes are scalars. -/
private theorem parts_loaded (p : Placement) (i : Nat) : (r.loaded p i).parts = [r.loaded p i] := by
  have hdecode (c : ScalarConversions) (n : Nat) :
      (p.format.decode c n).parts = [p.format.decode c n] := by
    cases p.format <;> rfl
  unfold loaded
  cases hget : (r.held p.format (r.fetched p))[i]? with
  | none => rfl
  | some v =>
    obtain ⟨j, _, rfl⟩ := List.mem_map.1 (List.mem_of_getElem? hget)
    exact hdecode _ _

/-- What is loaded for an attribute whose words lie inside its buffer. -/
theorem loaded_eq {d : Draw} (hd : r.Draws d) {slot : Nat} {layout : BufferLayout} {a : Attribute}
    (h : Declares d.state slot layout a) (hc : d.Covers slot layout a) (i : Nat) :
    r.loaded ⟨slot, a.format, (a.offset / 4).toUInt32⟩ i = d.component slot layout a i := by
  rw [loaded, held_fetched hd h hc]
  by_cases hi : i < a.format.components
  · simp [hi]
  · simp [hi, Draw.component]

/-- The value that is made of components, as the code for it makes it. -/
def assembled (type : TypeId) (count : Nat) (values : List ExprId) : Build ExprId :=
  if count = 1 then return values.headD 0 else Builder.push (.compose type values)

/-- Components make up the value of an input. -/
private theorem assembled_yields (hr : r.Serves) {type : TypeId} {info : TypeInfo} {count : Nat}
    {scalar : Scalar} (htype : r.scope.types[type]? = some info)
    (hshape : PullingScope.inputComponents? info.shape = some (count, scalar)) {es : List ExprId}
    {component : Nat → Value} (hparts : ∀ i, (component i).parts = [component i])
    (h : Stand vs es ((List.range count).map component)) :
    r.Yields (assembled type count es) vs fun us e =>
      us[e]? = some (inputOf info.shape component) := by
  cases hs : info.shape with
  | scalar scalar' =>
    rw [hs, PullingScope.inputComponents?, Option.some.injEq, Prod.mk.injEq] at hshape
    obtain ⟨rfl, rfl⟩ := hshape
    exact Yields.pure (h.headD rfl)
  | vector size scalar' =>
    rw [hs, PullingScope.inputComponents?, Option.some.injEq, Prod.mk.injEq] at hshape
    obtain ⟨rfl, rfl⟩ := hshape
    have hne : size.toNat ≠ 1 := by cases size <;> decide
    -- a vector is composed of the parts of its components, and these are scalars
    have hflat : ((List.range size.toNat).map component).flatMap Value.parts =
        (List.range size.toNat).map component := by
      rw [List.flatMap_map]
      simp only [hparts]
      exact List.map_eq_flatMap.symm
    have hmodule : r.invocation.module.shape? type = some (.vector size scalar') := by
      rw [Module.shape?, hr.types, htype, Option.map_some, hs]
    unfold assembled
    rw [if_neg hne]
    refine Yields.push ?_
    simp only [Invocation.eval, h.mapM_eq, hmodule, Option.bind_eq_bind, Option.bind_some,
      Invocation.composed?, hflat]
    simp [inputOf]
  | _ => simp [hs, PullingScope.inputComponents?] at hshape

/-- What pulling an attribute does, where it does not fail. -/
theorem pullAttribute_eq_ok {s : PullingScope} {location : Nat} {type : TypeId} {shape : Shape}
    {b b' : Builder} {e : ExprId} (h : s.pullAttribute location type shape b = .ok (e, b')) :
    ∃ count scalar p words, PullingScope.inputComponents? shape = some (count, scalar) ∧
      s.layout.attributes.lookup location = some p ∧
      (scalar.kind = p.format.kind.scalarKind ∧ scalar.width = 4) ∧ p.words? = some words ∧
      (do
        let values ← Build.fetch s p words
        let fitted ← Build.fit scalar.kind count values
        assembled type count fitted : Build ExprId) b = (e, b') := by
  unfold PullingScope.pullAttribute at h
  -- the checks in their order: any that fails contradicts that a result was given
  cases hshape : PullingScope.inputComponents? shape with
  | none =>
    simp only [hshape] at h
    exact nomatch h
  | some input =>
    obtain ⟨count, scalar⟩ := input
    cases hp : s.layout.attributes.lookup location with
    | none =>
      simp only [hshape, hp] at h
      exact nomatch h
    | some p =>
      by_cases hkind : scalar.kind ≠ p.format.kind.scalarKind ∨ scalar.width ≠ 4
      · simp only [hshape, hp, if_pos hkind] at h
        exact nomatch h
      · simp only [hshape, hp, if_neg hkind] at h
        cases hwords : p.words? with
        | none =>
          simp only [hwords] at h
          exact nomatch h
        | some words =>
          simp only [hwords] at h
          exact ⟨count, scalar, p, words, rfl, rfl, by simpa using hkind, hwords, Except.ok.inj h⟩

/-- The code for the input at a location stands for what is loaded for its attribute. -/
theorem pullAttribute_yields (hr : r.Serves) {d : Draw} (hd : r.Draws d) {location : Nat}
    {type : TypeId} {info : TypeInfo} (htype : r.scope.types[type]? = some info) {b b' : Builder}
    {e : ExprId} (hb : r.Sound b vs)
    (h : r.scope.pullAttribute location type info.shape b = .ok (e, b')) :
    ∃ us p, vs <+: us ∧ r.Sound b' us ∧ r.scope.layout.attributes.lookup location = some p ∧
      us[e]? = some (inputOf info.shape (r.loaded p)) := by
  obtain ⟨count, scalar, p, words, hshape, hp, ⟨hkind, _⟩, hwords, hrun⟩ := pullAttribute_eq_ok h
  have hbuffer := hd.layout.buffer_lt hp
  -- fetch, fit and assemble, each on the values that the one before left
  have hyields : r.Yields (do
      let values ← Build.fetch r.scope p words
      let fitted ← Build.fit scalar.kind count values
      assembled type count fitted) vs fun us e =>
      us[e]? = some (inputOf info.shape (r.loaded p)) := by
    refine Yields.bind (fetch_yields hr hbuffer hwords) fun values us₁ h₁ hvalues => ?_
    rw [hkind]
    refine Yields.bind (fit_yields hvalues p.format.kind count) fun fitted us₂ h₂ hfitted => ?_
    exact assembled_yields hr htype hshape (parts_loaded p) hfitted
  obtain ⟨us, hus, hsound, he⟩ := hyields b hb
  rw [hrun] at hsound he
  exact ⟨us, p, hus, hsound, hp, he⟩

variable (r) in
/-- Where the action does not fail, it leaves a sound builder with more values, and its result has a value
of which `post` holds. -/
def Values (action : StateT Builder (Except PullingError) ExprId) (post : Value → Prop) : Prop :=
  ∀ b vs e b', r.Sound b vs → action b = .ok (e, b') →
    ∃ us v, vs <+: us ∧ r.Sound b' us ∧ us[e]? = some v ∧ post v

/-- Actions one after another, where none of them fails. -/
theorem mapM_values {ι : Type} {f : ι → StateT Builder (Except PullingError) ExprId}
    {post : ι → Value → Prop} {l : List ι} (hf : ∀ i ∈ l, r.Values (f i) (post i)) {b b' : Builder}
    {vs : List Value} {es : List ExprId} (hb : r.Sound b vs) (h : l.mapM f b = .ok (es, b')) :
    ∃ us ws, vs <+: us ∧ r.Sound b' us ∧ Stand us es ws ∧ List.Forall₂ post l ws := by
  induction l generalizing b vs es with
  | nil =>
    cases h
    exact ⟨vs, [], List.prefix_refl vs, hb, rfl, .nil⟩
  | cons i rest ih =>
    rw [List.mapM_cons] at h
    -- none of the actions fails, so the first leaves a sound builder for the rest
    cases hi : f i b with
    | error e =>
      simp only [bind, StateT.bind, hi] at h
      exact nomatch h
    | ok p =>
      obtain ⟨e, b₁⟩ := p
      cases hrest : rest.mapM f b₁ with
      | error e =>
        simp only [bind, StateT.bind, hi, Except.bind, hrest] at h
        exact nomatch h
      | ok q =>
        obtain ⟨es', b₂⟩ := q
        simp only [bind, StateT.bind, hi, Except.bind, hrest] at h
        cases h
        obtain ⟨us₁, v, h₁, hb₁, he, hv⟩ := hf i (by simp) b vs e b₁ hb hi
        obtain ⟨us₂, ws, h₂, hb₂, hes, hws⟩ :=
          ih (fun j hj => hf j (List.mem_cons_of_mem _ hj)) hb₁ hrest
        refine ⟨us₂, v :: ws, h₁.trans h₂, hb₂, ?_, .cons hv hws⟩
        simp only [Stand, List.map_cons, h₂.getElem?_eq_some he]
        rw [hes]

/-- The code for an input at a location stands for the attribute there. -/
private theorem locationInput_values (hr : r.Serves) {d : Draw} (hd : r.Draws d) (fuel : Nat)
    (location : Nat) (blend : Bool) (interpolation : Option Interpolation)
    (sampling : Option Sampling) (type : TypeId) :
    r.Values (r.scope.inputValue fuel (some (.location location blend interpolation sampling)) type)
      (d.Gives r.scope.types (some (.location location blend interpolation sampling)) type) := by
  intro b vs e b' hb h
  unfold PullingScope.inputValue at h
  cases htype : r.scope.types[type]? with
  | none =>
    simp only [htype] at h
    exact nomatch h
  | some info =>
    simp only [htype] at h
    obtain ⟨us, p, hus, hsound, hp, he⟩ := pullAttribute_yields hr hd htype hb h
    refine ⟨us, _, hus, hsound, he, ?_⟩
    obtain ⟨layout, a, hdeclares, hlocation, hformat, hfirst⟩ := hd.layout.lookup_eq_some hp
    refine .location htype ⟨_, layout, a, hdeclares, hlocation⟩ ?_
    intro slot layout' a' hdeclares' hlocation' hc
    -- no two attributes share a location, so it is the one that was looked up
    obtain ⟨rfl, rfl, rfl⟩ := hd.layout.declares_unique hdeclares hdeclares'
      (UInt32.toNat_inj.1 (hlocation.trans hlocation'.symm))
    have hplacement : p = ⟨p.buffer, a.format, (a.offset / 4).toUInt32⟩ := by
      rw [← hformat, ← hfirst]
    rw [hplacement]
    exact congrArg (inputOf info.shape) (funext fun i => loaded_eq hd hdeclares hc i)

/-- The code for a builtin input stands for its index. -/
private theorem builtInInput_values {d : Draw} (hd : r.Draws d) (fuel : Nat) (builtIn : BuiltIn)
    (type : TypeId) : r.Values (r.scope.inputValue fuel (some (.builtIn builtIn)) type)
      (d.Gives r.scope.types (some (.builtIn builtIn)) type) := by
  intro b vs e b' hb h
  -- the two indices are arguments of the new entry function, and any other builtin is refused
  cases builtIn with
  | vertexIndex =>
    simp only [PullingScope.inputValue] at h
    cases h
    exact ⟨vs, _, List.prefix_refl vs, hb, hb.vertexIndex, hd.vertexIndex ▸ .vertexIndex⟩
  | instanceIndex =>
    simp only [PullingScope.inputValue] at h
    cases h
    exact ⟨vs, _, List.prefix_refl vs, hb, hb.instanceIndex, hd.instanceIndex ▸ .instanceIndex⟩
  | _ =>
    simp only [PullingScope.inputValue] at h
    exact nomatch h

/-- The code for a struct of inputs stands for the struct of what its members stand for. -/
private theorem structInput_values (hr : r.Serves) {d : Draw} {type : TypeId} {name : Option String}
    {members : List StructMember} {span : Nat} {fuel : Nat}
    (htype : r.scope.types[type]? = some ⟨name, .struct members span⟩)
    (hmembers : ∀ m ∈ members, r.Values (r.scope.inputValue fuel m.binding m.type)
      (d.Gives r.scope.types m.binding m.type)) :
    r.Values (r.scope.inputValue (fuel + 1) none type) (d.Gives r.scope.types none type) := by
  intro b vs e b' hb h
  simp only [PullingScope.inputValue, htype] at h
  -- the members stand for values, of which the struct is composed
  cases hrun : members.mapM (fun m => r.scope.inputValue fuel m.binding m.type) b with
  | error err =>
    simp only [bind, StateT.bind, hrun] at h
    exact nomatch h
  | ok p =>
    obtain ⟨components, b₁⟩ := p
    simp only [bind, StateT.bind, hrun, Except.bind] at h
    obtain ⟨us, values, hus, hb₁, hes, heach⟩ := mapM_values hmembers hb hrun
    have hmodule : r.invocation.module.shape? type = some (.struct members span) := by
      rw [Module.shape?, hr.types, htype, Option.map_some]
    -- composing gives one value for each member, as many as the struct has
    have heval : r.invocation.eval (us[·]?) (.compose type components) =
        some (.composite values) := by
      simp [Invocation.eval, hes.mapM_eq, hmodule, Invocation.composed?, heach.length_eq]
    obtain ⟨us', hus', hb', he⟩ := Yields.push heval b₁ hb₁
    rw [Except.ok.inj h] at hb' he
    exact ⟨us', _, hus.trans hus', hb', he, .struct htype heach⟩

/-- The code for an input stands for what the draw gives it. -/
theorem inputValue_values (hr : r.Serves) {d : Draw} (hd : r.Draws d) (fuel : Nat)
    (binding : Option IoBinding) (type : TypeId) :
    r.Values (r.scope.inputValue fuel binding type) (d.Gives r.scope.types binding type) := by
  induction fuel generalizing binding type with
  | zero =>
    match binding with
    | some (.builtIn builtIn) => exact builtInInput_values hd 0 builtIn type
    | some (.location location blend interpolation sampling) =>
      exact locationInput_values hr hd 0 location blend interpolation sampling type
    | none => exact fun _ _ _ _ _ h => nomatch h
  | succ fuel ih =>
    match binding with
    | some (.builtIn builtIn) => exact builtInInput_values hd _ builtIn type
    | some (.location location blend interpolation sampling) =>
      exact locationInput_values hr hd _ location blend interpolation sampling type
    | none =>
      cases htype : r.scope.types[type]? with
      | none =>
        intro b vs e b' _ h
        simp only [PullingScope.inputValue, htype] at h
        exact nomatch h
      | some info =>
        obtain ⟨name, shape⟩ := info
        -- without a binding only a struct is an input, and its members have less fuel
        cases shape with
        | struct members span =>
          exact structInput_values hr htype fun m _ => ih m.binding m.type
        | _ =>
          intro b vs e b' _ h
          simp only [PullingScope.inputValue, htype] at h
          exact nomatch h

end PullingRun

end ShaderKit.Vertex
