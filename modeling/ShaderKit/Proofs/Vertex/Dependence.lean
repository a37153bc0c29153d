import Mathlib.Logic.Relation
import ShaderKit.Proofs.Std.List
import ShaderKit.Proofs.Vertex.Acceptance
import ShaderKit.Proofs.Vertex.WellTyped

/-!
# What the pulling code depends on

Of a vertex state the new code depends on the strides and the step modes of the buffers, and on the attributes
at the locations that the entry point reads.  In which order a buffer lists its attributes does not matter, nor
do attributes that are not read: the builder looks an attribute up by its location, once for each input, and the
inputs decide which expressions come when.

## Key results

- `WordLayout.Placed.lookup_eq_some_iff`: what is found at a location is what the state assigns to it
- `PullingScope.inputValue_eq`: two layouts give the same code if they have the same at the locations it reads
- `State.Edit.agreeOn`: what changes of a state are not seen at the locations that are read
- `pull_reads_only`: states that agree on what is read give the same module, or the same error
-/

namespace ShaderKit.Vertex

open Ir

/-! ### What a state says of a location -/

namespace State

/-- The attribute at the location is in the buffer at `slot`, and has this format and this offset. -/
def Assigns (state : State) (location slot : Nat) (format : Format) (offset : UInt64) : Prop :=
  ∃ layout a, Declares state slot layout a ∧ a.location.toNat = location ∧ a.format = format ∧
    a.offset = offset

/-- The states have as many buffers, with the same strides and step modes, and the same attributes at the
locations that are read. -/
structure AgreeOn (reads : Nat → Prop) (state state' : State) : Prop where
  buffers : state.map (fun b => (b.stride, b.step)) = state'.map fun b => (b.stride, b.step)
  attributes : ∀ location, reads location → ∀ slot format offset,
    state.Assigns location slot format offset ↔ state'.Assigns location slot format offset

variable {reads : Nat → Prop} {state state' state'' : State}

theorem AgreeOn.refl (reads : Nat → Prop) (state : State) : state.AgreeOn reads state :=
  ⟨rfl, fun _ _ _ _ _ => Iff.rfl⟩

theorem AgreeOn.trans (h : state.AgreeOn reads state') (h' : state'.AgreeOn reads state'') :
    state.AgreeOn reads state'' where
  buffers := h.buffers.trans h'.buffers
  attributes location hread slot format offset :=
    (h.attributes location hread slot format offset).trans
      (h'.attributes location hread slot format offset)

theorem AgreeOn.length_eq (h : state.AgreeOn reads state') : state.length = state'.length := by
  simpa using congrArg List.length h.buffers

/-- A change to the attributes of one buffer that does not matter where only some locations are read: they come
in another order, or one that is not read is added, removed or replaced by another one that is not. -/
inductive Edit (reads : Nat → Prop) (state : State) : State → Prop
  | permute {slot : Nat} {layout : BufferLayout} {attributes : List Attribute}
      (hslot : state[slot]? = some layout) (hperm : attributes.Perm layout.attributes) :
    Edit reads state (state.set slot { layout with attributes })
  | add {slot : Nat} {layout : BufferLayout} {first last : List Attribute} {a : Attribute}
      (hslot : state[slot]? = some layout) (hattributes : layout.attributes = first ++ last)
      (hunread : ¬ reads a.location.toNat) :
    Edit reads state (state.set slot { layout with attributes := first ++ a :: last })
  | remove {slot : Nat} {layout : BufferLayout} {first last : List Attribute} {a : Attribute}
      (hslot : state[slot]? = some layout) (hattributes : layout.attributes = first ++ a :: last)
      (hunread : ¬ reads a.location.toNat) :
    Edit reads state (state.set slot { layout with attributes := first ++ last })
  | change {slot : Nat} {layout : BufferLayout} {first last : List Attribute} {a a' : Attribute}
      (hslot : state[slot]? = some layout) (hattributes : layout.attributes = first ++ a :: last)
      (hunread : ¬ reads a.location.toNat) (hunread' : ¬ reads a'.location.toNat) :
    Edit reads state (state.set slot { layout with attributes := first ++ a' :: last })

/-- Other attributes agree with those that were there, if they are the same at what is read. -/
theorem agreeOn_set {slot : Nat} {layout : BufferLayout} {attributes : List Attribute}
    (hslot : state[slot]? = some layout)
    (hsame : ∀ a, reads a.location.toNat → (a ∈ layout.attributes ↔ a ∈ attributes)) :
    state.AgreeOn reads (state.set slot { layout with attributes }) where
  buffers := by
    refine List.ext_getElem? fun i => ?_
    rw [List.getElem?_map, List.getElem?_map]
    by_cases hi : i = slot
    -- the buffer at the slot keeps its stride and its step
    · rw [hi, hslot, List.getElem?_set_self (List.getElem?_eq_some_iff.1 hslot).1]
      rfl
    · rw [List.getElem?_set_ne (Ne.symm hi)]
  attributes location hread slot' format offset := by
    have hset : (state.set slot { layout with attributes })[slot]? = some { layout with attributes } :=
      List.getElem?_set_self (List.getElem?_eq_some_iff.1 hslot).1
    -- at the slot itself what is read is the same before and after, the other slots are left alone
    by_cases hslot' : slot' = slot
    · subst hslot'
      constructor
      · rintro ⟨found, a, ⟨hfound, ha⟩, rfl, rest⟩
        cases hslot.symm.trans hfound
        exact ⟨_, a, ⟨hset, (hsame a hread).1 ha⟩, rfl, rest⟩
      · rintro ⟨found, a, ⟨hfound, ha⟩, rfl, rest⟩
        cases hset.symm.trans hfound
        exact ⟨_, a, ⟨hslot, (hsame a hread).2 ha⟩, rfl, rest⟩
    · have hother : (state.set slot { layout with attributes })[slot']? = state[slot']? :=
        List.getElem?_set_ne (Ne.symm hslot')
      have hdeclares (found : BufferLayout) (a : Attribute) :
          Declares (state.set slot { layout with attributes }) slot' found a ↔
            Declares state slot' found a :=
        ⟨fun h => ⟨hother.symm.trans h.slot, h.mem⟩, fun h => ⟨hother.trans h.slot, h.mem⟩⟩
      simp only [Assigns, hdeclares]

theorem Edit.agreeOn (h : Edit reads state state') : state.AgreeOn reads state' := by
  -- what is read is neither what was added nor what was taken away
  have hne {a b : Attribute} (ha : reads a.location.toNat) (hb : ¬ reads b.location.toNat) : a ≠ b :=
    fun heq => hb (heq ▸ ha)
  cases h with
  | permute hslot hperm => exact agreeOn_set hslot fun a _ => hperm.mem_iff.symm
  | add hslot hattributes hunread =>
    refine agreeOn_set hslot fun a ha => ?_
    simp [hattributes, hne ha hunread]
  | remove hslot hattributes hunread =>
    refine agreeOn_set hslot fun a ha => ?_
    simp [hattributes, hne ha hunread]
  | change hslot hattributes hunread hunread' =>
    refine agreeOn_set hslot fun a ha => ?_
    simp [hattributes, hne ha hunread, hne ha hunread']

/-- However many changes there are, the states agree on what is read. -/
theorem AgreeOn.of_edits (h : Relation.ReflTransGen (Edit reads) state state') :
    state.AgreeOn reads state' := by
  induction h with
  | refl => exact .refl reads state
  | tail _ hedit ih => exact ih.trans hedit.agreeOn

end State

namespace WordLayout

variable {l l' : WordLayout} {state state' : State} {location : Nat} {p : Placement}

/-- What is found at a location is what the state assigns to it, in words. -/
theorem Placed.lookup_eq_some_iff (hp : l.Placed state (slotted state 0)) :
    l.attributes.lookup location = some p ↔ ∃ offset,
      state.Assigns location p.buffer p.format offset ∧ p.firstWord = (offset / 4).toUInt32 := by
  constructor
  · intro h
    obtain ⟨layout, a, hdeclares, hlocation, hformat, hfirst⟩ := hp.lookup_eq_some h
    exact ⟨a.offset, ⟨layout, a, hdeclares, hlocation, hformat.symm, rfl⟩, hfirst⟩
  · rintro ⟨_, ⟨layout, a, hdeclares, rfl, hformat, rfl⟩, hfirst⟩
    obtain ⟨found, hfound, _⟩ := hp.lookup_of_declares hdeclares
    obtain ⟨layout', a', hdeclares', hlocation', hformat', hfirst'⟩ := hp.lookup_eq_some hfound
    -- a location has one attribute only, so it is the one that was found
    obtain ⟨hslot, _, rfl⟩ :=
      hp.declares_unique hdeclares hdeclares' (UInt32.toNat_inj.1 hlocation'.symm)
    have hsame : found = p := by
      cases found
      cases p
      simp only [Placement.mk.injEq]
      exact ⟨hslot.symm, hformat'.trans hformat, hfirst'.trans hfirst.symm⟩
    rw [hfound, hsame]

/-- States that agree on a location have the same placement there. -/
theorem Placed.lookup_eq {reads : Nat → Prop} (hp : l.Placed state (slotted state 0))
    (hp' : l'.Placed state' (slotted state' 0)) (h : state.AgreeOn reads state') (hread : reads location) :
    l.attributes.lookup location = l'.attributes.lookup location := by
  ext p
  rw [hp.lookup_eq_some_iff, hp'.lookup_eq_some_iff]
  exact exists_congr fun offset =>
    and_congr_left fun _ => h.attributes location hread p.buffer p.format offset

/-- States whose buffers are the same have them in words. -/
theorem Placed.buffers_eq {reads : Nat → Prop} (hp : l.Placed state (slotted state 0))
    (hp' : l'.Placed state' (slotted state' 0)) (h : state.AgreeOn reads state') :
    l.buffers = l'.buffers := by
  have hwords (state : State) : state.map (fun b => (⟨(b.stride / 4).toUInt32, b.step⟩ : WordBuffer)) =
      (state.map fun b => (b.stride, b.step)).map fun (stride, step) => ⟨(stride / 4).toUInt32, step⟩ := by
    rw [List.map_map]
    rfl
  rw [hp.buffers, hp'.buffers, hwords state, hwords state', h.buffers]

end WordLayout

/-! ### The code of an input -/

namespace PullingScope

variable {s : PullingScope} {layout : WordLayout}

/-- Code that reads an attribute depends on the buffers of the layout only. -/
theorem fetch_eq (hbuffers : layout.buffers = s.layout.buffers) (p : Placement) (words : List UInt32) :
    Build.fetch { s with layout } p words = Build.fetch s p words := by
  obtain ⟨types, ⟨buffers, attributes⟩, firstBuffer, vertexIndex, instanceIndex⟩ := s
  obtain ⟨buffers', attributes'⟩ := layout
  obtain rfl : buffers' = buffers := hbuffers
  rfl

theorem pullAttribute_eq (hbuffers : layout.buffers = s.layout.buffers) {location : Nat}
    (hsame : layout.attributes.lookup location = s.layout.attributes.lookup location) (type : TypeId)
    (shape : Shape) :
    PullingScope.pullAttribute { s with layout } location type shape =
      s.pullAttribute location type shape := by
  unfold pullAttribute
  simp only [hsame, fetch_eq hbuffers]

/-- An input at a location depends on the attribute there, and the other inputs with a binding on none. -/
theorem inputValue_some_eq (hbuffers : layout.buffers = s.layout.buffers) (fuel : Nat)
    (binding : IoBinding) (type : TypeId)
    (hsame : ∀ location blend interpolation sampling,
      binding = .location location blend interpolation sampling →
        layout.attributes.lookup location = s.layout.attributes.lookup location) :
    PullingScope.inputValue { s with layout } fuel (some binding) type =
      s.inputValue fuel (some binding) type := by
  unfold inputValue
  cases binding with
  | builtIn builtIn => cases builtIn <;> rfl
  | location location blend interpolation sampling =>
    simp only [pullAttribute_eq hbuffers (hsame _ _ _ _ rfl)]

/-- Two layouts with the same buffers give the same code for an input, if they have the same attributes at the
locations of its parts. -/
theorem inputValue_eq (hbuffers : layout.buffers = s.layout.buffers) (fuel : Nat)
    (binding : Option IoBinding) (type : TypeId)
    (hsame : ∀ location blend interpolation sampling part,
      IsPart s.types binding type (some (.location location blend interpolation sampling)) part →
        layout.attributes.lookup location = s.layout.attributes.lookup location) :
    PullingScope.inputValue { s with layout } fuel binding type = s.inputValue fuel binding type := by
  -- induction on the fuel: an input with a binding is one attribute, a struct is left to its
  -- members
  induction fuel generalizing binding type with
  | zero =>
    cases binding with
    | none => rfl
    | some binding =>
      refine inputValue_some_eq hbuffers 0 binding type ?_
      rintro location blend interpolation sampling rfl
      exact hsame _ _ _ _ _ .whole
  | succ fuel ih =>
    cases binding with
    | some binding =>
      refine inputValue_some_eq hbuffers (fuel + 1) binding type ?_
      rintro location blend interpolation sampling rfl
      exact hsame _ _ _ _ _ .whole
    | none =>
      unfold inputValue
      cases htype : s.types[type]? with
      | none => rfl
      | some info =>
        obtain ⟨name, shape⟩ := info
        cases shape with
        | struct members span =>
          have hmembers : (members.mapM fun m =>
              PullingScope.inputValue { s with layout } fuel m.binding m.type) =
                members.mapM fun m => s.inputValue fuel m.binding m.type :=
            List.mapM_congr fun m hm => ih m.binding m.type
              fun location blend interpolation sampling part hpart =>
                hsame location blend interpolation sampling part (.member htype hm hpart)
          simp only [hmembers]
        | _ => rfl

end PullingScope

/-! ### The module -/

variable {m : Module} {state state' : State} {entryPoint : String} {group : Nat}

/-- The entry point of that name has an input at the location: an argument, or a member of a struct. -/
def Reads (m : Module) (entryPoint : String) (location : Nat) : Prop :=
  ∃ entry blend interpolation sampling type,
    m.entryPoints.find? (·.name == entryPoint) = some entry ∧
      IsInput m.types entry.function.arguments
        (some (.location location blend interpolation sampling)) type

/-- The new code is the same for states that agree on what the entry point reads. -/
theorem inputs_eq {index : Nat} {entry : EntryPoint} {layout layout' : WordLayout}
    (htarget : pullingTarget m entryPoint = .ok (index, entry))
    (hs : layout.Placed state (slotted state 0)) (hs' : layout'.Placed state' (slotted state' 0))
    (h : state.AgreeOn (Reads m entryPoint) state') (fuel : Nat) :
    (entry.function.arguments.mapM fun a =>
        PullingScope.inputValue ⟨pullingTypes m, layout, m.globals.length, 0, 1⟩ fuel a.binding a.type) =
      entry.function.arguments.mapM fun a =>
        PullingScope.inputValue ⟨pullingTypes m, layout', m.globals.length, 0, 1⟩ fuel a.binding a.type := by
  have hfound := (exists_pullingTarget_iff.1 ⟨index, htarget⟩).1
  refine List.mapM_congr fun a ha => ?_
  refine PullingScope.inputValue_eq (s := ⟨pullingTypes m, layout', m.globals.length, 0, 1⟩)
    (hs.buffers_eq hs' h) fuel a.binding a.type ?_
  intro location blend interpolation sampling part hpart
  -- a part of an argument is an input of the entry point, so both states have the same there
  have hinput : IsInput (pullingTypes m) entry.function.arguments
      (some (.location location blend interpolation sampling)) part := ⟨a, ha, hpart⟩
  exact hs.lookup_eq hs' h ⟨entry, blend, interpolation, sampling, part, hfound, hinput.of_pullingTypes⟩

/-- What pulling makes of the code for the inputs, with buffers at so many slots. -/
def pulledWith (m : Module) (entryPoint : String) (group index : Nat) (entry : EntryPoint) (slots : Nat)
    (inputs : Except PullingError (List ExprId × Builder)) : Except PullingError Module := do
  let (types, wordType) := internType m.types { shape := .scalar .u32 }
  let (types, wordsType) := internType types { shape := .array wordType .dynamic 4 }
  let (arguments, built) ← inputs
  return { m with
    types
    globals := m.globals ++ (List.range slots).map (bufferGlobal group wordsType)
    functions := m.functions ++ [demote entryPoint entry.function]
    entryPoints := m.entryPoints.set index
      (pullingEntry entryPoint entry wordType m.functions.length arguments built) }

/-- Behind the first checks, the state matters for the code of the inputs and for the number of slots. -/
theorem pull_eq_pulledWith {index : Nat} {entry : EntryPoint} {layout : WordLayout}
    (htarget : pullingTarget m entryPoint = .ok (index, entry))
    (hgroup : checkPullingGroup m group = .ok ()) (hlayout : WordLayout.ofState state = .ok layout) :
    pull m state entryPoint group = pulledWith m entryPoint group index entry state.length
      ((entry.function.arguments.mapM fun a =>
        PullingScope.inputValue ⟨pullingTypes m, layout, m.globals.length, 0, 1⟩
          ((pullingTypes m).length + 1) a.binding a.type) { expressions := [.argument 0, .argument 1] }) := by
  simp only [pull, htarget, hgroup, hlayout, bind, Except.bind]
  rfl

/-- States that can be turned into words and agree on what the entry point reads give the same outcome. -/
theorem pull_eq_of_agreeOn {layout layout' : WordLayout} (hlayout : WordLayout.ofState state = .ok layout)
    (hlayout' : WordLayout.ofState state' = .ok layout') (h : state.AgreeOn (Reads m entryPoint) state') :
    pull m state entryPoint group = pull m state' entryPoint group := by
  have hs := WordLayout.placed_of_ofState hlayout
  have hs' := WordLayout.placed_of_ofState hlayout'
  -- the first checks do not look at the state
  cases htarget : pullingTarget m entryPoint with
  | error e => simp only [pull, htarget, bind, Except.bind]
  | ok target =>
    obtain ⟨index, entry⟩ := target
    cases hgroup : checkPullingGroup m group with
    | error e => simp only [pull, htarget, hgroup, bind, Except.bind]
    | ok _ =>
      rw [pull_eq_pulledWith htarget hgroup hlayout, pull_eq_pulledWith htarget hgroup hlayout',
        h.length_eq, inputs_eq htarget hs hs' h]

/-- The outcome, be it a module or an error, depends on what the entry point reads.  It is the same for two
states that can be turned into words and agree on that, and so for any two of which one becomes the other by
permuting the attributes of a buffer and by adding, removing and changing attributes that are not read. -/
theorem pull_reads_only (m : Module) (entryPoint : String) (group : Nat) (state state' : State)
    (hstate : ∃ layout, WordLayout.ofState state = .ok layout)
    (hstate' : ∃ layout, WordLayout.ofState state' = .ok layout) :
    (state.AgreeOn (Reads m entryPoint) state' →
      pull m state entryPoint group = pull m state' entryPoint group) ∧
    (Relation.ReflTransGen (State.Edit (Reads m entryPoint)) state state' →
      pull m state entryPoint group = pull m state' entryPoint group) := by
  obtain ⟨layout, hlayout⟩ := hstate
  obtain ⟨layout', hlayout'⟩ := hstate'
  exact ⟨pull_eq_of_agreeOn hlayout hlayout',
    fun h => pull_eq_of_agreeOn hlayout hlayout' (.of_edits h)⟩

/-- The attributes in another order, with one more between them at a location that is not read. -/
def shuffled : State :=
  [⟨16, .perVertex, [⟨.unorm8x4, 12, 1⟩, ⟨.uint32, 4, 7⟩, ⟨.float32x3, 0, 0⟩]⟩]

theorem pull_reads_only_shuffled :
    (∃ layout, WordLayout.ofState interleaved = .ok layout) ∧
    (∃ layout, WordLayout.ofState shuffled = .ok layout) ∧
    Relation.ReflTransGen (State.Edit (Reads tintedPosition "main")) interleaved shuffled ∧
    interleaved.AgreeOn (Reads tintedPosition "main") shuffled ∧
    pull tintedPosition interleaved "main" 1 = pull tintedPosition shuffled "main" 1 ∧
    ∃ m', pull tintedPosition interleaved "main" 1 = .ok m' := by
  have hunread : ¬ Reads tintedPosition "main" 7 := by
    rintro ⟨entry, blend, interpolation, sampling, type, hfound, a, ha, hpart⟩
    cases hfound
    -- none of the arguments is a struct, so each is its only part
    simp only [List.mem_cons, List.not_mem_nil, or_false] at ha
    rcases ha with rfl | rfl | rfl <;> cases hpart
  let tint : Attribute := ⟨.unorm8x4, 12, 1⟩
  let position : Attribute := ⟨.float32x3, 0, 0⟩
  have hswap : State.Edit (Reads tintedPosition "main") interleaved [⟨16, .perVertex, [tint, position]⟩] :=
    @State.Edit.permute (Reads tintedPosition "main") interleaved 0 ⟨16, .perVertex, [position, tint]⟩
      [tint, position] rfl (.swap position tint [])
  have hadd : State.Edit (Reads tintedPosition "main") [⟨16, .perVertex, [tint, position]⟩] shuffled :=
    @State.Edit.add (Reads tintedPosition "main") [⟨16, .perVertex, [tint, position]⟩] 0
      ⟨16, .perVertex, [tint, position]⟩ [tint] [position] ⟨.uint32, 4, 7⟩ rfl rfl hunread
  have hedits : Relation.ReflTransGen (State.Edit (Reads tintedPosition "main")) interleaved shuffled :=
    .tail (.single hswap) hadd
  have hlayout : ∃ layout, WordLayout.ofState interleaved = .ok layout := ⟨_, rfl⟩
  have hlayout' : ∃ layout, WordLayout.ofState shuffled = .ok layout := ⟨_, rfl⟩
  obtain ⟨m', hpull, _⟩ := Except.exists_eq_ok_of_decide (x := pull tintedPosition interleaved "main" 1)
    (P := fun _ => True) (by decide +kernel)
  exact ⟨hlayout, hlayout', hedits, .of_edits hedits,
    (pull_reads_only tintedPosition "main" 1 interleaved shuffled hlayout hlayout').2 hedits, m', hpull⟩

end ShaderKit.Vertex
