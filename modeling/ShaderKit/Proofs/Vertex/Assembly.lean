import ShaderKit.Proofs.Vertex.Feeding
import ShaderKit.Proofs.Vertex.Pulling
import ShaderKit.Proofs.Vertex.Roles

/-!
# What the code for an input is made of

The code for an input loads all words of the attributes that feed it, decodes them to scalars of the kind of
each format, and composes what the input's type asks for.  Together these give the roles of all expressions of
the new entry function.

## Key results

- `Filled.grows_components`, `Filled.grows_fetch`: decoded components are scalars of the format's kind
- `Filled.grows_fit`: fitted components are as many as the input has
- `Filled.grows_inputValue`: the code for an input supplies it, and loads all words behind it
- `Pulled.filled`: the roles of the expressions of the new entry function
-/

namespace ShaderKit.Vertex

open Ir

/-! ### How formats are decoded -/

/-- The kind of what a way of decoding gives. -/
def Build.Decoding.scalarKind : Build.Decoding → ScalarKind
  | words => .uint
  | bits kind => kind
  | packed _ | packedPairs _ => .float
  | fields signed _ => if signed then .sint else .uint

namespace Format

variable {f : Format}

/-- Decoding a format gives the kind that the format presents. -/
theorem scalarKind_decoding (f : Format) : (Build.decoding f).scalarKind = f.kind.scalarKind := by
  cases f <;> rfl

/-- Words are reinterpreted as floats or as signed integers. -/
theorem kind_of_decoding_bits {kind : ScalarKind} (h : Build.decoding f = .bits kind) :
    kind = .float ∨ kind = .sint := by
  cases f <;> simp_all [Build.decoding]

/-- A word that is all there is of an attribute stands for four numbers. -/
theorem unpackedSize?_of_decoding_packed {g : MathFunction} (h : Build.decoding f = .packed g) :
    unpackedSize? g = some .four := by
  cases f <;> cases h <;> rfl

/-- A word of an attribute of packed pairs stands for two numbers. -/
theorem unpackedSize?_of_decoding_packedPairs {g : MathFunction}
    (h : Build.decoding f = .packedPairs g) : unpackedSize? g = some .two := by
  cases f <;> cases h <;> rfl

/-- The word that a bit field lies in is one of the attribute's. -/
theorem field_word_lt {signed : Bool} {width i : Nat} (h : Build.decoding f = .fields signed width)
    (hi : i < f.components) : i / (32 / width) < f.words := by
  obtain ⟨hwidth, hbytes, hcount, _⟩ := Format.of_decoding_fields h
  rcases f.componentBytes_cases with h | h | h <;> rw [h] at hwidth hcount hbytes <;> rw [hwidth] <;> omega

end Format

/-- What a missing component reads as is a scalar of the attribute's kind. -/
theorem scalar_paddingLiteral (kind : ComponentKind) (i : Nat) :
    (Build.paddingLiteral kind.scalarKind i).scalar = ⟨kind.scalarKind, 4⟩ := by
  cases kind <;> rfl

namespace Filled

variable {s : PullingScope} {inputs : Option IoBinding → TypeId → Prop} {rs : List Role}
  {p : Placement} {ids : List ExprId}

/-! ### Attributes -/

/-- All words of the attribute are loaded. -/
def Loaded (rs : List Role) (p : Placement) : Prop := ∀ w < p.format.words, Role.word p w ∈ rs

theorem Loaded.mono {qs : List Role} (h : Loaded rs p) (hqs : rs <+: qs) : Loaded qs p :=
  fun w hw => hqs.subset (h w hw)

/-- The words that an attribute is decoded from. -/
theorem getD_of_words
    (h : List.Forall₂ (fun w e => rs[e]? = some (.word p w)) (List.range p.format.words) ids) {w : Nat}
    (hw : w < p.format.words) : rs[ids.getD w 0]? = some (.word p w) := by
  obtain ⟨e, he, hword⟩ := h.exists_getElem? (List.getElem?_range hw)
  rw [List.getD_eq_getElem?_getD, he]
  exact hword

/-- Decoded components are scalars of the format's kind. -/
theorem grows_components
    (h : List.Forall₂ (fun w e => rs[e]? = some (.word p w)) (List.range p.format.words) ids) :
    Grows (Filled s inputs) (Build.components p.format ids) rs fun qs es =>
      AreScalars qs ⟨p.format.kind.scalarKind, 4⟩ es := by
  have hkind := Format.scalarKind_decoding p.format
  unfold Build.components
  -- one case for each way in which words are decoded
  split
  · rename_i hd
    rw [← hkind, hd]
    refine Grows.pure fun e he => ?_
    obtain ⟨w, _, hword⟩ := h.exists_mem_left he
    exact ⟨.word p w, hword, rfl⟩
  · rename_i kind hd
    rw [← hkind, hd]
    have hscalar : (Role.bits kind).scalar? = some ⟨kind, 4⟩ := rfl
    refine grows_mapM_scalars hscalar fun e he qs hqs => ?_
    obtain ⟨w, _, hword⟩ := h.exists_mem_left he
    exact grows_bitcast (Format.kind_of_decoding_bits hd) (hqs.getElem?_eq_some hword)
  · rename_i g hd
    rw [← hkind, hd]
    obtain ⟨_, hcount, hwords, _⟩ := Format.of_decoding_packed hd
    -- the attribute is a single word
    have hword := getD_of_words h (w := 0) (by omega)
    have hhead : ids.headD 0 = ids.getD 0 0 := by cases ids <;> rfl
    rw [hhead]
    exact grows_unpack (Format.unpackedSize?_of_decoding_packed hd) hcount hword
  · rename_i g hd
    rw [← hkind, hd]
    have heach (e : ExprId) (he : e ∈ ids) (qs : List Role) (hqs : rs <+: qs) :
        Grows (Filled s inputs) (Build.unpack g e 2) qs fun ps es => AreScalars ps .f32 es := by
      obtain ⟨w, _, hword⟩ := h.exists_mem_left he
      exact grows_unpack (Format.unpackedSize?_of_decoding_packedPairs hd) (Nat.le_refl 2)
        (hqs.getElem?_eq_some hword)
    refine Grows.bind (Grows.mapM (fun _ _ _ _ hqs hes => hes.mono hqs) heach) fun ess qs _ hess =>
      Grows.pure fun e he => ?_
    obtain ⟨es, hmem, he⟩ := List.mem_flatten.1 he
    obtain ⟨_, _, hnumbers⟩ := hess.exists_mem_left hmem
    exact hnumbers e he
  · rename_i signed width hd
    rw [← hkind, hd]
    have hscalar : (Role.field signed).scalar? = some ⟨if signed then .sint else .uint, 4⟩ := by
      cases signed <;> rfl
    refine grows_mapM_scalars hscalar fun i hi qs hqs => ?_
    have hword := getD_of_words h (Format.field_word_lt hd (List.mem_range.1 hi))
    exact grows_extractBits (hqs.getElem?_eq_some hword) _ signed _

/-- Fetching an attribute loads all its words, and gives scalars of its kind. -/
theorem grows_fetch {words : List UInt32} (hread : s.Reads inputs p)
    (hbuffer : p.buffer < s.layout.buffers.length) (hwords : p.words? = some words) :
    Grows (Filled s inputs) (Build.fetch s p words) rs fun qs es =>
      AreScalars qs ⟨p.format.kind.scalarKind, 4⟩ es ∧ Loaded qs p := by
  obtain ⟨hle, rfl⟩ := Placement.words?_eq_some_iff.1 hwords
  unfold Build.fetch
  rw [List.mapM_map]
  -- the sum of the word numbers stays below the limit, so the number that is loaded is that of the
  -- word
  have hload (w : Nat) (hw : w ∈ List.range p.format.words) (qs : List Role) :
      Grows (Filled s inputs) (Build.loadWord s p.buffer (UInt32.ofNat (p.firstWord.toNat + w))) qs
        fun ps e => ps[e]? = some (.word p w) := by
    have hw := List.mem_range.1 hw
    have hlt : p.firstWord.toNat + w < UInt32.size := Nat.lt_of_lt_of_le (by omega) hle
    exact grows_loadWord hread hbuffer hw (UInt32.toNat_ofNat_of_lt' hlt)
  -- all words are loaded first, and the components are computed from them
  refine Grows.bind (grows_mapM fun w hw qs _ => hload w hw qs) fun ids qs _ hids => ?_
  refine (grows_components hids).mono fun ps es hps hes => ⟨hes, Loaded.mono (fun w hw => ?_) hps⟩
  exact List.mem_of_getElem? (getD_of_words hids hw)

/-- Fitted components are as many as the input has. -/
theorem grows_fit {kind : ComponentKind} {es : List ExprId} (h : AreScalars rs ⟨kind.scalarKind, 4⟩ es)
    (count : Nat) :
    Grows (Filled s inputs) (Build.fit kind.scalarKind count es) rs fun qs es' =>
      AreScalars qs ⟨kind.scalarKind, 4⟩ es' ∧ es'.length = count := by
  unfold Build.fit
  refine Grows.bind (grows_mapM fun i _ qs _ => grows_push .literal) fun missing qs hqs hmissing =>
    Grows.pure ⟨fun e he => ?_, ?_⟩
  -- what is kept is a component of the attribute or a literal of the padding
  · rcases List.mem_append.1 (List.mem_of_mem_take he) with he | he
    · exact h.mono hqs e he
    · obtain ⟨i, _, hliteral⟩ := hmissing.exists_mem_left he
      exact ⟨_, hliteral, congrArg some (scalar_paddingLiteral kind i)⟩
  -- a literal is added for each that the attribute falls short, so there are enough to take
  · have hlength := hmissing.length_eq
    rw [List.length_drop, List.length_range] at hlength
    rw [List.length_take, List.length_append]
    omega

/-- Components of the input's scalar, as many as it has, make up the input. -/
theorem grows_assembled {location : Nat} {blend : Bool} {interpolation : Option Interpolation}
    {sampling : Option Sampling} {type : TypeId} {info : TypeInfo} {count : Nat} {scalar : Scalar}
    {es : List ExprId} (htype : s.types[type]? = some info)
    (hshape : PullingScope.inputComponents? info.shape = some (count, scalar))
    (hes : AreScalars rs scalar es) (hlength : es.length = count) :
    Grows (Filled s inputs) (PullingRun.assembled type count es) rs fun qs e =>
      ∃ role, qs[e]? = some role ∧
        Supplies s.types (some (.location location blend interpolation sampling)) type role := by
  obtain ⟨name, shape⟩ := info
  cases shape with
  | scalar scalar' =>
    rw [PullingScope.inputComponents?, Option.some.injEq, Prod.mk.injEq] at hshape
    obtain ⟨rfl, rfl⟩ := hshape
    -- a scalar is its one component
    obtain ⟨e, rfl⟩ := List.length_eq_one_iff.1 hlength
    obtain ⟨role, hrole, hscalar⟩ := hes e List.mem_cons_self
    exact Grows.pure ⟨role, hrole, .scalar htype hscalar⟩
  | vector size scalar' =>
    rw [PullingScope.inputComponents?, Option.some.injEq, Prod.mk.injEq] at hshape
    obtain ⟨rfl, rfl⟩ := hshape
    -- a vector is composed of its components, of which there are more than one
    have hne : size.toNat ≠ 1 := by cases size <;> decide
    unfold PullingRun.assembled
    rw [if_neg hne]
    exact (grows_push (.vector htype hlength hes)).mono fun qs e _ he => ⟨_, he, .vector htype⟩
  | _ => cases hshape

end Filled

/-! ### Inputs -/

/-- The expression supplies the input, and all words of the attributes behind it are loaded. -/
structure Supplied (s : PullingScope) (binding : Option IoBinding) (type : TypeId) (rs : List Role)
    (e : ExprId) : Prop where
  role : ∃ role, rs[e]? = some role ∧ Supplies s.types binding type role
  loaded : ∀ location blend interpolation sampling part,
    IsPart s.types binding type (some (.location location blend interpolation sampling)) part →
      ∃ p, s.layout.attributes.lookup location = some p ∧ Filled.Loaded rs p

theorem Supplied.mono {s : PullingScope} {binding : Option IoBinding} {type : TypeId}
    {rs qs : List Role} {e : ExprId} (h : Supplied s binding type rs e) (hqs : rs <+: qs) :
    Supplied s binding type qs e := by
  refine ⟨?_, fun location blend interpolation sampling part hpart => ?_⟩
  · obtain ⟨role, hrole, hsupplies⟩ := h.role
    exact ⟨role, hqs.getElem?_eq_some hrole, hsupplies⟩
  · obtain ⟨p, hp, hloaded⟩ := h.loaded location blend interpolation sampling part hpart
    exact ⟨p, hp, hloaded.mono hqs⟩

/-- No attribute is behind a builtin input. -/
theorem Supplied.of_builtIn {s : PullingScope} {builtIn : BuiltIn} {type : TypeId} {rs : List Role}
    {e : ExprId}
    (h : ∃ role, rs[e]? = some role ∧ Supplies s.types (some (.builtIn builtIn)) type role) :
    Supplied s (some (.builtIn builtIn)) type rs e where
  role := h
  loaded := by
    rintro _ _ _ _ _ ⟨⟩

namespace Filled

variable {s : PullingScope} {inputs : Option IoBinding → TypeId → Prop} {rs : List Role} {state : State}

/-- The code for the input at a location supplies it. -/
theorem grows_pullAttribute (hs : s.layout.Placed state (slotted state 0)) {location : Nat}
    {blend : Bool} {interpolation : Option Interpolation} {sampling : Option Sampling} {type : TypeId}
    {info : TypeInfo} (htype : s.types[type]? = some info)
    (hinput : inputs (some (.location location blend interpolation sampling)) type) :
    GrowsOrFails (Filled s inputs) (s.pullAttribute location type info.shape) rs
      (Supplied s (some (.location location blend interpolation sampling)) type) := by
  intro b e b' hb h
  -- the input is fed at all, so its type has components and an attribute of their kind is behind it
  obtain ⟨count, ⟨kind, width⟩, p, words, hshape, hp, ⟨rfl, rfl⟩, hwords, hrun⟩ :=
    PullingRun.pullAttribute_eq_ok h
  have hgrows : Grows (Filled s inputs) (do
      let values ← Build.fetch s p words
      let fitted ← Build.fit p.format.kind.scalarKind count values
      PullingRun.assembled type count fitted) rs
      (Supplied s (some (.location location blend interpolation sampling)) type) := by
    have hread : s.Reads inputs p := ⟨_, _, _, _, _, hinput, hp⟩
    -- fetch, fit and assemble, each from what the one before gave
    refine Grows.bind (grows_fetch hread (hs.buffer_lt hp) hwords)
      fun values qs₁ _ ⟨hvalues, hloaded⟩ => ?_
    refine Grows.bind (grows_fit hvalues count) fun fitted qs₂ h₂ ⟨hfitted, hlength⟩ => ?_
    refine (grows_assembled htype hshape hfitted hlength).mono fun qs₃ e h₃ hrole => ⟨hrole, ?_⟩
    -- the only input at a location that is part of this one is this one
    rintro _ _ _ _ _ ⟨⟩
    exact ⟨p, hp, hloaded.mono (h₂.trans h₃)⟩
  obtain ⟨qs, hqs, hb', hsupplied⟩ := hgrows b hb
  rw [hrun] at hb' hsupplied
  exact ⟨qs, hqs, hb', hsupplied⟩

/-- The code for an input at a location supplies it. -/
private theorem grows_locationInput (hs : s.layout.Placed state (slotted state 0)) (fuel : Nat)
    {location : Nat} {blend : Bool} {interpolation : Option Interpolation} {sampling : Option Sampling}
    {type : TypeId} (hinput : inputs (some (.location location blend interpolation sampling)) type) :
    GrowsOrFails (Filled s inputs)
      (s.inputValue fuel (some (.location location blend interpolation sampling)) type) rs
      (Supplied s (some (.location location blend interpolation sampling)) type) := by
  unfold PullingScope.inputValue
  cases htype : s.types[type]? with
  | none => exact GrowsOrFails.throw
  | some info => exact grows_pullAttribute hs htype hinput

/-- The code for a builtin input supplies it. -/
private theorem grows_builtInInput (fuel : Nat) (builtIn : BuiltIn) (type : TypeId) :
    GrowsOrFails (Filled s inputs) (s.inputValue fuel (some (.builtIn builtIn)) type) rs
      (Supplied s (some (.builtIn builtIn)) type) := by
  intro b e b' hb h
  -- the two indices are arguments of the new entry function; any other builtin is refused
  cases builtIn with
  | vertexIndex =>
    simp only [PullingScope.inputValue] at h
    cases h
    exact ⟨rs, List.prefix_refl rs, hb, .of_builtIn ⟨_, hb.vertexIndex, .vertexIndex⟩⟩
  | instanceIndex =>
    simp only [PullingScope.inputValue] at h
    cases h
    exact ⟨rs, List.prefix_refl rs, hb, .of_builtIn ⟨_, hb.instanceIndex, .instanceIndex⟩⟩
  | _ =>
    simp only [PullingScope.inputValue] at h
    cases h

/-- The code for a struct of inputs supplies it, if that for each member does. -/
private theorem grows_structInput {fuel : Nat} {type : TypeId} {name : Option String}
    {members : List StructMember} {span : Nat}
    (htype : s.types[type]? = some ⟨name, .struct members span⟩)
    (hinput : ∀ m ∈ members, inputs m.binding m.type)
    (hmembers : ∀ m ∈ members, ∀ qs, rs <+: qs → GrowsOrFails (Filled s inputs)
      (s.inputValue fuel m.binding m.type) qs (Supplied s m.binding m.type)) :
    GrowsOrFails (Filled s inputs) (s.inputValue (fuel + 1) none type) rs (Supplied s none type) := by
  simp only [PullingScope.inputValue, htype]
  -- the members are supplied one after the other, and what supplies one still does when the next
  -- are
  refine GrowsOrFails.bind (GrowsOrFails.mapM (fun _ _ _ _ hqs h => h.mono hqs) hmembers)
    fun components qs _ heach => ?_
  have hcompose : Fills s inputs (qs[·]?) (.compose type components) (.composed type) :=
    .struct htype hinput (heach.imp fun m e h => h.role)
  refine GrowsOrFails.lift ((grows_push hcompose).mono fun ps e hps he =>
    ⟨⟨_, he, .struct htype⟩, fun location blend interpolation sampling part hpart => ?_⟩)
  -- what is read at a location inside the struct is read for one of its members
  cases hpart with
  | member htype' hm hpart =>
    cases htype.symm.trans htype'
    obtain ⟨_, _, hsupplied⟩ := heach.exists_mem_right hm
    exact (hsupplied.mono hps).loaded _ _ _ _ _ hpart

/-- The code for an input supplies it, and loads all words of the attributes behind it. -/
theorem grows_inputValue (hs : s.layout.Placed state (slotted state 0)) (fuel : Nat)
    {binding : Option IoBinding} {type : TypeId}
    (hinput : ∀ binding' type', IsPart s.types binding type binding' type' → inputs binding' type')
    (rs : List Role) :
    GrowsOrFails (Filled s inputs) (s.inputValue fuel binding type) rs (Supplied s binding type) := by
  -- induction on the fuel: only a struct uses it up, one step for its members
  induction fuel generalizing binding type rs with
  | zero =>
    match binding with
    | some (.builtIn builtIn) => exact grows_builtInInput 0 builtIn type
    | some (.location ..) => exact grows_locationInput hs 0 (hinput _ _ .whole)
    | none => exact GrowsOrFails.throw
  | succ fuel ih =>
    match binding with
    | some (.builtIn builtIn) => exact grows_builtInInput _ builtIn type
    | some (.location ..) => exact grows_locationInput hs _ (hinput _ _ .whole)
    | none =>
      cases htype : s.types[type]? with
      | none =>
        simp only [PullingScope.inputValue, htype]
        exact GrowsOrFails.throw
      | some info =>
        obtain ⟨name, shape⟩ := info
        cases shape with
        | struct members span =>
          -- a part of a member is part of the struct, so what holds of all parts of the struct is at hand
          exact grows_structInput htype (fun m hm => hinput _ _ (.member htype hm .whole))
            fun m hm qs _ => ih (fun _ _ hpart => hinput _ _ (.member htype hm hpart)) qs
        | _ =>
          simp only [PullingScope.inputValue, htype]
          exact GrowsOrFails.throw

end Filled

/-! ### The new entry function -/

/-- What the new entry function can use. -/
def pullingScope (m m' : Module) (layout : WordLayout) : PullingScope where
  types := m'.types
  layout := layout
  firstBuffer := m.globals.length
  vertexIndex := 0
  instanceIndex := 1

/-- A builder that has the index arguments only. -/
theorem filled_start {m m' : Module} {layout : WordLayout}
    {inputs : Option IoBinding → TypeId → Prop} :
    Filled (pullingScope m m' layout) inputs { expressions := [.argument 0, .argument 1] }
      [.index .perVertex, .index .perInstance] where
  length_eq := rfl
  fills e x role hx hrole := by
    rcases e with _ | _ | e
    · cases hx
      cases hrole
      exact .vertexIndex
    · cases hx
      cases hrole
      exact .instanceIndex
    · exact nomatch hx
  vertexIndex := rfl
  instanceIndex := rfl
  bases := nofun
  buffers := nofun
  -- nothing is emitted yet, and both expressions are arguments, which need no emission
  ordered := by
    refine ⟨[], rfl, nofun, .nil, nofun, fun e x hx => iff_of_false nofun ?_, nofun⟩
    rintro ⟨_, hpre⟩
    rcases e with _ | _ | e
    · cases hx
      exact nomatch hpre
    · cases hx
      exact nomatch hpre
    · exact nomatch hx

namespace Pulled

variable {m m' : Module} {state : State} {entryPoint : String} {group index : Nat} {entry : EntryPoint}
  {layout : WordLayout} {wordType wordsType : TypeId} {arguments : List ExprId} {built : Builder}

/-- The expressions of the new entry function have roles, and those that the call is given supply the inputs
of the original function. -/
theorem filled
    (h : Pulled m m' state entryPoint group index entry layout wordType wordsType arguments built) :
    ∃ rs, Filled (pullingScope m m' layout) (IsInput m'.types entry.function.arguments) built rs ∧
      List.Forall₂ (fun a e => Supplied (pullingScope m m' layout) a.binding a.type rs e)
        entry.function.arguments arguments := by
  have hs : (pullingScope m m' layout).layout.Placed state (slotted state 0) :=
    WordLayout.placed_of_ofState h.placement
  -- the arguments are supplied one after the other, starting with the index arguments
  have hgrows : GrowsOrFails (Filled (pullingScope m m' layout) (IsInput m'.types entry.function.arguments))
      (entry.function.arguments.mapM fun a =>
        (pullingScope m m' layout).inputValue (m'.types.length + 1) a.binding a.type)
      [.index .perVertex, .index .perInstance] fun rs es =>
        List.Forall₂ (fun a e => Supplied (pullingScope m m' layout) a.binding a.type rs e)
          entry.function.arguments es :=
    GrowsOrFails.mapM (fun _ _ _ _ hqs hsupplied => hsupplied.mono hqs) fun a ha qs _ =>
      Filled.grows_inputValue hs _ (fun _ _ hpart => ⟨a, ha, hpart⟩) qs
  obtain ⟨rs, _, hfilled, harguments⟩ := hgrows _ _ _ filled_start h.inputs
  exact ⟨rs, hfilled, harguments⟩

end Pulled

end ShaderKit.Vertex
