import ShaderKit.Proofs.Std.Growth
import ShaderKit.Proofs.Std.List
import ShaderKit.Proofs.Vertex.Order

/-!
# What each expression of the pulling code is for

Every expression that the pulling code adds has a role: the base of a buffer's element, the address of a word
of an attribute, a word, a component, a composed input, and so on.  `Fills` says which expression fills which
role, given the roles of the expressions before it.  It is all that later modules need to know of the code:
operands come first, the types of expressions follow from their roles, and so do the words that are read.

## Key results

- `Filled.push`: an expression that fills a role can be added
- `Filled.grows_elementBase`, `Filled.grows_bufferVariable`: what is kept for a buffer fills its role
- `Filled.grows_loadWord`: a loaded word is the word of the attribute at that address
-/

namespace ShaderKit.Vertex

open Ir

/-! ### Roles -/

/-- What an expression of the new entry function is for. -/
inductive Role
  /-- The vertex or the instance index. -/
  | index (step : StepMode)
  | literal (value : Literal)
  | buffer (slot : Nat)
  /-- The first word of the current element of a buffer. -/
  | base (slot : Nat)
  /-- Where word `w` of an attribute lies. -/
  | address (p : Placement) (w : Nat)
  | pointer (p : Placement) (w : Nat)
  | word (p : Placement) (w : Nat)
  /-- The bits of a word as a number. -/
  | bits (kind : ScalarKind)
  /-- The numbers that a word stands for. -/
  | unpacked (size : VectorSize)
  /-- One of the numbers that a word stands for. -/
  | number
  /-- A bit field of a word. -/
  | field (signed : Bool)
  | composed (type : TypeId)

/-- The scalar that an expression of this role is, if it is one. -/
def Role.scalar? : Role → Option Scalar
  | index _ | base _ | address .. | word .. => some .u32
  | literal l => some l.scalar
  | bits kind => some ⟨kind, 4⟩
  | number => some .f32
  | field signed => some (if signed then .i32 else .u32)
  | buffer _ | pointer .. | unpacked _ | composed _ => none

/-- How many numbers a packed word stands for. -/
def unpackedSize? : MathFunction → Option VectorSize
  | .unpack4x8unorm | .unpack4x8snorm => some .four
  | .unpack2x16unorm | .unpack2x16snorm | .unpack2x16float => some .two
  | _ => none

theorem unpackedSize?_eq_some {f : MathFunction} {size : VectorSize} (h : unpackedSize? f = some size) :
    (size = .four ∧ (f = .unpack4x8unorm ∨ f = .unpack4x8snorm)) ∨
      (size = .two ∧ (f = .unpack2x16unorm ∨ f = .unpack2x16snorm ∨ f = .unpack2x16float)) := by
  unfold unpackedSize? at h
  split at h <;> simp_all

/-- The roles that supply an input, by its binding and its type. -/
inductive Supplies (types : List TypeInfo) : Option IoBinding → TypeId → Role → Prop
  | vertexIndex {t : TypeId} : Supplies types (some (.builtIn .vertexIndex)) t (.index .perVertex)
  | instanceIndex {t : TypeId} : Supplies types (some (.builtIn .instanceIndex)) t (.index .perInstance)
  | scalar {location : Nat} {blend : Bool} {interpolation : Option Interpolation}
      {sampling : Option Sampling} {t : TypeId} {name : Option String} {scalar : Scalar} {role : Role}
      (htype : types[t]? = some ⟨name, .scalar scalar⟩) (hrole : role.scalar? = some scalar) :
    Supplies types (some (.location location blend interpolation sampling)) t role
  | vector {location : Nat} {blend : Bool} {interpolation : Option Interpolation}
      {sampling : Option Sampling} {t : TypeId} {name : Option String} {size : VectorSize}
      {scalar : Scalar} (htype : types[t]? = some ⟨name, .vector size scalar⟩) :
    Supplies types (some (.location location blend interpolation sampling)) t (.composed t)
  | struct {t : TypeId} {name : Option String} {members : List StructMember} {span : Nat}
      (htype : types[t]? = some ⟨name, .struct members span⟩) : Supplies types none t (.composed t)

/-- The attribute feeds one of the inputs. -/
def PullingScope.Reads (s : PullingScope) (inputs : Option IoBinding → TypeId → Prop) (p : Placement) :
    Prop :=
  ∃ location blend interpolation sampling type,
    inputs (some (.location location blend interpolation sampling)) type ∧
      s.layout.attributes.lookup location = some p

/-- The expression fills the role, where the expressions before it have the roles that `past` gives. -/
inductive Fills (s : PullingScope) (inputs : Option IoBinding → TypeId → Prop)
    (past : ExprId → Option Role) : Expression → Role → Prop
  | vertexIndex : Fills s inputs past (.argument 0) (.index .perVertex)
  | instanceIndex : Fills s inputs past (.argument 1) (.index .perInstance)
  | literal {l : Literal} : Fills s inputs past (.literal l) (.literal l)
  | buffer {slot : Nat} (hslot : slot < s.layout.buffers.length) :
    Fills s inputs past (.global (s.firstBuffer + slot)) (.buffer slot)
  | base {slot : Nat} {buffer : WordBuffer} {index stride : ExprId}
      (hslot : s.layout.buffers[slot]? = some buffer)
      (hindex : past index = some (.index buffer.step))
      (hstride : past stride = some (.literal (.u32 buffer.stride))) :
    Fills s inputs past (.binary .multiply index stride) (.base slot)
  | address {p : Placement} {w : Nat} {base offset : ExprId} {number : UInt32}
      (hread : s.Reads inputs p) (hw : w < p.format.words)
      (hnumber : number.toNat = p.firstWord.toNat + w) (hbase : past base = some (.base p.buffer))
      (hoffset : past offset = some (.literal (.u32 number))) :
    Fills s inputs past (.binary .add base offset) (.address p w)
  | pointer {p : Placement} {w : Nat} {buffer address : ExprId}
      (hbuffer : past buffer = some (.buffer p.buffer))
      (haddress : past address = some (.address p w)) :
    Fills s inputs past (.access buffer address) (.pointer p w)
  | word {p : Placement} {w : Nat} {pointer : ExprId}
      (hpointer : past pointer = some (.pointer p w)) :
    Fills s inputs past (.load pointer) (.word p w)
  | bits {p : Placement} {w : Nat} {kind : ScalarKind} {word : ExprId}
      (hkind : kind = .float ∨ kind = .sint) (hword : past word = some (.word p w)) :
    Fills s inputs past (.convert word kind none) (.bits kind)
  | unpacked {f : MathFunction} {size : VectorSize} {p : Placement} {w : Nat} {word : ExprId}
      (hsize : unpackedSize? f = some size) (hword : past word = some (.word p w)) :
    Fills s inputs past (.math f word none none none) (.unpacked size)
  | number {size : VectorSize} {vector : ExprId} {i : Nat} (hi : i < size.toNat)
      (hvector : past vector = some (.unpacked size)) :
    Fills s inputs past (.accessIndex vector i) .number
  | unsignedField {p : Placement} {w : Nat} {value offset count : ExprId} {first width : UInt32}
      (hvalue : past value = some (.word p w))
      (hoffset : past offset = some (.literal (.u32 first)))
      (hcount : past count = some (.literal (.u32 width))) :
    Fills s inputs past (.math .extractBits value (some offset) (some count) none) (.field false)
  | signedField {value offset count : ExprId} {first width : UInt32}
      (hvalue : past value = some (.bits .sint))
      (hoffset : past offset = some (.literal (.u32 first)))
      (hcount : past count = some (.literal (.u32 width))) :
    Fills s inputs past (.math .extractBits value (some offset) (some count) none) (.field true)
  | vector {t : TypeId} {name : Option String} {size : VectorSize} {scalar : Scalar}
      {components : List ExprId} (htype : s.types[t]? = some ⟨name, .vector size scalar⟩)
      (hlength : components.length = size.toNat)
      (heach : ∀ e ∈ components, ∃ role, past e = some role ∧ role.scalar? = some scalar) :
    Fills s inputs past (.compose t components) (.composed t)
  | struct {t : TypeId} {name : Option String} {members : List StructMember} {span : Nat}
      {components : List ExprId} (htype : s.types[t]? = some ⟨name, .struct members span⟩)
      (hinput : ∀ m ∈ members, inputs m.binding m.type)
      (heach : List.Forall₂ (fun m e => ∃ role, past e = some role ∧
        Supplies s.types m.binding m.type role) members components) :
    Fills s inputs past (.compose t components) (.composed t)

/-- The expressions of the builder fill the roles `rs`, what is kept for a buffer included, and the body
brings them into scope in order. -/
structure Filled (s : PullingScope) (inputs : Option IoBinding → TypeId → Prop) (b : Builder)
    (rs : List Role) : Prop where
  length_eq : rs.length = b.expressions.length
  fills : ∀ (e : Nat) x role, b.expressions[e]? = some x → rs[e]? = some role →
    Fills s inputs ((rs.take e)[·]?) x role
  vertexIndex : rs[s.vertexIndex]? = some (.index .perVertex)
  instanceIndex : rs[s.instanceIndex]? = some (.index .perInstance)
  bases : ∀ slot (e : ExprId), b.bases.lookup slot = some e → rs[e]? = some (.base slot)
  buffers : ∀ slot (e : ExprId), b.buffers.lookup slot = some e → rs[e]? = some (.buffer slot)
  ordered : ∃ ranges, b.Ordered ranges

variable {s : PullingScope} {inputs : Option IoBinding → TypeId → Prop} {b : Builder} {rs : List Role}

/-- An expression that fills a role can be added. -/
theorem Filled.push (h : Filled s inputs b rs) {x : Expression} {role : Role}
    (hx : Fills s inputs (rs[·]?) x role) :
    Filled s inputs (Builder.push x b).2 (rs ++ [role]) ∧ (Builder.push x b).1 = rs.length := by
  obtain ⟨ranges, hordered⟩ := h.ordered
  have hkept {e : Nat} {role' : Role} (he : rs[e]? = some role') :
      (rs ++ [role])[e]? = some role' := (List.prefix_append rs _).getElem?_eq_some he
  -- roles only depend on the roles before, so none changes when one is added at the end
  refine ⟨⟨?_, fun e y role' hy hrole => ?_, hkept h.vertexIndex, hkept h.instanceIndex,
    fun slot e he => hkept (h.bases slot e (Builder.push_bases x b ▸ he)),
    fun slot e he => hkept (h.buffers slot e (Builder.push_buffers x b ▸ he)), hordered.push x⟩, ?_⟩
  · rw [Builder.push_expressions, List.length_append, List.length_append, h.length_eq]
    rfl
  · rw [Builder.push_expressions] at hy
    by_cases he : e < rs.length
    · rw [List.getElem?_append_left (h.length_eq ▸ he)] at hy
      rw [List.getElem?_append_left he] at hrole
      rw [List.take_append_of_le_length (Nat.le_of_lt he)]
      exact h.fills e y role' hy hrole
    · -- the expression that was added stands behind all that have a role
      have hlt := (List.getElem?_eq_some_iff.1 hrole).1
      rw [List.length_append, List.length_singleton] at hlt
      obtain rfl : e = rs.length := by omega
      rw [List.getElem?_concat_length] at hrole
      rw [h.length_eq, List.getElem?_concat_length] at hy
      cases hrole
      cases hy
      rw [List.take_left]
      exact hx
  · rw [Builder.push_fst, h.length_eq]

/-- The argument by which a buffer advances has its role. -/
theorem Filled.index (h : Filled s inputs b rs) (step : StepMode) :
    rs[s.indexFor step]? = some (.index step) := by
  cases step with
  | perVertex => exact h.vertexIndex
  | perInstance => exact h.instanceIndex

/-- Each expression of the builder fills a role. -/
theorem Filled.exists_fills (h : Filled s inputs b rs) {e : Nat} {x : Expression}
    (hx : b.expressions[e]? = some x) :
    ∃ role, rs[e]? = some role ∧ Fills s inputs ((rs.take e)[·]?) x role := by
  have hlt : e < rs.length := h.length_eq ▸ (List.getElem?_eq_some_iff.1 hx).1
  have hrole := List.getElem?_eq_getElem hlt
  exact ⟨_, hrole, h.fills e x _ hx hrole⟩

/-! ### Steps of the builder -/

/-- All of the expressions are scalars of one type. -/
def AreScalars (rs : List Role) (scalar : Scalar) (es : List ExprId) : Prop :=
  ∀ e ∈ es, ∃ role, rs[e]? = some role ∧ role.scalar? = some scalar

theorem AreScalars.mono {qs : List Role} {scalar : Scalar} {es : List ExprId}
    (h : AreScalars rs scalar es) (hqs : rs <+: qs) : AreScalars qs scalar es := by
  intro e he
  obtain ⟨role, hrole, hscalar⟩ := h e he
  exact ⟨role, hqs.getElem?_eq_some hrole, hscalar⟩

namespace Filled

/-- An expression that fills a role can be added, and fills it. -/
theorem grows_push {x : Expression} {role : Role} (hx : Fills s inputs (rs[·]?) x role) :
    Grows (Filled s inputs) (Builder.push x) rs fun qs e => qs[e]? = some role := by
  intro b hb
  obtain ⟨hfilled, hid⟩ := hb.push hx
  refine ⟨rs ++ [role], List.prefix_append rs _, hfilled, ?_⟩
  rw [hid]
  exact List.getElem?_concat_length

/-- Actions one after another give an expression for each, each in its role. -/
theorem grows_mapM {ι : Type} {f : ι → Build ExprId} {role : ι → Role} {l : List ι}
    (hf : ∀ i ∈ l, ∀ qs, rs <+: qs → Grows (Filled s inputs) (f i) qs fun ps e => ps[e]? = some (role i)) :
    Grows (Filled s inputs) (l.mapM f) rs fun qs es =>
      List.Forall₂ (fun i e => qs[e]? = some (role i)) l es :=
  Grows.mapM (fun _ _ _ _ hqs he => hqs.getElem?_eq_some he) hf

/-- Actions that each give an expression in the role of a scalar give scalars. -/
theorem grows_mapM_scalars {ι : Type} {f : ι → Build ExprId} {role : Role} {scalar : Scalar} {l : List ι}
    (hscalar : role.scalar? = some scalar)
    (hf : ∀ i ∈ l, ∀ qs, rs <+: qs → Grows (Filled s inputs) (f i) qs fun ps e => ps[e]? = some role) :
    Grows (Filled s inputs) (l.mapM f) rs fun qs es => AreScalars qs scalar es := by
  refine (grows_mapM hf).mono fun qs es _ hes e he => ?_
  obtain ⟨_, _, hrole⟩ := hes.exists_mem_left he
  exact ⟨role, hrole, hscalar⟩

theorem grows_word (w : UInt32) :
    Grows (Filled s inputs) (Build.word w) rs fun qs e => qs[e]? = some (.literal (.u32 w)) :=
  grows_push .literal

/-- The base of an element can be kept for later. -/
private theorem grows_keepBase {slot : Nat} {e : ExprId} (he : rs[e]? = some (.base slot)) :
    Grows (Filled s inputs) (modify fun b => { b with bases := (slot, e) :: b.bases }) rs
      fun qs _ => qs = rs :=
  fun _ hb => ⟨rs, List.prefix_refl rs, ⟨hb.length_eq, hb.fills, hb.vertexIndex, hb.instanceIndex,
    List.forall_lookup_cons he hb.bases, hb.buffers, hb.ordered.imp fun _ h =>
      ⟨h.body, h.nonempty, h.ascending, h.bounded, h.covered, h.pending⟩⟩, rfl⟩

/-- The variable of a buffer can be kept for later. -/
private theorem grows_keepBuffer {slot : Nat} {e : ExprId} (he : rs[e]? = some (.buffer slot)) :
    Grows (Filled s inputs) (modify fun b => { b with buffers := (slot, e) :: b.buffers }) rs
      fun qs _ => qs = rs :=
  fun _ hb => ⟨rs, List.prefix_refl rs, ⟨hb.length_eq, hb.fills, hb.vertexIndex, hb.instanceIndex,
    hb.bases, List.forall_lookup_cons he hb.buffers, hb.ordered.imp fun _ h =>
      ⟨h.body, h.nonempty, h.ascending, h.bounded, h.covered, h.pending⟩⟩, rfl⟩

/-- The base of an element is computed once, and goes on to fill its role. -/
theorem grows_elementBase {slot : Nat} (hslot : slot < s.layout.buffers.length) :
    Grows (Filled s inputs) (Build.elementBase s slot) rs fun qs e => qs[e]? = some (.base slot) := by
  refine Build.grows_elementBase (fun b e hb he => hb.bases slot e he) (Grows.of_known fun b hb => ?_)
  have hbuffer := List.getElem?_eq_getElem hslot
  unfold Build.newBase
  simp only [hbuffer, Option.getD_some]
  refine Grows.bind (grows_word _) fun stride qs hqs hstride => ?_
  have hindex := hqs.getElem?_eq_some (hb.index s.layout.buffers[slot].step)
  refine Grows.bind (grows_push (.base hbuffer hindex hstride)) fun base ps _ hbase => ?_
  exact Grows.bind (grows_keepBase hbase) fun _ us _ hsame => Grows.pure (hsame ▸ hbase)

/-- The variable of a buffer is named once, and goes on to fill its role. -/
theorem grows_bufferVariable {slot : Nat} (hslot : slot < s.layout.buffers.length) :
    Grows (Filled s inputs) (Build.bufferVariable s slot) rs fun qs e =>
      qs[e]? = some (.buffer slot) := by
  refine Build.grows_bufferVariable (fun b e hb he => hb.buffers slot e he) ?_
  refine Grows.bind (grows_push (.buffer hslot)) fun buffer ps _ hbuffer => ?_
  exact Grows.bind (grows_keepBuffer hbuffer) fun _ us _ hsame => Grows.pure (hsame ▸ hbuffer)

/-- A loaded word is a word of the attribute. -/
theorem grows_loadWord {p : Placement} {w : Nat} {number : UInt32} (hread : s.Reads inputs p)
    (hbuffer : p.buffer < s.layout.buffers.length) (hw : w < p.format.words)
    (hnumber : number.toNat = p.firstWord.toNat + w) :
    Grows (Filled s inputs) (Build.loadWord s p.buffer number) rs fun qs e =>
      qs[e]? = some (.word p w) := by
  unfold Build.loadWord
  refine Grows.bind (grows_elementBase hbuffer) fun base qs₁ _ hbase => ?_
  refine Grows.bind (grows_bufferVariable hbuffer) fun buffer qs₂ h₂ hbuffer => ?_
  refine Grows.bind (grows_word _) fun offset qs₃ h₃ hoffset => ?_
  -- the base is still there after the variable and the literal, and so is the variable after the
  -- sum
  have haddress := Fills.address hread hw hnumber ((h₂.trans h₃).getElem?_eq_some hbase) hoffset
  refine Grows.bind (grows_push haddress) fun address qs₄ h₄ haddress => ?_
  have hvariable := (h₃.trans h₄).getElem?_eq_some hbuffer
  refine Grows.bind (grows_push (.pointer hvariable haddress)) fun pointer qs₅ _ hpointer => ?_
  exact grows_push (.word hpointer)

theorem grows_bitcast {p : Placement} {w : Nat} {kind : ScalarKind} {e : ExprId}
    (hkind : kind = .float ∨ kind = .sint) (he : rs[e]? = some (.word p w)) :
    Grows (Filled s inputs) (Build.bitcast kind e) rs fun qs e' => qs[e']? = some (.bits kind) :=
  grows_push (.bits hkind he)

/-- The first numbers that a word stands for, where it stands for that many. -/
theorem grows_unpack {p : Placement} {w : Nat} {f : MathFunction} {size : VectorSize} {count : Nat}
    {e : ExprId} (hf : unpackedSize? f = some size) (hcount : count ≤ size.toNat)
    (he : rs[e]? = some (.word p w)) :
    Grows (Filled s inputs) (Build.unpack f e count) rs fun qs es => AreScalars qs .f32 es := by
  unfold Build.unpack
  refine Grows.bind (grows_push (.unpacked hf he)) fun vector qs _ hvector => ?_
  refine grows_mapM_scalars rfl fun i hi ps hps => grows_push (.number ?_ (hps.getElem?_eq_some hvector))
  exact Nat.lt_of_lt_of_le (List.mem_range.1 hi) hcount

/-- A bit field of a word. -/
theorem grows_extractBits {p : Placement} {w : Nat} {e : ExprId} (he : rs[e]? = some (.word p w))
    (offset : UInt32) (signed : Bool) (bits : UInt32) :
    Grows (Filled s inputs) (Build.extractBits e offset signed bits) rs fun qs e' =>
      qs[e']? = some (.field signed) := by
  -- a signed field is taken from the word as a signed integer, an unsigned one from the word as it
  -- is
  cases signed with
  | true =>
    refine Grows.bind (grows_bitcast (.inr rfl) he) fun value qs₁ _ hvalue => ?_
    refine Grows.bind (grows_word offset) fun offset' qs₂ h₂ hoffset => ?_
    refine Grows.bind (grows_word bits) fun count qs₃ h₃ hcount => ?_
    exact grows_push (.signedField ((h₂.trans h₃).getElem?_eq_some hvalue)
      (h₃.getElem?_eq_some hoffset) hcount)
  | false =>
    have hword : Grows (Filled s inputs) (pure e) rs fun qs value => qs[value]? = some (.word p w) :=
      Grows.pure he
    refine Grows.bind hword fun value qs₁ _ hvalue => ?_
    refine Grows.bind (grows_word offset) fun offset' qs₂ h₂ hoffset => ?_
    refine Grows.bind (grows_word bits) fun count qs₃ h₃ hcount => ?_
    exact grows_push (.unsignedField ((h₂.trans h₃).getElem?_eq_some hvalue)
      (h₃.getElem?_eq_some hoffset) hcount)

end Filled

end ShaderKit.Vertex
