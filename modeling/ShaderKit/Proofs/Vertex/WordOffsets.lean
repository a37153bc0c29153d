import ShaderKit.Proofs.Vertex.Acceptance
import ShaderKit.Proofs.Vertex.Assembly

/-!
# Which words the new entry function loads

The new entry function loads the words of the attributes that feed its inputs, and no others, each by the
number that it has in the element.  The number is a literal of 32 bits: the sum of the attribute's first word,
which fits 32 bits, and the word's number in the attribute.  The sum need not fit.  Where an input is fed by an
attribute that lies across word `2 ^ 32` of its element, pulling gives up, though the state can be turned into
words.

## Key results

- `Filled.loadsWord`: an expression in the role of a word loads it
- `pull_loads_words`: which words are loaded and by which literals, and when pulling gives up
- `pull_overflows_lastWord`: pulling gives up at an attribute of a state that can be turned into words
-/

namespace ShaderKit.Ir

/-- The expression loads the word at `offset` after the first word of an element of the buffer, where elements
are `stride` words apart and the element is chosen by argument `index`. -/
def Function.LoadsWord (f : Function) (buffer : GlobalId) (index : Nat) (stride offset : UInt32)
    (e : ExprId) : Prop :=
  ∃ pointer source address base literal argument factor : ExprId,
    f.expressions[e]? = some (.load pointer) ∧
    f.expressions[pointer]? = some (.access source address) ∧
    f.expressions[source]? = some (.global buffer) ∧
    f.expressions[address]? = some (.binary .add base literal) ∧
    f.expressions[literal]? = some (.literal (.u32 offset)) ∧
    f.expressions[base]? = some (.binary .multiply argument factor) ∧
    f.expressions[argument]? = some (.argument index) ∧
    f.expressions[factor]? = some (.literal (.u32 stride))

end ShaderKit.Ir

namespace ShaderKit.Vertex

open Ir

/-- The argument of the new entry function by which a buffer advances. -/
def StepMode.argument : StepMode → Nat
  | perVertex => 0
  | perInstance => 1

/-! ### From roles to expressions -/

variable {s : PullingScope} {inputs : Option IoBinding → TypeId → Prop} {b : Builder} {rs : List Role}

theorem Fills.eq_argument {past : ExprId → Option Role} {x : Expression} {step : StepMode}
    (h : Fills s inputs past x (.index step)) : x = .argument step.argument := by
  cases h <;> rfl

theorem Fills.eq_literal {past : ExprId → Option Role} {x : Expression} {l : Literal}
    (h : Fills s inputs past x (.literal l)) : x = .literal l := by
  cases h
  rfl

/-- Only words are loaded. -/
theorem Fills.eq_word {past : ExprId → Option Role} {pointer : ExprId} {role : Role}
    (h : Fills s inputs past (.load pointer) role) : ∃ p w, role = .word p w := by
  cases h
  exact ⟨_, _, rfl⟩

namespace Filled

/-- The expression in a role, and how it fills it from roles of the whole list. -/
theorem exists_expression (h : Filled s inputs b rs) {e : Nat} {role : Role} (hrole : rs[e]? = some role) :
    ∃ x, b.expressions[e]? = some x ∧ Fills s inputs ((rs.take e)[·]?) x role := by
  have hlt : e < b.expressions.length := h.length_eq ▸ (List.getElem?_eq_some_iff.1 hrole).1
  have hx := List.getElem?_eq_getElem hlt
  exact ⟨_, hx, h.fills e _ role hx hrole⟩

/-- An expression in the role of a word loads it by its number, and is there because the attribute feeds an
input. -/
theorem loadsWord (h : Filled s inputs b rs) {f : Function} (hf : b.expressions <+: f.expressions) {e : Nat}
    {p : Placement} {w : Nat} (hrole : rs[e]? = some (.word p w)) :
    s.Reads inputs p ∧ w < p.format.words ∧ ∃ buffer number, s.layout.buffers[p.buffer]? = some buffer ∧
      number.toNat = p.firstWord.toNat + w ∧
      f.LoadsWord (s.firstBuffer + p.buffer) buffer.step.argument buffer.stride number e := by
  have hearlier {e i : Nat} {role : Role} (hi : (rs.take e)[i]? = some role) : rs[i]? = some role :=
    (List.take_prefix e rs).getElem?_eq_some hi
  have hthere {e : Nat} {x : Expression} (hx : b.expressions[e]? = some x) : f.expressions[e]? = some x :=
    hf.getElem?_eq_some hx
  -- from the load down to the literals, the role of each operand says which expression it is
  obtain ⟨_, hload, hfills⟩ := h.exists_expression hrole
  cases hfills with | word hpointer =>
  obtain ⟨_, haccess, hfills⟩ := h.exists_expression (hearlier hpointer)
  cases hfills with | pointer hbuffer haddress =>
  obtain ⟨_, hsource, hfills⟩ := h.exists_expression (hearlier hbuffer)
  cases hfills with | buffer =>
  obtain ⟨_, hadd, hfills⟩ := h.exists_expression (hearlier haddress)
  cases hfills with | @address _ _ _ _ number hread hw hnumber hbase hoffset =>
  obtain ⟨_, hliteral, hfills⟩ := h.exists_expression (hearlier hoffset)
  obtain rfl := hfills.eq_literal
  obtain ⟨_, hmultiply, hfills⟩ := h.exists_expression (hearlier hbase)
  cases hfills with | @base _ buffer _ _ hslot hindex hstride =>
  obtain ⟨_, hargument, hfills⟩ := h.exists_expression (hearlier hindex)
  obtain rfl := hfills.eq_argument
  obtain ⟨_, hfactor, hfills⟩ := h.exists_expression (hearlier hstride)
  obtain rfl := hfills.eq_literal
  exact ⟨hread, hw, buffer, number, hslot, hnumber, _, _, _, _, _, _, _, hthere hload, hthere haccess,
    hthere hsource, hthere hadd, hthere hliteral, hthere hmultiply, hthere hargument, hthere hfactor⟩

end Filled

/-! ### From words to literals -/

/-- The expression loads word `w` of an attribute of the buffer at `slot`, by a literal that is the number of the
word in its element. -/
def LoadsAttributeWord (f : Function) (firstBuffer slot : Nat) (layout : BufferLayout) (a : Attribute)
    (w : Nat) (e : ExprId) : Prop :=
  ∃ number, f.LoadsWord (firstBuffer + slot) layout.step.argument (layout.stride / 4).toUInt32 number e ∧
    number.toNat = a.offset.toNat / 4 + w

/-- What is loaded for the attribute found at a location are its words. -/
theorem Filled.loadsAttributeWord (h : Filled s inputs b rs) {state : State}
    (hs : s.layout.Placed state (slotted state 0)) {f : Function} (hf : b.expressions <+: f.expressions)
    {location : Nat} {p : Placement} (hp : s.layout.attributes.lookup location = some p) :
    ∃ layout a, Declares state p.buffer layout a ∧ a.location.toNat = location ∧
      p.format = a.format ∧ ∀ (w e : Nat), rs[e]? = some (.word p w) →
        LoadsAttributeWord f s.firstBuffer p.buffer layout a w e := by
  obtain ⟨layout, a, hdeclares, hlocation, hformat, hfirst⟩ := hs.lookup_eq_some hp
  refine ⟨layout, a, hdeclares, hlocation, hformat, fun w e hrole => ?_⟩
  obtain ⟨-, -, buffer, number, hslot, hnumber, hloads⟩ := h.loadsWord hf hrole
  cases hslot.symm.trans (hs.buffers_getElem? hdeclares.slot)
  have hoffset := (hs.offsets _ (mem_slotted.2 ⟨layout, hdeclares⟩)).toNat_eq
  refine ⟨number, hloads, ?_⟩
  rw [hnumber, hfirst, ← hoffset, Nat.mul_div_cancel_left _ (by decide)]

/-! ### The new entry function -/

/-- The expressions of the pulling code are the first of the new entry function. -/
theorem prefix_pullingEntry (entryPoint : String) (entry : EntryPoint) (wordType : TypeId)
    (inner : FunctionId) (arguments : List ExprId) (built : Builder) : built.expressions <+:
      (pullingEntry entryPoint entry wordType inner arguments built).function.expressions :=
  ⟨_, (Builder.finish_expressions built inner arguments entry.function.result.isSome).symm⟩

/-- A function loads each word of each attribute that feeds one of the inputs that the arguments are made of, by
its number in the element, and nothing else. -/
structure LoadsInputs (m : Module) (types : List TypeInfo) (state : State) (arguments : List Argument)
    (f : Function) : Prop where
  all : ∀ location blend interpolation sampling type,
    IsInput types arguments (some (.location location blend interpolation sampling)) type →
      ∃ slot layout a, Declares state slot layout a ∧ a.location.toNat = location ∧
        ∀ w < a.format.words, ∃ e, LoadsAttributeWord f m.globals.length slot layout a w e
  only : ∀ (e : Nat) pointer, f.expressions[e]? = some (.load pointer) →
    ∃ location blend interpolation sampling type slot layout a w,
      IsInput types arguments (some (.location location blend interpolation sampling)) type ∧
        Declares state slot layout a ∧ a.location.toNat = location ∧ w < a.format.words ∧
        LoadsAttributeWord f m.globals.length slot layout a w e

/-- What the new entry function loads are the words behind its inputs. -/
theorem loadsInputs_of_pull {m m' : Module} {state : State} {entryPoint : String} {group : Nat}
    (h : pull m state entryPoint group = .ok m') :
    ∃ index entry entry', pullingTarget m entryPoint = .ok (index, entry) ∧
      m'.entryPoints[index]? = some entry' ∧
      LoadsInputs m m'.types state entry.function.arguments entry'.function := by
  obtain ⟨index, entry, layout, wordType, wordsType, arguments, built, hp⟩ := pulled_of_pull h
  -- the expressions have roles, and that of a loaded word says which attribute it is of
  obtain ⟨rs, hfilled, hsupplied⟩ := hp.filled
  have hs := WordLayout.placed_of_ofState hp.placement
  have hprefix := prefix_pullingEntry entryPoint entry wordType m.functions.length arguments built
  refine ⟨index, entry, _, hp.target, hp.entryPoint_eq,
    fun location blend interpolation sampling type hinput => ?_, fun e pointer he => ?_⟩
  · -- what supplies the argument that the input is part of has loaded all words behind it
    obtain ⟨argument, hargument, hpart⟩ := hinput
    obtain ⟨_, _, _, hloaded⟩ := hsupplied.exists_mem_right hargument
    obtain ⟨p, hlookup, hwords⟩ := hloaded _ _ _ _ _ hpart
    obtain ⟨buffer, a, hdeclares, hlocation, hformat, hloads⟩ :=
      hfilled.loadsAttributeWord hs hprefix hlookup
    refine ⟨p.buffer, buffer, a, hdeclares, hlocation, fun w hw => ?_⟩
    obtain ⟨e, he⟩ := List.mem_iff_getElem?.1 (hwords w (hformat ▸ hw))
    exact ⟨e, hloads w e he⟩
  · -- a call of the original function and a return load nothing, so the load is part of the pulling code
    have he : (built.finish m.functions.length arguments entry.function.result.isSome).expressions[e]? =
        some (.load pointer) := he
    have hload : built.expressions[e]? = some (.load pointer) :=
      (Builder.finish_getElem?_eq_some_iff.1 he).resolve_right nofun
    obtain ⟨_, hrole, hfills⟩ := hfilled.exists_fills hload
    obtain ⟨p, w, rfl⟩ := hfills.eq_word
    obtain ⟨⟨location, blend, interpolation, sampling, type, hinput, hlookup⟩, hw, _⟩ :=
      hfilled.loadsWord hprefix hrole
    obtain ⟨buffer, a, hdeclares, hlocation, hformat, hloads⟩ :=
      hfilled.loadsAttributeWord hs hprefix hlookup
    exact ⟨location, blend, interpolation, sampling, type, p.buffer, buffer, a, w, hinput, hdeclares,
      hlocation, hformat ▸ hw, hloads w e hrole⟩

/-- Where pulling gives a module, each word of each attribute that feeds an input is loaded, and nothing else, each
by a literal that is its number in the element.  Where nothing stands against pulling, it gives up exactly if an
input is at the location of an attribute with a word that has no number of 32 bits; and it gives up at such a
location only. -/
theorem pull_loads_words (m : Module) (state : State) (entryPoint : String) (group : Nat) :
    (∀ m', pull m state entryPoint group = .ok m' →
      ∃ index entry entry', pullingTarget m entryPoint = .ok (index, entry) ∧
        m'.entryPoints[index]? = some entry' ∧
        LoadsInputs m m'.types state entry.function.arguments entry'.function) ∧
    (∀ location, pull m state entryPoint group = .error (.wordOverflow location) →
      ReadsUnnumbered m (pullingTypes m) state entryPoint location) ∧
    (Pullable m (pullingTypes m) state entryPoint group →
      ((∃ location, pull m state entryPoint group = .error (.wordOverflow location)) ↔
        ∃ location, ReadsUnnumbered m (pullingTypes m) state entryPoint location)) := by
  have hends := pull_ends m state entryPoint group
  exact ⟨fun _ => loadsInputs_of_pull, fun _ => hends.unnumbered_of_overflow, hends.overflow_iff⟩

/-- A buffer with an attribute whose first word is the last one that a literal can name. -/
def lastWord : State := [⟨12, .perVertex, [⟨.float32x2, 17179869180, 0⟩]⟩]

theorem pull_loads_words_tintedPosition :
    (∃ m' index entry entry', pull tintedPosition interleaved "main" 1 = .ok m' ∧
      pullingTarget tintedPosition "main" = .ok (index, entry) ∧ m'.entryPoints[index]? = some entry' ∧
      LoadsInputs tintedPosition m'.types interleaved entry.function.arguments entry'.function) ∧
    pull indexedPosition lastWord "main" 1 = .error (.wordOverflow 0) ∧
    ReadsUnnumbered indexedPosition (pullingTypes indexedPosition) lastWord "main" 0 := by
  obtain ⟨m', h, _⟩ := Except.exists_eq_ok_of_decide (x := pull tintedPosition interleaved "main" 1)
    (P := fun _ => True) (by decide +kernel)
  obtain ⟨index, entry, entry', hloads⟩ := (pull_loads_words tintedPosition interleaved "main" 1).1 m' h
  have hlast : pull indexedPosition lastWord "main" 1 = .error (.wordOverflow 0) := rfl
  exact ⟨⟨m', index, entry, entry', h, hloads⟩, hlast,
    (pull_loads_words indexedPosition lastWord "main" 1).2.1 0 hlast⟩

/-- Pulling gives up at an attribute of a state that can be turned into words. -/
theorem pull_overflows_lastWord :
    (∃ layout, WordLayout.ofState lastWord = .ok layout) ∧
      pull indexedPosition lastWord "main" 1 = .error (.wordOverflow 0) :=
  ⟨⟨_, rfl⟩, rfl⟩

end ShaderKit.Vertex
