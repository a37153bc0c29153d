import Mathlib.Data.List.Forall2
import Mathlib.Data.List.Induction
import ShaderKit.Ir.Typing
import ShaderKit.Proofs.Std.List

/-!
# Typing rules for code that reads words

The rules by which the expressions are typed that load words from buffers, turn them into numbers and compose
values of these.  A rule names the types that each operand must have, so a typed expression is one that a
validator accepts.  The types that the rules give are those that are inferred.

## Key results

- `HasType.typeOf_eq_ok`: what the rules type has that type by inference
- `TypingScope.typesOf_eq_ok`: expressions typed one after another are typed as a list
-/

namespace ShaderKit.Ir

/-- The expression has a type of this shape. -/
def HasShape (types : List TypeInfo) (past : ExprId → Option ValueType) (e : ExprId) (shape : Shape) :
    Prop :=
  ∃ t, past e = some t ∧ t.shape? types = some shape

/-- The expression has the type, where the expressions before it have the types that `past` gives. -/
inductive HasType (s : TypingScope) (past : ExprId → Option ValueType) : Expression → ValueType → Prop
  | literal {l : Literal} : HasType s past (.literal l) (.shape (.scalar l.scalar))
  | argument {i : Nat} {a : Argument} (ha : s.arguments[i]? = some a) :
    HasType s past (.argument i) (.named a.type)
  | global {g : GlobalId} {v : GlobalVariable} (hv : s.globals[g]? = some v) (hspace : v.space ≠ .handle) :
    HasType s past (.global g) (.shape (.pointer v.type v.space))
  /-- Words are multiplied with words. -/
  | multiply {left right : ExprId} {t : ValueType} (hleft : HasShape s.types past left (.scalar .u32))
      (hright : past right = some t) (ht : t.shape? s.types = some (.scalar .u32)) :
    HasType s past (.binary .multiply left right) t
  /-- Words are added to words. -/
  | add {left right : ExprId} {t : ValueType} (hleft : past left = some t)
      (ht : t.shape? s.types = some (.scalar .u32))
      (hright : HasShape s.types past right (.scalar .u32)) :
    HasType s past (.binary .add left right) t
  /-- Pointers to arrays of words of unknown length are indexed by words. -/
  | access {base index : ExprId} {array element : TypeId} {space : AddressSpace} {name name' : Option String}
      {stride : Nat} (hbase : HasShape s.types past base (.pointer array space))
      (harray : s.types[array]? = some ⟨name, .array element .dynamic stride⟩)
      (helement : s.types[element]? = some ⟨name', .scalar .u32⟩)
      (hindex : HasShape s.types past index (.scalar .u32)) :
    HasType s past (.access base index) (.shape (.pointer element space))
  /-- Words are loaded through pointers to words. -/
  | load {pointer : ExprId} {base : TypeId} {space : AddressSpace} {name : Option String}
      (hpointer : HasShape s.types past pointer (.pointer base space))
      (hbase : s.types[base]? = some ⟨name, .scalar .u32⟩) :
    HasType s past (.load pointer) (.named base)
  /-- The bits of a scalar of four bytes make a number of four bytes. -/
  | reinterpret {operand : ExprId} {kind kind' : ScalarKind}
      (hoperand : HasShape s.types past operand (.scalar ⟨kind', 4⟩)) (hkind : kind = .float ∨ kind = .sint) :
    HasType s past (.convert operand kind none) (.shape (.scalar ⟨kind, 4⟩))
  /-- A word holds four numbers of eight bits. -/
  | unpackBytes {f : MathFunction} {word : ExprId} (hf : f = .unpack4x8unorm ∨ f = .unpack4x8snorm)
      (hword : HasShape s.types past word (.scalar .u32)) :
    HasType s past (.math f word none none none) (.shape (.vector .four .f32))
  /-- A word holds two numbers of sixteen bits. -/
  | unpackHalves {f : MathFunction} {word : ExprId}
      (hf : f = .unpack2x16unorm ∨ f = .unpack2x16snorm ∨ f = .unpack2x16float)
      (hword : HasShape s.types past word (.scalar .u32)) :
    HasType s past (.math f word none none none) (.shape (.vector .two .f32))
  | accessIndex {base : ExprId} {size : VectorSize} {scalar : Scalar} {i : Nat}
      (hbase : HasShape s.types past base (.vector size scalar)) (hi : i < size.toNat) :
    HasType s past (.accessIndex base i) (.shape (.scalar scalar))
  /-- A bit field of an integer of four bytes has its type; offset and count are words. -/
  | extractBits {value offset count : ExprId} {t : ValueType} {scalar : Scalar}
      (hvalue : past value = some t) (ht : t.shape? s.types = some (.scalar scalar))
      (hscalar : scalar = .u32 ∨ scalar = .i32) (hoffset : HasShape s.types past offset (.scalar .u32))
      (hcount : HasShape s.types past count (.scalar .u32)) :
    HasType s past (.math .extractBits value (some offset) (some count) none) t
  /-- A vector is composed of as many scalars as it has components. -/
  | vector {type : TypeId} {name : Option String} {size : VectorSize} {scalar : Scalar}
      {components : List ExprId} (htype : s.types[type]? = some ⟨name, .vector size scalar⟩)
      (hlength : components.length = size.toNat)
      (heach : ∀ e ∈ components, HasShape s.types past e (.scalar scalar)) :
    HasType s past (.compose type components) (.named type)
  /-- A struct is composed of one value for each member, of exactly its type. -/
  | struct {type : TypeId} {name : Option String} {members : List StructMember} {span : Nat}
      {components : List ExprId} (htype : s.types[type]? = some ⟨name, .struct members span⟩)
      (heach : List.Forall₂ (fun m e => ∃ info, s.types[m.type]? = some info ∧
        HasShape s.types past e info.shape) members components) :
    HasType s past (.compose type components) (.named type)
  | callResult {f : FunctionId} {r : Result} (hf : s.results[f]? = some (some r)) :
    HasType s past (.callResult f) (.named r.type)

variable {s : TypingScope} {past : ExprId → Option ValueType}

/-- What the rules type has that type by inference. -/
theorem HasType.typeOf_eq_ok {x : Expression} {t : ValueType} (h : HasType s past x t) :
    s.typeOf past x = .ok t := by
  -- a rule says what inference asks for: the types of the operands, and their shapes
  cases h with
  | literal => rfl
  | argument ha => simp only [TypingScope.typeOf, ha, bind, Except.bind, pure, Except.pure]
  | global hv hspace =>
    simp only [TypingScope.typeOf, hv, hspace, bind, Except.bind, pure, Except.pure, if_false]
  | multiply hleft hright ht =>
    obtain ⟨u, hu, hshape⟩ := hleft
    simp only [TypingScope.typeOf, hu, hright, hshape, ht, bind, Except.bind, pure, Except.pure,
      productType]
  | add hleft ht hright => simp only [TypingScope.typeOf, hleft]
  | access hbase harray helement hindex =>
    obtain ⟨u, hu, hshape⟩ := hbase
    simp only [TypingScope.typeOf, hu, hshape, bind, Except.bind, pure, Except.pure, Shape.element,
      Shape.elementPointer, harray, Option.map_some]
  | load hpointer hbase =>
    obtain ⟨u, hu, hshape⟩ := hpointer
    simp only [TypingScope.typeOf, hu, hshape, hbase, bind, Except.bind, pure, Except.pure]
  | reinterpret hoperand hkind =>
    obtain ⟨u, hu, hshape⟩ := hoperand
    simp only [TypingScope.typeOf, hu, hshape, bind, Except.bind, pure, Except.pure, Option.getD_none]
  | unpackBytes hf hword =>
    obtain ⟨u, hu, hshape⟩ := hword
    rcases hf with rfl | rfl <;>
      simp only [TypingScope.typeOf, hu, hshape, bind, Except.bind, pure, Except.pure, mathType]
  | unpackHalves hf hword =>
    obtain ⟨u, hu, hshape⟩ := hword
    rcases hf with rfl | rfl | rfl <;>
      simp only [TypingScope.typeOf, hu, hshape, bind, Except.bind, pure, Except.pure, mathType]
  | accessIndex hbase hi =>
    obtain ⟨u, hu, hshape⟩ := hbase
    simp only [TypingScope.typeOf, hu, hshape, bind, Except.bind, pure, Except.pure, Shape.element,
      if_pos hi]
  | extractBits hvalue ht hscalar hoffset hcount =>
    obtain ⟨u, hu, hshape⟩ := hoffset
    rcases hscalar with rfl | rfl <;>
      simp only [TypingScope.typeOf, hvalue, ht, hu, hshape, bind, Except.bind, pure, Except.pure,
        Functor.map, Except.map, mathType, Scalar.u32, Scalar.i32, ScalarKind.isInteger, if_true]
  | vector | struct => rfl
  | callResult hf => simp only [TypingScope.typeOf, hf, bind, Except.bind, pure, Except.pure]

/-- Expressions that are typed one after another are typed as a list. -/
theorem TypingScope.typesOf_eq_ok {expressions : List Expression} {types : List ValueType}
    (hlength : types.length = expressions.length)
    (htyped : ∀ (e : Nat) x t, expressions[e]? = some x → types[e]? = some t →
      HasType s ((types.take e)[·]?) x t) :
    s.typesOf expressions = .ok types.toArray := by
  induction expressions using List.reverseRecOn generalizing types with
  | nil =>
    obtain rfl := List.length_eq_zero_iff.1 hlength
    rfl
  | append_singleton expressions x ih =>
    -- from the last expression on, since each one is typed over those before it
    rcases types.eq_nil_or_concat' with rfl | ⟨types, t, rfl⟩
    · simp at hlength
    have hlength' : types.length = expressions.length := by simpa using hlength
    have hfirst := ih hlength' fun e y u hy hu => by
      have hlt := (List.getElem?_eq_some_iff.1 hu).1
      have htype := htyped e y u ((List.prefix_append _ _).getElem?_eq_some hy)
        ((List.prefix_append _ _).getElem?_eq_some hu)
      rwa [List.take_append_of_le_length (Nat.le_of_lt hlt)] at htype
    have hlast : HasType s (types[·]?) x t := by
      have htype := htyped types.length x t (by rw [hlength', List.getElem?_concat_length])
        (by rw [List.getElem?_concat_length])
      rwa [List.take_left] at htype
    have hpast : (types.toArray[·]?) = (types[·]?) := funext fun i => List.getElem?_toArray
    unfold typesOf at hfirst ⊢
    simp only [List.foldlM_append, hfirst, bind, Except.bind, List.foldlM_cons, List.foldlM_nil, hpast,
      hlast.typeOf_eq_ok, pure, Except.pure, List.push_toArray]

end ShaderKit.Ir
