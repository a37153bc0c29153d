import ShaderKit.Proofs.Ir.TypingRules
import ShaderKit.Proofs.Vertex.Assembly
import ShaderKit.Proofs.Vertex.Frame

/-!
# The new entry function is well typed

The type of each expression of the new entry function follows from its role, so the typing rules type all of
them, and each argument of the call has exactly the type of its parameter.  Only the index inputs are taken
as they are declared, so they have to be words.

## Key results

- `Fills.hasType`: an expression that fills a role has the type of that role
- `NamesWords.exists_shape_of_supplies`: what supplies an input has the input's type
- `pull_well_typed`: the new entry function and its call are well typed
-/

namespace ShaderKit.Ir

/-- The expressions of the function have the types, each by the typing rules from those before it, and so by
inference. -/
structure Function.WellTyped (f : Function) (m : Module) (types : List ValueType) : Prop where
  length_eq : types.length = f.expressions.length
  rules : ∀ (e : Nat) x t, f.expressions[e]? = some x → types[e]? = some t →
    HasType (TypingScope.ofFunction m f) ((types.take e)[·]?) x t
  inferred : (TypingScope.ofFunction m f).typesOf f.expressions = .ok types.toArray

/-- There is one argument for each parameter, in order, and each has exactly the parameter's type. -/
def Function.Takes (f : Function) (m : Module) (past : ExprId → Option ValueType)
    (arguments : List ExprId) : Prop :=
  List.Forall₂ (fun a e => ∃ info, m.types[a.type]? = some info ∧ HasShape m.types past e info.shape)
    f.arguments arguments

end ShaderKit.Ir

namespace ShaderKit.Vertex

open Ir

/-! ### Types of roles -/

/-- The type of an expression of this role, where words and arrays of words are the types given. -/
def Role.valueType (wordType wordsType : TypeId) : Role → ValueType
  | index _ | word .. => .named wordType
  | literal l => .shape (.scalar l.scalar)
  | buffer _ => .shape (.pointer wordsType (.storage .readOnly))
  | base _ | address .. => .shape (.scalar .u32)
  | pointer .. => .shape (.pointer wordType (.storage .readOnly))
  | bits kind => .shape (.scalar ⟨kind, 4⟩)
  | unpacked size => .shape (.vector size .f32)
  | number => .shape (.scalar .f32)
  | field signed => if signed then .shape (.scalar .i32) else .named wordType
  | composed t => .named t

/-- The inputs that are the vertex or the instance index are declared as words. -/
def IndexInputsAreWords (types : List TypeInfo) (inputs : Option IoBinding → TypeId → Prop) : Prop :=
  ∀ builtIn t, builtIn = .vertexIndex ∨ builtIn = .instanceIndex → inputs (some (.builtIn builtIn)) t →
    ∃ name, types[t]? = some ⟨name, .scalar .u32⟩

/-- The names in the new entry function stand for the two indices and for buffers of words. -/
structure NamesWords (names : TypingScope) (s : PullingScope) (wordType wordsType : TypeId) : Prop where
  types : names.types = s.types
  vertexIndex : ∃ a, names.arguments[0]? = some a ∧ a.type = wordType
  instanceIndex : ∃ a, names.arguments[1]? = some a ∧ a.type = wordType
  buffers : ∀ slot < s.layout.buffers.length, ∃ v, names.globals[s.firstBuffer + slot]? = some v ∧
    v.type = wordsType ∧ v.space = .storage .readOnly
  word : s.types[wordType]? = some { shape := .scalar .u32 }
  words : s.types[wordsType]? = some { shape := .array wordType .dynamic 4 }

variable {s : PullingScope} {inputs : Option IoBinding → TypeId → Prop} {names : TypingScope}
  {wordType wordsType : TypeId}

namespace NamesWords

variable (h : NamesWords names s wordType wordsType)

include h

/-- A role that is a scalar has a type of that scalar. -/
theorem shape?_of_scalar? {role : Role} {scalar : Scalar} (hrole : role.scalar? = some scalar) :
    (role.valueType wordType wordsType).shape? s.types = some (.scalar scalar) := by
  have hword : (ValueType.named wordType).shape? s.types = some (.scalar .u32) := by
    rw [ValueType.shape?, h.word]
    rfl
  -- indices, words and unsigned fields have the interned type of words, the other scalars a type of
  -- their own
  cases role with
  | index | word =>
    cases hrole
    exact hword
  | field signed =>
    cases hrole
    cases signed with
    | true => rfl
    | false => exact hword
  | literal | base | address | bits | number =>
    cases hrole
    rfl
  | buffer | pointer | unpacked | composed => exact nomatch hrole

/-- What supplies an input has the input's type. -/
theorem exists_shape_of_supplies (hindex : IndexInputsAreWords s.types inputs)
    {binding : Option IoBinding} {t : TypeId} {role : Role} (hrole : Supplies s.types binding t role)
    (hinput : inputs binding t) :
    ∃ info, s.types[t]? = some info ∧
      (role.valueType wordType wordsType).shape? s.types = some info.shape := by
  -- the type of an index input is not looked at when it is supplied, so that it is a word is
  -- assumed
  cases hrole with
  | vertexIndex =>
    obtain ⟨name, htype⟩ := hindex _ t (.inl rfl) hinput
    exact ⟨_, htype, h.shape?_of_scalar? rfl⟩
  | instanceIndex =>
    obtain ⟨name, htype⟩ := hindex _ t (.inr rfl) hinput
    exact ⟨_, htype, h.shape?_of_scalar? rfl⟩
  | scalar htype hscalar => exact ⟨_, htype, h.shape?_of_scalar? hscalar⟩
  | vector htype | struct htype =>
    refine ⟨_, htype, ?_⟩
    rw [Role.valueType, ValueType.shape?, htype]
    rfl

end NamesWords

/-- The expression at a place has a type of the shape that its role has. -/
private theorem hasShape_of_role {past : ExprId → Option Role} {e : ExprId} {role : Role} {shape : Shape}
    (he : past e = some role) (hshape : (role.valueType wordType wordsType).shape? names.types = some shape) :
    HasShape names.types (fun e => (past e).map (·.valueType wordType wordsType)) e shape :=
  ⟨_, by simp [he], hshape⟩

/-- An expression that fills a role has the type of that role. -/
theorem Fills.hasType (hn : NamesWords names s wordType wordsType)
    (hindex : IndexInputsAreWords s.types inputs) {past : ExprId → Option Role} {x : Expression}
    {role : Role} (h : Fills s inputs past x role) :
    HasType names (fun e => (past e).map (·.valueType wordType wordsType)) x
      (role.valueType wordType wordsType) := by
  -- most operands are asked to be scalars, and a role says which scalar it is
  have hscalar {e : ExprId} {role' : Role} {scalar : Scalar} (he : past e = some role')
      (hrole : role'.scalar? = some scalar) : HasShape names.types
        (fun e => (past e).map (·.valueType wordType wordsType)) e (.scalar scalar) :=
    hasShape_of_role he (hn.types ▸ hn.shape?_of_scalar? hrole)
  have hword : names.types[wordType]? = some ⟨none, .scalar .u32⟩ := hn.types ▸ hn.word
  have hwords : names.types[wordsType]? = some ⟨none, .array wordType .dynamic 4⟩ := hn.types ▸ hn.words
  cases h with
  | vertexIndex =>
    obtain ⟨a, ha, rfl⟩ := hn.vertexIndex
    exact .argument ha
  | instanceIndex =>
    obtain ⟨a, ha, rfl⟩ := hn.instanceIndex
    exact .argument ha
  | literal => exact .literal
  | buffer hslot =>
    obtain ⟨v, hv, rfl, hspace⟩ := hn.buffers _ hslot
    show HasType names _ _ (.shape (.pointer v.type (.storage .readOnly)))
    rw [← hspace]
    exact .global hv (by simp [hspace])
  | base hslot hi hstride =>
    exact .multiply (hscalar hi rfl) (by simp [hstride]; rfl) rfl
  | address _ _ _ hbase hoffset =>
    exact .add (by simp [hbase]; rfl) rfl (hscalar hoffset rfl)
  | pointer hbuffer haddress =>
    exact .access (hasShape_of_role hbuffer rfl) hwords hword (hscalar haddress rfl)
  | word hpointer => exact .load (hasShape_of_role hpointer rfl) hword
  | bits hkind hword' => exact .reinterpret (hscalar hword' rfl) hkind
  | unpacked hsize hword' =>
    rcases unpackedSize?_eq_some hsize with ⟨rfl, hf⟩ | ⟨rfl, hf⟩
    · exact .unpackBytes hf (hscalar hword' rfl)
    · exact .unpackHalves hf (hscalar hword' rfl)
  | number hi hvector => exact .accessIndex (hasShape_of_role hvector rfl) hi
  | unsignedField hvalue hoffset hcount =>
    have hshape : (ValueType.named wordType).shape? names.types = some (.scalar .u32) := by
      simp [ValueType.shape?, hword]
    exact .extractBits (by simp [hvalue]; rfl) hshape (.inl rfl) (hscalar hoffset rfl) (hscalar hcount rfl)
  | signedField hvalue hoffset hcount =>
    exact .extractBits (by simp [hvalue]; rfl) rfl (.inr rfl) (hscalar hoffset rfl) (hscalar hcount rfl)
  | vector htype hlength heach =>
    refine .vector (hn.types ▸ htype) hlength fun e he => ?_
    obtain ⟨role, hrole, hs⟩ := heach e he
    exact hscalar hrole hs
  | struct htype hinput heach =>
    refine .struct (hn.types ▸ htype) (((List.forall₂_and_left _ _).2 ⟨hinput, heach⟩).imp ?_)
    rintro m e ⟨hm, role, hrole, hsupplies⟩
    obtain ⟨info, hinfo, hshape⟩ := hn.exists_shape_of_supplies hindex hsupplies hm
    exact ⟨info, hn.types ▸ hinfo, hasShape_of_role hrole (hn.types ▸ hshape)⟩

/-! ### Types of inputs -/

/-- A struct among the types of a module that pulls its inputs is one of the module's own types. -/
theorem struct_of_pullingTypes {m : Module} {t : TypeId} {name : Option String}
    {members : List StructMember} {span : Nat}
    (h : (pullingTypes m)[t]? = some ⟨name, .struct members span⟩) :
    m.types[t]? = some ⟨name, .struct members span⟩ := by
  obtain ⟨wordType, added, heq, hadded, _⟩ := pullingTypes_eq m
  rw [heq] at h
  by_cases ht : t < m.types.length
  · rwa [List.getElem?_append_left ht] at h
  · -- what is added is a word or an array
    rw [List.getElem?_append_right (Nat.le_of_not_lt ht)] at h
    have hmem := hadded.subset (List.mem_of_getElem? h)
    simp at hmem

/-- Inputs are made of the module's own types. -/
theorem IsInput.of_pullingTypes {m : Module} {arguments : List Argument} {binding : Option IoBinding}
    {t : TypeId} (h : IsInput (pullingTypes m) arguments binding t) :
    IsInput m.types arguments binding t := by
  obtain ⟨a, ha, hpart⟩ := h
  refine ⟨a, ha, ?_⟩
  generalize a.binding = whole, a.type = type at hpart
  induction hpart with
  | whole => exact .whole
  | member htype hm _ ih => exact .member (struct_of_pullingTypes htype) hm ih

/-- Index inputs that are declared as words are words after pulling. -/
theorem IndexInputsAreWords.of_pullingTypes {m : Module} {arguments : List Argument}
    (h : IndexInputsAreWords m.types (IsInput m.types arguments)) :
    IndexInputsAreWords (pullingTypes m) (IsInput (pullingTypes m) arguments) := by
  intro builtIn t hbuiltIn hinput
  obtain ⟨name, htype⟩ := h builtIn t hbuiltIn hinput.of_pullingTypes
  exact ⟨name, (prefix_pullingTypes m).getElem?_eq_some htype⟩

/-! ### The new entry function -/

/-- The names in the new entry function stand for the two indices and for the buffers of words. -/
theorem Pulled.namesWords {m m' : Module} {state : State} {entryPoint : String} {group index : Nat}
    {entry : EntryPoint} {layout : WordLayout} {wordType wordsType : TypeId} {arguments : List ExprId}
    {built : Builder}
    (h : Pulled m m' state entryPoint group index entry layout wordType wordsType arguments built) :
    NamesWords (TypingScope.ofFunction m'
        (pullingEntry entryPoint entry wordType m.functions.length arguments built).function)
      (pullingScope m m' layout) wordType wordsType where
  types := rfl
  vertexIndex := ⟨_, rfl, rfl⟩
  instanceIndex := ⟨_, rfl, rfl⟩
  buffers _ hslot := ⟨_, h.buffer_eq (h.buffers_length ▸ hslot), rfl, rfl⟩
  word := h.word
  words := h.words

/-- The type of the call's result, where there is one. -/
def resultTypes (f : Function) : List ValueType := (f.result.map fun r => .named r.type).toList

/-- A function whose expressions fill their roles and end in the call's result is well typed. -/
theorem Filled.wellTyped {m' : Module} {f callee : Function} {inner : FunctionId} {b : Builder}
    {rs : List Role} (arguments : List ExprId)
    (hn : NamesWords (TypingScope.ofFunction m' f) s wordType wordsType)
    (hindex : IndexInputsAreWords s.types inputs) (hb : Filled s inputs b rs)
    (hcallee : m'.functions[inner]? = some callee)
    (hresult : callee.result.map (·.type) = f.result.map (·.type))
    (hexpressions : f.expressions = (b.finish inner arguments f.result.isSome).expressions) :
    f.WellTyped m' (rs.map (·.valueType wordType wordsType) ++ resultTypes f) := by
  have hlength : (rs.map (·.valueType wordType wordsType) ++ resultTypes f).length =
      f.expressions.length := by
    rw [hexpressions, Builder.finish_expressions, List.length_append, List.length_append, List.length_map,
      hb.length_eq, resultTypes]
    cases f.result <;> rfl
  -- an expression of the builder has the type of its role
  have hrules (e : Nat) (x : Expression) (t : ValueType) (hx : f.expressions[e]? = some x)
      (ht : (rs.map (·.valueType wordType wordsType) ++ resultTypes f)[e]? = some t) :
      HasType (TypingScope.ofFunction m' f)
        (((rs.map (·.valueType wordType wordsType) ++ resultTypes f).take e)[·]?) x t := by
    rw [hexpressions] at hx
    rcases Builder.finish_getElem?_eq_some_iff.1 hx with hx | ⟨hsome, rfl, rfl⟩
    · -- types before the expression are those of the roles before it
      obtain ⟨role, hrole, hfills⟩ := hb.exists_fills hx
      have hlt := (List.getElem?_eq_some_iff.1 hrole).1
      have hmap : (rs.map (·.valueType wordType wordsType))[e]? =
          some (role.valueType wordType wordsType) := by
        rw [List.getElem?_map, hrole]
        rfl
      cases ht.symm.trans ((List.prefix_append _ _).getElem?_eq_some hmap)
      rw [List.take_append_of_le_length (by simpa using Nat.le_of_lt hlt), ← List.map_take]
      simpa only [List.getElem?_map] using hfills.hasType hn hindex
    · -- the call's result is the last, and has the type that the original function returns
      obtain ⟨r, hr⟩ := Option.isSome_iff_exists.1 hsome
      obtain ⟨r', hr', htype⟩ : ∃ r', callee.result = some r' ∧ r'.type = r.type :=
        Option.map_eq_some_iff.1 (by rw [hresult, hr]; rfl)
      rw [← hb.length_eq, List.getElem?_append_right (by simp), resultTypes, hr] at ht
      obtain rfl : ValueType.named r.type = t := by simpa using ht
      rw [← htype]
      refine .callResult ?_
      simp [TypingScope.ofFunction, TypingScope.ofModule, hcallee, hr']
  exact ⟨hlength, hrules, TypingScope.typesOf_eq_ok hlength hrules⟩

/-- Where the index inputs are words, the new entry function is well typed: the rules type all of its
expressions, the original function is given one argument for each parameter, of exactly its type, and what is
returned has the type of the result. -/
theorem pull_well_typed {m m' : Module} {state : State} {entryPoint : String} {group : Nat}
    (h : pull m state entryPoint group = .ok m')
    (hindex : ∀ index entry, pullingTarget m entryPoint = .ok (index, entry) →
      IndexInputsAreWords m.types (IsInput m.types entry.function.arguments)) :
    ∃ index entry entry' emits arguments result types,
      pullingTarget m entryPoint = .ok (index, entry) ∧
      m'.entryPoints[index]? = some entry' ∧
      m'.functions[m.functions.length]? = some (demote entryPoint entry.function) ∧
      entry'.function.body = emits ++ [.call m.functions.length arguments result, .ret result] ∧
      entry'.function.WellTyped m' types ∧
      (demote entryPoint entry.function).Takes m' (types[·]?) arguments ∧
      ∀ r, entry'.function.result = some r → ∃ e, result = some e ∧ types[e]? = some (.named r.type) := by
  obtain ⟨index, entry, layout, wordType, wordsType, arguments, built, hp⟩ := pulled_of_pull h
  obtain ⟨rs, hfilled, hsupplied⟩ := hp.filled
  let f := (pullingEntry entryPoint entry wordType m.functions.length arguments built).function
  let roleTypes := rs.map (·.valueType wordType wordsType)
  have htypes : m'.types = pullingTypes m := (untouched_of_pull h).1
  -- the types that pulling adds change nothing of what an index input is
  have hwords : IndexInputsAreWords (pullingScope m m' layout).types
      (IsInput m'.types entry.function.arguments) := by
    have hwords := (hindex index entry hp.target).of_pullingTypes
    rwa [← htypes] at hwords
  refine ⟨index, entry, _, built.flush.body, arguments, _, roleTypes ++ resultTypes f, hp.target,
    hp.entryPoint_eq, hp.callee_eq, Builder.finish_body built _ _ _, ?_, ?_, fun r hr => ?_⟩
  · refine hfilled.wellTyped arguments hp.namesWords hwords hp.callee_eq ?_ rfl
    simp [demote, pullingEntry, Function.comp_def]
  -- what supplies an argument has its type, and is still there behind the result of the call
  · refine List.forall₂_map_left_iff.2 (((List.forall₂_and_left _ _).2 ⟨fun a ha => ha, hsupplied⟩).imp ?_)
    rintro a e ⟨ha, ⟨role, hrole, hsupplies⟩, _⟩
    obtain ⟨info, hinfo, hshape⟩ :=
      hp.namesWords.exists_shape_of_supplies hwords hsupplies ⟨a, ha, .whole⟩
    have htype : roleTypes[e]? = some (role.valueType wordType wordsType) := by
      rw [List.getElem?_map, hrole]
      rfl
    exact ⟨info, hinfo, _, (List.prefix_append _ _).getElem?_eq_some htype, hshape⟩
  -- what is returned is the result of the call, which is the last expression
  · have hr : entry.function.result = some r := hr
    refine ⟨built.expressions.length, by simp [hr], ?_⟩
    rw [← hfilled.length_eq, List.getElem?_append_right (by simp [roleTypes])]
    simp [resultTypes, f, pullingEntry, hr, roleTypes]

theorem pull_well_typed_tintedPosition :
    (∀ index entry, pullingTarget tintedPosition "main" = .ok (index, entry) →
      IndexInputsAreWords tintedPosition.types (IsInput tintedPosition.types entry.function.arguments)) ∧
    ∃ m', pull tintedPosition interleaved "main" 1 = .ok m' ∧
      ∃ index entry entry' emits arguments result types,
        pullingTarget tintedPosition "main" = .ok (index, entry) ∧
        m'.entryPoints[index]? = some entry' ∧
        m'.functions[1]? = some (demote "main" entry.function) ∧
        entry'.function.body = emits ++ [.call 1 arguments result, .ret result] ∧
        entry'.function.WellTyped m' types ∧
        (demote "main" entry.function).Takes m' (types[·]?) arguments ∧
        ∀ r, entry'.function.result = some r →
          ∃ e, result = some e ∧ types[e]? = some (.named r.type) := by
  have hindex (index : Nat) (entry : EntryPoint)
      (h : pullingTarget tintedPosition "main" = .ok (index, entry)) :
      IndexInputsAreWords tintedPosition.types (IsInput tintedPosition.types entry.function.arguments) := by
    cases h
    rintro builtIn t _ ⟨a, ha, hpart⟩
    simp only [List.mem_cons, List.not_mem_nil, or_false] at ha
    -- only the third argument is an index
    rcases ha with rfl | rfl | rfl
    · exact nomatch hpart
    · exact nomatch hpart
    · cases hpart
      exact ⟨none, rfl⟩
  obtain ⟨m', h, _⟩ := Except.exists_eq_ok_of_decide (x := pull tintedPosition interleaved "main" 1)
    (P := fun _ => True) (by decide +kernel)
  exact ⟨hindex, m', h, pull_well_typed h hindex⟩

end ShaderKit.Vertex
