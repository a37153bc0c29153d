import Mathlib.Algebra.Group.Nat.Defs
import ShaderKit.Proofs.Reflection.Walks

/-!
# Sizes over the natural numbers

The size of a block is made of widths, counts, strides and offsets, all of them words that the module
chooses.  `Measures` adds them up over the natural numbers, and keeps all products and sums on the way.
Reflection computes with 64 bits: it finds that size if all of them fit, and gives up if one does not.

## Key results

- `Measures.unique`: the rules give a type one size
- `blockSize_eq_ok_iff`: a block has a size exactly if the rules give it that one and it fits on the way
- `blockSize_eq_overflow_iff`: reflection gives up exactly if the rules give a size that does not
- `Measures.le_of_vectors`: how large a size can be, by the number of products and sums it takes
- `Measures.steps_lt`: a size that takes at most three of them fits in 64 bits
-/

namespace ShaderKit.Spirv.Definitions

variable (defs : Definitions)

/-- A type is defined by an instruction with this opcode and these operands. -/
def Defines (type : Id) (opcode : Nat) (operands : List Operand) : Prop :=
  ∃ inst, defs.find? type = some inst ∧ inst.opcode = opcode ∧ inst.operands = operands

instance (type : Id) (opcode : Nat) (operands : List Operand) :
    Decidable (defs.Defines type opcode operands) :=
  decidable_of_iff
    ((defs.find? type).map (fun inst => (inst.opcode, inst.operands)) = some (opcode, operands))
    (by simp [Defines])

/-- The number of major vectors of a matrix that is a member of a struct: its columns, or its rows if
the member is row major. -/
inductive MajorVectors (struct : Id) (member : Nat) (matrix : Id) : Word → Prop
  | columns {column : Id} {count : Word}
    (hmajor : defs.memberHas struct (UInt32.ofNat member) Decoration.rowMajor = false)
    (hmatrix : defs.Defines matrix Op.typeMatrix [.id column, .word count]) :
    MajorVectors struct member matrix count
  | rows {column : Id} {count rows : Word} {opcode : Nat} {first : Operand}
    (hmajor : defs.memberHas struct (UInt32.ofNat member) Decoration.rowMajor = true)
    (hmatrix : defs.Defines matrix Op.typeMatrix [.id column, .word count])
    (hcolumn : defs.Defines column opcode [first, .word rows]) :
    MajorVectors struct member matrix rows

/-- The size of a type, and the products and sums that it takes, last one first. -/
inductive Measures : Id → Nat → List Nat → Prop
  | number {type : Id} {opcode : Nat} {width : Word} {rest : List Operand}
    (hopcode : opcode = Op.typeInt ∨ opcode = Op.typeFloat)
    (hdef : defs.Defines type opcode (.word width :: rest)) :
    Measures type (width.toNat / 8) []
  | vector {type component : Id} {count : Word} {n : Nat} {steps : List Nat}
    (hdef : defs.Defines type Op.typeVector [.id component, .word count])
    (hcomponent : Measures component n steps) :
    Measures type (count.toNat * n) (count.toNat * n :: steps)
  | array {type element length : Id} {count stride : Word}
    (hdef : defs.Defines type Op.typeArray [.id element, .id length])
    (hcount : defs.lengthOf length = .ok count)
    (hstride : defs.literal? type Decoration.arrayStride = some stride) :
    Measures type (count.toNat * stride.toNat) [count.toNat * stride.toNat]
  | runtimeArray {type : Id} {operands : List Operand} {stride : Word}
    (hdef : defs.Defines type Op.typeRuntimeArray operands)
    (hstride : defs.literal? type Decoration.arrayStride = some stride) :
    Measures type stride.toNat []
  | emptyStruct {type : Id} (hdef : defs.Defines type Op.typeStruct []) : Measures type 0 []
  | structOfMatrix {type matrix : Id} {members : List Operand} {offset stride vectors : Word}
    (hdef : defs.Defines type Op.typeStruct (members ++ [.id matrix]))
    (hoffset :
      defs.memberLiteral? type (UInt32.ofNat members.length) Decoration.offset = some offset)
    (hstride :
      defs.memberLiteral? type (UInt32.ofNat members.length) Decoration.matrixStride = some stride)
    (hvectors : defs.MajorVectors type members.length matrix vectors) :
    Measures type (offset.toNat + stride.toNat * vectors.toNat)
      [offset.toNat + stride.toNat * vectors.toNat, stride.toNat * vectors.toNat]
  | struct {type member : Id} {members : List Operand} {offset : Word} {n : Nat} {steps : List Nat}
    (hdef : defs.Defines type Op.typeStruct (members ++ [.id member]))
    (hoffset :
      defs.memberLiteral? type (UInt32.ofNat members.length) Decoration.offset = some offset)
    (hmember : Measures member n steps) :
    Measures type (offset.toNat + n) ((offset.toNat + n) :: steps)

variable {defs} {type : Id} {name : String} {fuel n : Nat} {steps : List Nat} {size : UInt64}

theorem get_eq_ok_iff {inst : Instruction} : defs.get type = .ok inst ↔ defs.find? type = some inst := by
  unfold get
  cases defs.find? type <;> simp

/-- A type has one definition. -/
theorem Defines.unique {opcode opcode' : Nat} {operands operands' : List Operand}
    (h : defs.Defines type opcode operands) (h' : defs.Defines type opcode' operands') :
    opcode = opcode' ∧ operands = operands' := by
  obtain ⟨inst, hfind, rfl, rfl⟩ := h
  obtain ⟨inst', hfind', rfl, rfl⟩ := h'
  cases hfind.symm.trans hfind'
  exact ⟨rfl, rfl⟩

/-- What has major vectors is a matrix. -/
theorem MajorVectors.exists_defines {struct matrix : Id} {member : Nat} {vectors : Word}
    (h : defs.MajorVectors struct member matrix vectors) :
    ∃ operands, defs.Defines matrix Op.typeMatrix operands := by
  cases h with
  | columns _ hmatrix => exact ⟨_, hmatrix⟩
  | rows _ hmatrix _ => exact ⟨_, hmatrix⟩

/-- What is measured has a definition, and it is no matrix. -/
theorem Measures.exists_defines (h : defs.Measures type n steps) :
    ∃ opcode operands, defs.Defines type opcode operands ∧ opcode ≠ Op.typeMatrix := by
  cases h with
  | number hopcode hdef =>
    refine ⟨_, _, hdef, ?_⟩
    rcases hopcode with rfl | rfl <;> decide
  | vector hdef _ => exact ⟨_, _, hdef, by decide⟩
  | array hdef _ _ => exact ⟨_, _, hdef, by decide⟩
  | runtimeArray hdef _ => exact ⟨_, _, hdef, by decide⟩
  | emptyStruct hdef => exact ⟨_, _, hdef, by decide⟩
  | structOfMatrix hdef _ _ _ => exact ⟨_, _, hdef, by decide⟩
  | struct hdef _ _ => exact ⟨_, _, hdef, by decide⟩

/-- What is measured is no matrix. -/
theorem Measures.not_matrix (h : defs.Measures type n steps) :
    ¬ ∃ operands, defs.Defines type Op.typeMatrix operands := by
  rintro ⟨_, hmatrix⟩
  obtain ⟨_, _, hdef, hne⟩ := h.exists_defines
  exact hne (hdef.unique hmatrix).1

/-- A number takes no product and no sum. -/
theorem Measures.no_steps_of_number {opcode : Nat} {operands : List Operand}
    (h : defs.Measures type n steps) (hopcode : opcode = Op.typeInt ∨ opcode = Op.typeFloat)
    (hdef : defs.Defines type opcode operands) : steps = [] := by
  cases h with
  | number _ _ => rfl
  | vector hdef' _ | array hdef' _ _ | runtimeArray hdef' _ | emptyStruct hdef'
  | structOfMatrix hdef' _ _ _ | struct hdef' _ _ =>
    obtain ⟨rfl, _⟩ := hdef'.unique hdef
    exact absurd hopcode (by decide)

/-- A type that is defined as a number has no other form. -/
theorem Defines.not_number {opcode opcode' : Nat} {operands operands' : List Operand}
    (h : defs.Defines type opcode operands) (h' : defs.Defines type opcode' operands')
    (hne : ¬ (opcode = Op.typeInt ∨ opcode = Op.typeFloat)) :
    ¬ (opcode' = Op.typeInt ∨ opcode' = Op.typeFloat) := by
  rwa [← (h.unique h').1]

/-- A matrix member has one number of major vectors. -/
theorem MajorVectors.unique {struct matrix : Id} {member : Nat} {vectors vectors' : Word}
    (h : defs.MajorVectors struct member matrix vectors)
    (h' : defs.MajorVectors struct member matrix vectors') : vectors = vectors' := by
  cases h with
  | columns hmajor hmatrix =>
    -- a member is row major or it is not, so both come from one rule
    cases h' with
    | columns _ hmatrix' =>
      cases (hmatrix.unique hmatrix').2
      rfl
    | rows hmajor' _ _ => cases hmajor.symm.trans hmajor'
  | rows hmajor hmatrix hcolumn =>
    cases h' with
    | columns hmajor' _ => cases hmajor.symm.trans hmajor'
    | rows _ hmatrix' hcolumn' =>
      cases (hmatrix.unique hmatrix').2
      cases (hcolumn.unique hcolumn').2
      rfl

/-- A type has one size. -/
theorem Measures.unique {n' : Nat} {steps' : List Nat} (h : defs.Measures type n steps)
    (h' : defs.Measures type n' steps') : n = n' ∧ steps = steps' := by
  -- the definition of a type says which rule it takes, and the operands and decorations of the rule
  -- are the same too; only the size of a component or a last member is another size by the rules
  induction h generalizing n' steps' with
  | number hopcode hdef =>
    -- runtime arrays and empty structs take no steps either
    obtain rfl := h'.no_steps_of_number hopcode hdef
    cases h' with
    | number _ hdef' =>
      cases (hdef.unique hdef').2
      exact ⟨rfl, rfl⟩
    | runtimeArray hdef' _ | emptyStruct hdef' =>
      exact absurd hopcode (hdef'.not_number hdef (by decide))
  | vector hdef _ ih =>
    cases h' with
    | number hopcode' hdef' => exact absurd hopcode' (hdef.not_number hdef' (by decide))
    | vector hdef' hcomponent' =>
      cases (hdef.unique hdef').2
      obtain ⟨rfl, rfl⟩ := ih hcomponent'
      exact ⟨rfl, rfl⟩
    | array hdef' _ _ | runtimeArray hdef' _ | emptyStruct hdef' | structOfMatrix hdef' _ _ _
    | struct hdef' _ _ => exact absurd (hdef.unique hdef').1 (by decide)
  | array hdef hcount hstride =>
    cases h' with
    | number hopcode' hdef' => exact absurd hopcode' (hdef.not_number hdef' (by decide))
    | array hdef' hcount' hstride' =>
      cases (hdef.unique hdef').2
      cases hcount.symm.trans hcount'
      cases hstride.symm.trans hstride'
      exact ⟨rfl, rfl⟩
    | vector hdef' _ | runtimeArray hdef' _ | emptyStruct hdef' | structOfMatrix hdef' _ _ _
    | struct hdef' _ _ => exact absurd (hdef.unique hdef').1 (by decide)
  | runtimeArray hdef hstride =>
    cases h' with
    | number hopcode' hdef' => exact absurd hopcode' (hdef.not_number hdef' (by decide))
    | runtimeArray _ hstride' =>
      cases hstride.symm.trans hstride'
      exact ⟨rfl, rfl⟩
    | vector hdef' _ | array hdef' _ _ | emptyStruct hdef' | structOfMatrix hdef' _ _ _
    | struct hdef' _ _ => exact absurd (hdef.unique hdef').1 (by decide)
  | emptyStruct hdef =>
    cases h' with
    | number hopcode' hdef' => exact absurd hopcode' (hdef.not_number hdef' (by decide))
    | emptyStruct _ => exact ⟨rfl, rfl⟩
    | vector hdef' _ | array hdef' _ _ | runtimeArray hdef' _ =>
      exact absurd (hdef.unique hdef').1 (by decide)
    -- two structs, but one has no member
    | structOfMatrix hdef' _ _ _ | struct hdef' _ _ =>
      exact absurd (hdef.unique hdef').2 (by simp)
  | structOfMatrix hdef hoffset hstride hvectors =>
    cases h' with
    | number hopcode' hdef' => exact absurd hopcode' (hdef.not_number hdef' (by decide))
    | vector hdef' _ | array hdef' _ _ | runtimeArray hdef' _ =>
      exact absurd (hdef.unique hdef').1 (by decide)
    | emptyStruct hdef' => exact absurd (hdef.unique hdef').2 (by simp)
    | structOfMatrix hdef' hoffset' hstride' hvectors' =>
      obtain ⟨rfl, hlast⟩ := List.append_inj' (hdef.unique hdef').2 rfl
      cases hlast
      cases hoffset.symm.trans hoffset'
      cases hstride.symm.trans hstride'
      cases hvectors.unique hvectors'
      exact ⟨rfl, rfl⟩
    -- the last member is the same one, and a matrix has no size of its own
    | struct hdef' _ hmember' =>
      obtain ⟨_, hlast⟩ := List.append_inj' (hdef.unique hdef').2 rfl
      cases hlast
      exact absurd hvectors.exists_defines hmember'.not_matrix
  | struct hdef hoffset hmember ih =>
    cases h' with
    | number hopcode' hdef' => exact absurd hopcode' (hdef.not_number hdef' (by decide))
    | vector hdef' _ | array hdef' _ _ | runtimeArray hdef' _ =>
      exact absurd (hdef.unique hdef').1 (by decide)
    | emptyStruct hdef' => exact absurd (hdef.unique hdef').2 (by simp)
    | structOfMatrix hdef' _ _ hvectors' =>
      obtain ⟨_, hlast⟩ := List.append_inj' (hdef.unique hdef').2 rfl
      cases hlast
      exact absurd hvectors'.exists_defines hmember.not_matrix
    | struct hdef' hoffset' hmember' =>
      obtain ⟨rfl, hlast⟩ := List.append_inj' (hdef.unique hdef').2 rfl
      cases hlast
      cases hoffset.symm.trans hoffset'
      obtain ⟨rfl, rfl⟩ := ih hmember'
      exact ⟨rfl, rfl⟩

/-- A size that takes no product and no sum is a word at most. -/
theorem Measures.le_of_no_steps (h : defs.Measures type n []) : n ≤ 2 ^ 32 - 1 := by
  cases h with
  | @number _ _ width _ _ _ =>
    have := width.toNat_lt
    omega
  | @runtimeArray _ _ stride _ _ =>
    have := stride.toNat_lt
    omega
  | emptyStruct _ => omega

/-- A size is the result of its last product or sum. -/
theorem Measures.lt_of_steps_lt (h : defs.Measures type n steps) (hsteps : ∀ x ∈ steps, x < UInt64.size) :
    n < UInt64.size := by
  cases steps with
  | nil => exact Nat.lt_of_le_of_lt h.le_of_no_steps (by decide)
  | cons x rest =>
    have hx := hsteps x (List.mem_cons_self ..)
    cases h <;> exact hx

/-! ### What is found -/

/-- What is found of a type with this size: the size, unless a product or sum on the way does not fit. -/
def found (n : Nat) (steps : List Nat) : Except ReflectionError UInt64 :=
  if ∀ x ∈ steps, x < UInt64.size then .ok (UInt64.ofNat n) else .error .sizeOverflow

/-- One more product or sum is made with the size that was found before. -/
theorem found_cons (hn : (∀ x ∈ steps, x < UInt64.size) → n < UInt64.size) (f : Nat → Nat) :
    found (f n) (f n :: steps) = found n steps >>= fun size => byteSize (f size.toNat) := by
  unfold found
  -- what fits goes on with the size as a number of 64 bits
  by_cases hsteps : ∀ x ∈ steps, x < UInt64.size
  · rw [if_pos hsteps]
    show _ = byteSize (f (UInt64.ofNat n).toNat)
    rw [UInt64.toNat_ofNat_of_lt' (hn hsteps)]
    by_cases hlast : f n < UInt64.size
    · rw [if_pos, byteSize_of_lt hlast]
      exact List.forall_mem_cons.2 ⟨hlast, hsteps⟩
    · rw [if_neg, byteSize_of_le (Nat.le_of_not_lt hlast)]
      exact fun hall => hlast (hall _ (List.mem_cons_self ..))
  · -- what did not fit before is still among the steps
    rw [if_neg hsteps, if_neg fun hall => hsteps fun x hx => hall x (List.mem_cons_of_mem _ hx)]
    rfl

/-- A product of two words. -/
private theorem mul_word_le (a b : Word) : a.toNat * b.toNat ≤ (2 ^ 32 - 1) * (2 ^ 32 - 1) := by
  have ha := a.toNat_lt
  have hb := b.toNat_lt
  exact Nat.mul_le_mul (by omega) (by omega)

/-- A product of two words fits in 64 bits. -/
private theorem mul_word_lt (a b : Word) : a.toNat * b.toNat < UInt64.size :=
  Nat.lt_of_le_of_lt (mul_word_le a b) (by decide)

/-- A product of two words is found. -/
private theorem byteSize_product (a b : Word) :
    byteSize (a.toNat * b.toNat) = found (a.toNat * b.toNat) [a.toNat * b.toNat] := by
  rw [byteSize_of_lt (mul_word_lt a b), found, if_pos]
  simpa using mul_word_lt a b

/-- The size of a type follows from its definition. -/
theorem sizeFrom_succ {inst : Instruction} (hfind : defs.find? type = some inst) :
    defs.sizeFrom name (fuel + 1) type = defs.definedSize name type (defs.sizeFrom name fuel) inst := by
  rw [sizeFrom, get_eq_ok_iff.2 hfind]
  rfl

/-- The size of a matrix member is its stride times the number of its major vectors. -/
theorem MajorVectors.matrixSize {struct matrix : Id} {member : Nat} {stride vectors : Word}
    (hvectors : defs.MajorVectors struct member matrix vectors)
    (hstride :
      defs.memberLiteral? struct (UInt32.ofNat member) Decoration.matrixStride = some stride) :
    defs.matrixSize struct member matrix name = byteSize (stride.toNat * vectors.toNat) := by
  unfold Definitions.matrixSize
  -- columns are counted by the matrix, rows by the type of its columns
  cases hvectors with
  | columns hmajor hmatrix =>
    obtain ⟨inst, hfind, _, hoperands⟩ := hmatrix
    simp [hstride, get_eq_ok_iff.2 hfind, hoperands, hmajor, bind, Except.bind, pure, Except.pure]
  | rows hmajor hmatrix hcolumn =>
    obtain ⟨inst, hfind, _, hoperands⟩ := hmatrix
    obtain ⟨columnInst, hfindColumn, _, hcolumnOperands⟩ := hcolumn
    simp [hstride, get_eq_ok_iff.2 hfind, hoperands, hmajor, get_eq_ok_iff.2 hfindColumn,
      hcolumnOperands, bind, Except.bind, pure, Except.pure]

/-- A struct is measured by the definition of its last member. -/
private theorem structSize_append {measure : Id → Except ReflectionError UInt64} {member : Id}
    {members : List Operand} {offset : Word} {inst : Instruction}
    (hoffset :
      defs.memberLiteral? type (UInt32.ofNat members.length) Decoration.offset = some offset)
    (hfind : defs.find? member = some inst) :
    defs.structSize name type measure (members ++ [.id member]) =
      (if inst.opcode = Op.typeMatrix then defs.matrixSize type members.length member name
        else measure member) >>= fun size => byteSize (offset.toNat + size.toNat) := by
  unfold structSize
  rw [List.getLast?_concat, List.length_append, List.length_singleton, Nat.add_sub_cancel]
  dsimp only
  rw [hoffset, get_eq_ok_iff.2 hfind]
  show (if _ then _ else _) = _
  split <;> rfl

/-- A size by the rules is found as far as it fits, unless the walk runs out of steps before. -/
theorem sizeFrom_of_measures (h : defs.Measures type n steps) (name : String) (fuel : Nat) :
    Hangs (defs.sizeFrom name fuel type) ∨ defs.sizeFrom name fuel type = found n steps := by
  -- the fuel bounds the walk; where it is enough, each rule is one step of it
  induction fuel generalizing type n steps with
  | zero => exact .inl ⟨type, rfl⟩
  | succ fuel ih =>
    cases h with
    | @number _ _ width _ hopcode hdef =>
      obtain ⟨inst, hfind, rfl, hoperands⟩ := hdef
      right
      rw [sizeFrom_succ hfind, definedSize_number hopcode, hoperands, numberSize, found, if_pos nofun,
        ← UInt64.ofNat_uInt32ToNat, UInt32.toNat_div]
      rfl
    | @vector _ _ count n _ hdef hcomponent =>
      obtain ⟨inst, hfind, hopcode, hoperands⟩ := hdef
      rw [sizeFrom_succ hfind, definedSize_vector hopcode, hoperands, vectorSize]
      -- what is found of the component decides
      rcases ih hcomponent with hhangs | hfound
      · exact .inl (hangs_bind_iff.2 (.inl hhangs))
      · right
        rw [hfound, ← found_cons hcomponent.lt_of_steps_lt (count.toNat * ·)]
    | array hdef hcount hstride =>
      obtain ⟨inst, hfind, hopcode, hoperands⟩ := hdef
      right
      rw [sizeFrom_succ hfind, definedSize_array hopcode, hoperands, arraySize, ← byteSize_product]
      simp only [hstride, hcount]
      rfl
    | @runtimeArray _ _ stride hdef hstride =>
      obtain ⟨inst, hfind, hopcode, _⟩ := hdef
      right
      rw [sizeFrom_succ hfind, definedSize_runtimeArray hopcode, runtimeArraySize, hstride, found,
        if_pos nofun, UInt64.ofNat_uInt32ToNat]
    | emptyStruct hdef =>
      obtain ⟨inst, hfind, hopcode, hoperands⟩ := hdef
      right
      rw [sizeFrom_succ hfind, definedSize_struct hopcode, hoperands]
      rfl
    | @structOfMatrix _ _ members offset stride vectors hdef hoffset hstride hvectors =>
      obtain ⟨inst, hfind, hopcode, hoperands⟩ := hdef
      obtain ⟨_, last, hlast, hmatrix, _⟩ := hvectors.exists_defines
      right
      rw [sizeFrom_succ hfind, definedSize_struct hopcode, hoperands, structSize_append hoffset hlast,
        if_pos hmatrix, hvectors.matrixSize hstride, byteSize_product]
      exact (found_cons (fun hall => hall _ (List.mem_singleton_self _)) (offset.toNat + ·)).symm
    | @struct _ _ members offset n _ hdef hoffset hmember =>
      obtain ⟨inst, hfind, hopcode, hoperands⟩ := hdef
      obtain ⟨_, _, ⟨last, hlast, rfl, _⟩, hmatrix⟩ := hmember.exists_defines
      rw [sizeFrom_succ hfind, definedSize_struct hopcode, hoperands, structSize_append hoffset hlast,
        if_neg hmatrix]
      -- what is found of the last member decides
      rcases ih hmember with hhangs | hfound
      · exact .inl (hangs_bind_iff.2 (.inl hhangs))
      · right
        rw [hfound, ← found_cons hmember.lt_of_steps_lt (offset.toNat + ·)]

/-! ### What has a size -/

/-- Nothing is wrong with a computation, other than that a size may not fit in 64 bits. -/
def Settles {α : Type} (x : Except ReflectionError α) : Prop :=
  ∀ e, x = .error e → e = .sizeOverflow

section Settles

variable {α β : Type} {x : Except ReflectionError α} {f : α → Except ReflectionError β}

@[simp] theorem settles_error_iff (e : ReflectionError) :
    Settles (.error e : Except ReflectionError α) ↔ e = .sizeOverflow := by
  simp [Settles]

/-- Both parts of a chain settle. -/
theorem Settles.of_bind (h : Settles (x >>= f)) : Settles x ∧ ∀ a, x = .ok a → Settles (f a) := by
  constructor
  · rintro e rfl
    exact h e rfl
  · rintro a rfl
    exact h

theorem Settles.exists_find? (h : Settles (defs.get type)) : ∃ inst, defs.find? type = some inst := by
  unfold get at h
  cases hfind : defs.find? type with
  | none =>
    rw [hfind] at h
    exact absurd (h _ rfl) nofun
  | some inst => exact ⟨inst, rfl⟩

theorem Settles.exists_lengthOf {length : Id} (h : Settles (defs.lengthOf length)) :
    ∃ count, defs.lengthOf length = .ok count := by
  unfold lengthOf at h
  obtain ⟨hget, hconstant⟩ := h.of_bind
  obtain ⟨inst, hfind⟩ := hget.exists_find?
  have hvalue := hconstant inst (get_eq_ok_iff.2 hfind)
  -- only a constant of one word is a length
  split at hvalue
  · rename_i value rest hopcode hoperands
    refine ⟨value, ?_⟩
    simp [lengthOf, get_eq_ok_iff.2 hfind, hopcode, hoperands, bind, Except.bind, pure, Except.pure]
  · exact absurd (hvalue _ rfl) nofun

/-- A matrix member that has a size has a stride and a number of major vectors. -/
theorem Settles.exists_majorVectors {struct matrix : Id} {member : Nat} {inst : Instruction}
    (h : Settles (defs.matrixSize struct member matrix name)) (hfind : defs.find? matrix = some inst)
    (hopcode : inst.opcode = Op.typeMatrix) : ∃ stride vectors,
      defs.memberLiteral? struct (UInt32.ofNat member) Decoration.matrixStride = some stride ∧
      defs.MajorVectors struct member matrix vectors := by
  -- every form that is not expected ends in an error that is none of a size, so it is not this one
  unfold matrixSize at h
  split at h
  · rename_i stride hstride
    have hform := h.of_bind.2 inst (get_eq_ok_iff.2 hfind)
    dsimp only at hform
    split at hform
    · rename_i column columns hoperands
      have hmatrix : defs.Defines matrix Op.typeMatrix [.id column, .word columns] :=
        ⟨inst, hfind, hopcode, hoperands⟩
      simp only [pure_bind] at hform
      split at hform
      · -- row major, so the rows of a column count
        rename_i hmajor
        obtain ⟨hget, hrows⟩ := hform.of_bind
        obtain ⟨columnInst, hfindColumn⟩ := hget.exists_find?
        have hcolumn := hrows columnInst (get_eq_ok_iff.2 hfindColumn)
        split at hcolumn
        · rename_i first rows hcolumnOperands
          have hdefines : defs.Defines column columnInst.opcode [first, .word rows] :=
            ⟨columnInst, hfindColumn, rfl, hcolumnOperands⟩
          exact ⟨stride, rows, hstride, .rows hmajor hmatrix hdefines⟩
        · exact absurd (hcolumn _ rfl) nofun
      · rename_i hmajor
        exact ⟨stride, columns, hstride, .columns (by simpa using hmajor) hmatrix⟩
    · exact absurd (hform _ rfl) nofun
  · exact absurd (h _ rfl) nofun

end Settles

section Inversion

variable {inst : Instruction}
  (hfind : defs.find? type = some inst)

include hfind

private theorem exists_measures_number (hopcode : inst.opcode = Op.typeInt ∨ inst.opcode = Op.typeFloat)
    (h : Settles (numberSize name type inst.operands)) : ∃ n steps, defs.Measures type n steps := by
  unfold numberSize at h
  split at h
  · rename_i width rest hoperands
    exact ⟨_, _, .number hopcode ⟨inst, hfind, rfl, hoperands⟩⟩
  · exact absurd (h _ rfl) nofun

private theorem exists_measures_array (hopcode : inst.opcode = Op.typeArray)
    (h : Settles (defs.arraySize name type inst.operands)) : ∃ n steps, defs.Measures type n steps := by
  unfold arraySize at h
  split at h
  · rename_i element length hoperands
    split at h
    · rename_i stride hstride
      obtain ⟨count, hcount⟩ := h.of_bind.1.exists_lengthOf
      exact ⟨_, _, .array ⟨inst, hfind, hopcode, hoperands⟩ hcount hstride⟩
    · exact absurd (h _ rfl) nofun
  · exact absurd (h _ rfl) nofun

private theorem exists_measures_runtimeArray (hopcode : inst.opcode = Op.typeRuntimeArray)
    (h : Settles (defs.runtimeArraySize name type)) : ∃ n steps, defs.Measures type n steps := by
  unfold runtimeArraySize at h
  split at h
  · rename_i stride hstride
    exact ⟨_, _, .runtimeArray ⟨inst, hfind, hopcode, rfl⟩ hstride⟩
  · exact absurd (h _ rfl) nofun

variable {measure : Id → Except ReflectionError UInt64}
  (ih : ∀ {u : Id}, Settles (measure u) → ∃ n steps, defs.Measures u n steps)

include ih

private theorem exists_measures_vector (hopcode : inst.opcode = Op.typeVector)
    (h : Settles (vectorSize name type measure inst.operands)) :
    ∃ n steps, defs.Measures type n steps := by
  unfold vectorSize at h
  split at h
  · rename_i component count hoperands
    obtain ⟨n, steps, hcomponent⟩ := ih h.of_bind.1
    exact ⟨_, _, .vector ⟨inst, hfind, hopcode, hoperands⟩ hcomponent⟩
  · exact absurd (h _ rfl) nofun

private theorem exists_measures_struct (hopcode : inst.opcode = Op.typeStruct)
    (h : Settles (defs.structSize name type measure inst.operands)) :
    ∃ n steps, defs.Measures type n steps := by
  unfold structSize at h
  split at h
  · rename_i hlast
    exact ⟨_, _, .emptyStruct ⟨inst, hfind, hopcode, List.getLast?_eq_none_iff.1 hlast⟩⟩
  · rename_i member hlast
    obtain ⟨members, hoperands⟩ := List.getLast?_eq_some_iff.1 hlast
    -- the index of the last member is the number of those before it
    have hindex : inst.operands.length - 1 = members.length := by simp [hoperands]
    have hdef : defs.Defines type Op.typeStruct (members ++ [.id member]) :=
      ⟨inst, hfind, hopcode, hoperands⟩
    simp only [hindex] at h
    split at h
    · rename_i offset hoffset
      obtain ⟨hget, hmember⟩ := h.of_bind
      obtain ⟨last, hfindLast⟩ := hget.exists_find?
      have hsize := hmember last (get_eq_ok_iff.2 hfindLast)
      -- a matrix is measured by the decorations of the member, anything else by its type
      split at hsize
      · rename_i hmatrix
        obtain ⟨stride, vectors, hstride, hvectors⟩ :=
          hsize.of_bind.1.exists_majorVectors hfindLast hmatrix
        exact ⟨_, _, .structOfMatrix hdef hoffset hstride hvectors⟩
      · obtain ⟨n, steps, hmeasures⟩ := ih hsize.of_bind.1
        exact ⟨_, _, .struct hdef hoffset hmeasures⟩
    · exact absurd (h _ rfl) nofun
  · exact absurd (h _ rfl) nofun

end Inversion

/-- What has a size, or would have one if it fitted, has a size by the rules. -/
theorem exists_measures_of_settles (h : Settles (defs.sizeFrom name fuel type)) :
    ∃ n steps, defs.Measures type n steps := by
  -- on the fuel of the walk, which the members of structs and components of vectors take from
  induction fuel generalizing type with
  | zero => cases h _ rfl
  | succ fuel ih =>
    obtain ⟨inst, hfind⟩ := h.of_bind.1.exists_find?
    rw [sizeFrom_succ hfind] at h
    -- each opcode has its rule, and all others have none
    by_cases hnumber : inst.opcode = Op.typeInt ∨ inst.opcode = Op.typeFloat
    · rw [definedSize_number hnumber] at h
      exact exists_measures_number hfind hnumber h
    by_cases hvector : inst.opcode = Op.typeVector
    · rw [definedSize_vector hvector] at h
      exact exists_measures_vector hfind ih hvector h
    by_cases harray : inst.opcode = Op.typeArray
    · rw [definedSize_array harray] at h
      exact exists_measures_array hfind harray h
    by_cases hruntime : inst.opcode = Op.typeRuntimeArray
    · rw [definedSize_runtimeArray hruntime] at h
      exact exists_measures_runtimeArray hfind hruntime h
    by_cases hstruct : inst.opcode = Op.typeStruct
    · rw [definedSize_struct hstruct] at h
      exact exists_measures_struct hfind ih hstruct h
    · rw [definedSize, if_neg hnumber, if_neg hvector, if_neg harray, if_neg hruntime,
        if_neg hstruct] at h
      split at h <;> cases h _ rfl

/-- What the size of a type is computed from has a size too. -/
private theorem Measures.of_measured? {u : Id} (h : defs.Measures type n steps)
    (hnext : defs.measured? type = some u) : ∃ n' steps', defs.Measures u n' steps' ∧
      steps.length = steps'.length + 1 := by
  -- only vectors and structs are computed from another size; in all other cases there is no next
  -- type
  cases h with
  | number hopcode hdef =>
    obtain ⟨inst, hfind, rfl, _⟩ := hdef
    rcases hopcode with hopcode | hopcode <;>
      simp [measured?, hfind, hopcode, Op.typeInt, Op.typeFloat, Op.typeVector, Op.typeStruct] at hnext
  | vector hdef hcomponent =>
    obtain ⟨inst, hfind, hopcode, hoperands⟩ := hdef
    simp [measured?, hfind, hopcode, hoperands] at hnext
    exact ⟨_, _, hnext ▸ hcomponent, rfl⟩
  | array hdef _ _ =>
    obtain ⟨inst, hfind, hopcode, _⟩ := hdef
    simp [measured?, hfind, hopcode, Op.typeArray, Op.typeVector, Op.typeStruct] at hnext
  | runtimeArray hdef _ =>
    obtain ⟨inst, hfind, hopcode, _⟩ := hdef
    simp [measured?, hfind, hopcode, Op.typeRuntimeArray, Op.typeVector, Op.typeStruct] at hnext
  | emptyStruct hdef =>
    obtain ⟨inst, hfind, hopcode, hoperands⟩ := hdef
    simp [measured?, hfind, hopcode, hoperands, Op.typeVector, Op.typeStruct] at hnext
  | structOfMatrix hdef _ _ hvectors =>
    obtain ⟨inst, hfind, hopcode, hoperands⟩ := hdef
    -- a matrix at the end is not gone into
    obtain ⟨_, last, hfindLast, hmatrix, _⟩ := hvectors.exists_defines
    simp [measured?, hfind, hopcode, hoperands, hfindLast, hmatrix, Op.typeVector,
      Op.typeStruct] at hnext
  | struct hdef hoffset hmember =>
    obtain ⟨inst, hfind, hopcode, hoperands⟩ := hdef
    obtain ⟨_, _, ⟨last, hfindLast, rfl, _⟩, hne⟩ := hmember.exists_defines
    simp [measured?, hfind, hopcode, hoperands, hfindLast, hne, Op.typeVector,
      Op.typeStruct, hoffset] at hnext
    exact ⟨_, _, hnext ▸ hmember, rfl⟩

/-- What is measured can be measured in finitely many steps. -/
theorem Measures.not_endless (h : defs.Measures type n steps) :
    ¬ Walk.Endless defs.measured? type := by
  -- each step of the walk takes a product or sum off the list
  induction hlength : steps.length generalizing type n steps with
  | zero =>
    intro hendless
    obtain ⟨u, hnext, _⟩ := Walk.endless_iff_step.1 hendless
    obtain ⟨_, steps', _, hsucc⟩ := h.of_measured? hnext
    omega
  | succ k ih =>
    intro hendless
    obtain ⟨u, hnext, hrest⟩ := Walk.endless_iff_step.1 hendless
    obtain ⟨_, steps', h', hsucc⟩ := h.of_measured? hnext
    exact ih h' (by omega) hrest

/-- A size by the rules is found as far as it fits. -/
theorem blockSize_of_measures (h : defs.Measures type n steps) (name : String) :
    defs.blockSize type name = found n steps := by
  refine (sizeFrom_of_measures h name defs.walkFuel).resolve_left fun hhangs => ?_
  exact h.not_endless ((defs.hangs_blockSize_iff type name).1 hhangs)

/-- A block has a size exactly if the rules give it that one, by products and sums that fit in 64 bits. -/
theorem blockSize_eq_ok_iff : defs.blockSize type name = .ok size ↔
    ∃ steps, defs.Measures type size.toNat steps ∧ ∀ x ∈ steps, x < UInt64.size := by
  constructor
  · intro h
    -- a size was found, so the rules give one
    obtain ⟨n, steps, hmeasures⟩ := exists_measures_of_settles (fun e he => nomatch h.symm.trans he)
    rw [blockSize_of_measures hmeasures, found] at h
    split at h
    · rename_i hsteps
      cases h
      refine ⟨steps, ?_, hsteps⟩
      rwa [UInt64.toNat_ofNat_of_lt' (hmeasures.lt_of_steps_lt hsteps)]
    · exact nomatch h
  · rintro ⟨steps, hmeasures, hsteps⟩
    rw [blockSize_of_measures hmeasures, found, if_pos hsteps, UInt64.ofNat_toNat]

/-- Reflection gives up on a block exactly if the rules give it a size, but not by products and sums that fit in
64 bits. -/
theorem blockSize_eq_overflow_iff : defs.blockSize type name = .error .sizeOverflow ↔
    ∃ n steps, defs.Measures type n steps ∧ ∃ x ∈ steps, UInt64.size ≤ x := by
  constructor
  · intro h
    -- an overflow is a size by the rules that does not fit on the way
    obtain ⟨n, steps, hmeasures⟩ := exists_measures_of_settles
      (fun e he => Except.error.inj (he.symm.trans h))
    rw [blockSize_of_measures hmeasures, found] at h
    split at h
    · exact nomatch h
    · rename_i hsteps
      simp only [not_forall, Nat.not_lt, exists_prop] at hsteps
      exact ⟨n, steps, hmeasures, hsteps⟩
  · rintro ⟨n, steps, hmeasures, x, hx, hle⟩
    rw [blockSize_of_measures hmeasures, found, if_neg]
    exact fun hall => Nat.not_lt.2 hle (hall x hx)

/-! ### How large a size can be -/

/-- All vectors of a module have numbers as components. -/
def VectorsOfNumbers (defs : Definitions) : Prop :=
  ∀ {type component : Id} {count : Word},
    defs.Defines type Op.typeVector [.id component, .word count] →
      ∃ opcode operands, (opcode = Op.typeInt ∨ opcode = Op.typeFloat) ∧
        defs.Defines component opcode operands

/-- The first product or sum is a product of words at most, and each one after it adds a word. -/
theorem Measures.le_of_vectors (h : defs.Measures type n steps) (hvectors : defs.VectorsOfNumbers) :
    n ≤ (2 ^ 32 - 1) * (2 ^ 32 - 1) + (steps.length - 1) * (2 ^ 32 - 1) := by
  induction h with
  | @number _ _ width _ _ _ =>
    have := width.toNat_lt
    omega
  | @vector _ _ count n _ hdef hcomponent _ =>
    -- a vector of numbers is a count times a width
    obtain ⟨_, _, hopcode, hnumber⟩ := hvectors hdef
    obtain rfl := hcomponent.no_steps_of_number hopcode hnumber
    have hn := hcomponent.le_of_no_steps
    have hcount := count.toNat_lt
    have := Nat.mul_le_mul (by omega : count.toNat ≤ 2 ^ 32 - 1) hn
    simpa using this
  | @array _ _ _ count stride _ _ _ =>
    simpa using mul_word_le count stride
  | @runtimeArray _ _ stride _ _ =>
    have := stride.toNat_lt
    omega
  | emptyStruct _ => omega
  | @structOfMatrix _ _ _ offset stride vectors _ _ _ _ =>
    have := mul_word_le stride vectors
    have := offset.toNat_lt
    simp only [List.length_cons, List.length_nil]
    omega
  | @struct _ _ _ offset n steps _ _ hmember ih =>
    have hoffset := offset.toNat_lt
    simp only [List.length_cons]
    -- the first sum of a struct may add two words; any later one adds one word to what is bounded
    -- already
    cases steps with
    | nil =>
      have := hmember.le_of_no_steps
      simp only [List.length_nil]
      omega
    | cons x steps =>
      simp only [List.length_cons] at ih ⊢
      omega

/-- No product or sum on the way is larger than the size. -/
theorem Measures.le_of_mem (h : defs.Measures type n steps) (hvectors : defs.VectorsOfNumbers) :
    ∀ x ∈ steps, x ≤ n := by
  induction h with
  | number _ _ | runtimeArray _ _ | emptyStruct _ => exact nofun
  | vector hdef hcomponent _ =>
    obtain ⟨_, _, hopcode, hnumber⟩ := hvectors hdef
    obtain rfl := hcomponent.no_steps_of_number hopcode hnumber
    simp
  | array _ _ _ => simp
  | structOfMatrix _ _ _ _ => simp
  | struct _ _ _ ih =>
    intro x hx
    -- a struct is at least as large as its last member
    rcases List.mem_cons.1 hx with hx | hx
    · exact Nat.le_of_eq hx
    · exact Nat.le_trans (ih x hx) (Nat.le_add_left ..)

/-- If a product or sum on the way does not fit in 64 bits, then the size does not, and conversely. -/
theorem Measures.exists_le_iff (h : defs.Measures type n steps) (hvectors : defs.VectorsOfNumbers) :
    (∃ x ∈ steps, UInt64.size ≤ x) ↔ UInt64.size ≤ n := by
  constructor
  · rintro ⟨x, hx, hle⟩
    exact Nat.le_trans hle (h.le_of_mem hvectors x hx)
  · intro hle
    by_contra hnone
    have hsteps : ∀ x ∈ steps, x < UInt64.size := fun x hx =>
      Nat.lt_of_not_le fun hx' => hnone ⟨x, hx, hx'⟩
    exact Nat.not_lt.2 hle (h.lt_of_steps_lt hsteps)

/-- Up to three products and sums fit in 64 bits. -/
theorem Measures.steps_lt (h : defs.Measures type n steps) (hvectors : defs.VectorsOfNumbers)
    (hlength : steps.length ≤ 3) : n < UInt64.size ∧ ∀ x ∈ steps, x < UInt64.size := by
  have hn : n < UInt64.size := by
    have := h.le_of_vectors hvectors
    have hsize : UInt64.size = 2 ^ 64 := rfl
    omega
  exact ⟨hn, fun x hx => Nat.lt_of_le_of_lt (h.le_of_mem hvectors x hx) hn⟩

end ShaderKit.Spirv.Definitions
