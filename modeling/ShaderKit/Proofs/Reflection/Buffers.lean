import ShaderKit.Proofs.Reflection.Sizes

/-!
# Buffers of an inventory

The buffers that are collected are the variables of the two buffer classes, each with the size that its
block is found to have.  Where the size of a block does not fit, nothing is collected.

## Key results

- `Module.mem_buffers_iff`: the buffers of an inventory are those that the globals declare
- `Module.declaredInventory_eq_overflow_iff`: for which words collecting ends in a size that does not fit
- `Module.bufferSize_exact`: the size of a buffer is the size of its block by the rules, and when there is none
  because it does not fit
-/

namespace ShaderKit

open Resource (Inventory Declaration)

/-- The buffers of an inventory, of both classes. -/
def Resource.Inventory.buffers (r : Inventory) : List Declaration :=
  r.uniformBuffers ++ r.storageBuffers

namespace Spirv

instance (inst : Instruction) (id pointer : Id) (storageClass : Word) :
    Decidable (inst.IsVariable id pointer storageClass) :=
  inferInstanceAs (Decidable (_ ∧ _ ∧ _ ∧ _))

/-- A variable has one id, pointer type and storage class. -/
theorem Instruction.IsVariable.unique {inst : Instruction} {id id' pointer pointer' : Id}
    {storageClass storageClass' : Word} (h : inst.IsVariable id pointer storageClass)
    (h' : inst.IsVariable id' pointer' storageClass') :
    id = id' ∧ pointer = pointer' ∧ storageClass = storageClass' := by
  obtain ⟨_, hid, hpointer, hclass⟩ := h
  obtain ⟨_, hid', hpointer', hclass'⟩ := h'
  cases hid.symm.trans hid'
  cases hpointer.symm.trans hpointer'
  cases hclass.symm.trans hclass'
  exact ⟨rfl, rfl, rfl⟩

namespace Definitions

variable (defs : Definitions)

/-- A global declares the variable `id` of a buffer class, whose elements are blocks of one type. -/
def IsBuffer (inst : Instruction) (id block : Id) (storageClass : Word) : Prop :=
  ∃ pointer pointee, inst.IsVariable id pointer storageClass ∧
    (storageClass = StorageClass.uniform ∨ storageClass = StorageClass.storageBuffer) ∧
    defs.pointee pointer = .ok pointee ∧ defs.stripArrays pointee = .ok block

/-- What a buffer variable is collected as, if its block has this size.  A uniform buffer is not written. -/
def bufferDeclaration (id block : Id) (storageClass : Word) (size : UInt64) : Declaration :=
  let isStorage := storageClass == StorageClass.storageBuffer
    || defs.hasDecoration block Decoration.bufferBlock
  defs.declaration id (.buffer size (!isStorage || defs.isNonWritable id block))

/-- A global declares this buffer, and the block has this size. -/
def DeclaresBuffer (inst : Instruction) (d : Declaration) : Prop :=
  ∃ id block storageClass size, defs.IsBuffer inst id block storageClass ∧
    defs.blockSize block (defs.name id) = .ok size ∧
    d = defs.bufferDeclaration id block storageClass size

variable {defs} {interface : List Id} {r r' : Inventory} {inst : Instruction} {id pointee : Id}
  {storageClass : Word} {d : Declaration}

theorem addImage_buffers (h : defs.addImage id inst r = .ok r') : r'.buffers = r.buffers := by
  unfold addImage at h
  split at h
  · split at h
    · split at h <;> cases h <;> rfl
    · exact nomatch h
  · exact nomatch h

theorem addHandle_buffers (h : defs.addHandle id pointee r = .ok r') : r'.buffers = r.buffers := by
  obtain ⟨type, _, h⟩ := Except.bind_eq_ok_iff.1 h
  obtain ⟨handle, _, h⟩ := Except.bind_eq_ok_iff.1 h
  split at h
  · cases h
    rfl
  split at h
  · cases h
    rfl
  split at h
  · exact addImage_buffers h
  · cases h
    rfl

theorem addVarying_buffers (h : defs.addVarying interface id pointee storageClass r = .ok r') :
    r'.buffers = r.buffers := by
  unfold addVarying at h
  split at h
  · cases h
    rfl
  obtain ⟨builtin, _, h⟩ := Except.bind_eq_ok_iff.1 h
  split at h
  · cases h
    rfl
  obtain ⟨component, _, h⟩ := Except.bind_eq_ok_iff.1 h
  dsimp only at h
  split at h <;> cases h <;> rfl

theorem addBuffer_buffers (h : defs.addBuffer id pointee storageClass r = .ok r') :
    ∃ block size, defs.stripArrays pointee = .ok block ∧
      defs.blockSize block (defs.name id) = .ok size ∧
      ∀ d, d ∈ r'.buffers ↔ d ∈ r.buffers ∨ d = defs.bufferDeclaration id block storageClass size := by
  obtain ⟨block, hblock, h⟩ := Except.bind_eq_ok_iff.1 h
  obtain ⟨size, hsize, h⟩ := Except.bind_eq_ok_iff.1 h
  refine ⟨block, size, hblock, hsize, fun d => ?_⟩
  -- storage buffers are listed behind uniform ones, so a new uniform one stands in between
  dsimp only at h
  split at h
  · cases h
    simp only [Inventory.buffers, ← List.append_assoc, List.mem_append, List.mem_singleton]
    rfl
  · cases h
    simp only [Inventory.buffers, List.mem_append, List.mem_singleton, or_right_comm]
    rfl

/-- A global instruction adds the buffer that it declares, if it declares one. -/
theorem mem_buffers_addGlobal (h : defs.addGlobal interface r inst = .ok r') :
    d ∈ r'.buffers ↔ d ∈ r.buffers ∨ defs.DeclaresBuffer inst d := by
  unfold addGlobal at h
  -- a global is a variable with a pointer type and a storage class, or it declares nothing
  split at h
  · rename_i id pointer storageClass rest hopcode hresult hpointer hoperands
    have hvar : inst.IsVariable id pointer storageClass :=
      ⟨eq_of_beq hopcode, hresult, hpointer, by simp [hoperands]⟩
    obtain ⟨pointee, hpointee, h⟩ := Except.bind_eq_ok_iff.1 h
    -- what is of neither buffer class leaves the buffers as they are
    have hother (hclass : ¬ (storageClass = StorageClass.uniform ∨
        storageClass = StorageClass.storageBuffer)) (hsame : r'.buffers = r.buffers) :
        d ∈ r'.buffers ↔ d ∈ r.buffers ∨ defs.DeclaresBuffer inst d := by
      rw [hsame, or_iff_left]
      rintro ⟨_, _, _, _, ⟨_, _, hvar', hclass', _⟩, _⟩
      obtain ⟨_, _, rfl⟩ := hvar.unique hvar'
      exact hclass hclass'
    split at h
    · rename_i hvarying
      refine hother ?_ (addVarying_buffers h)
      rcases hvarying with rfl | rfl <;> decide
    split at h
    · rename_i hpush
      cases h
      exact hother (by subst hpush; decide) rfl
    split at h
    · rename_i hclass
      -- the variable has one block, and the block one size, so what is added is what is declared
      obtain ⟨block, size, hblock, hsize, hmem⟩ := addBuffer_buffers h
      rw [hmem]
      refine or_congr_right ⟨?_, ?_⟩
      · rintro rfl
        exact ⟨id, block, storageClass, size, ⟨pointer, pointee, hvar, hclass, hpointee, hblock⟩,
          hsize, rfl⟩
      · rintro ⟨_, _, _, _, ⟨_, _, hvar', _, hpointee', hblock'⟩, hsize', rfl⟩
        obtain ⟨rfl, rfl, rfl⟩ := hvar.unique hvar'
        cases hpointee.symm.trans hpointee'
        cases hblock.symm.trans hblock'
        cases hsize.symm.trans hsize'
        rfl
    · rename_i hclass
      split at h
      · exact hother hclass (addHandle_buffers h)
      · cases h
        exact hother hclass rfl
  · rename_i hnone
    cases h
    rw [or_iff_left]
    rintro ⟨id, _, storageClass, _, ⟨pointer, _, ⟨hopcode, hresult, hpointer, hhead⟩, _⟩, _⟩
    obtain ⟨rest, hoperands⟩ := List.head?_eq_some_iff.1 hhead
    exact hnone id pointer storageClass rest (by simp [hopcode]) hresult hpointer hoperands

/-- A buffer is added as such. -/
theorem addGlobal_of_isBuffer {block : Id} (h : defs.IsBuffer inst id block storageClass) :
    ∃ pointee, defs.stripArrays pointee = .ok block ∧ ∀ interface r,
      defs.addGlobal interface r inst = defs.addBuffer id pointee storageClass r := by
  obtain ⟨pointer, pointee, ⟨hopcode, hresult, hpointer, hhead⟩, hclass, hpointee, hblock⟩ := h
  obtain ⟨rest, hoperands⟩ := List.head?_eq_some_iff.1 hhead
  refine ⟨pointee, hblock, fun interface r => ?_⟩
  -- the classes that are looked at before are no buffer classes
  have hothers : ¬ (storageClass = StorageClass.input ∨ storageClass = StorageClass.output) ∧
      storageClass ≠ StorageClass.pushConstant := by
    rcases hclass with rfl | rfl <;> decide
  unfold addGlobal
  simp only [hopcode, hresult, hpointer, hoperands, hpointee, beq_self_eq_true]
  show (if _ then _ else _) = _
  rw [if_neg hothers.1, if_neg hothers.2, if_pos hclass]

/-- Where a buffer is collected, its block has a size. -/
theorem exists_size_of_addGlobal {block : Id} (h : defs.addGlobal interface r inst = .ok r')
    (hbuffer : defs.IsBuffer inst id block storageClass) :
    ∃ size, defs.blockSize block (defs.name id) = .ok size := by
  obtain ⟨pointee, hblock, hadd⟩ := addGlobal_of_isBuffer hbuffer
  obtain ⟨block', size, hblock', hsize, _⟩ := addBuffer_buffers (hadd interface r ▸ h)
  cases hblock.symm.trans hblock'
  exact ⟨size, hsize⟩

theorem mem_buffers_foldlM {globals : List Instruction}
    (h : globals.foldlM (defs.addGlobal interface) r = .ok r') :
    d ∈ r'.buffers ↔ d ∈ r.buffers ∨ ∃ inst ∈ globals, defs.DeclaresBuffer inst d := by
  induction globals generalizing r with
  | nil =>
    cases h
    simp
  | cons inst rest ih =>
    rw [List.foldlM_cons] at h
    obtain ⟨next, hnext, hrest⟩ := Except.bind_eq_ok_iff.1 h
    -- what the first global adds is there already when the rest is collected
    rw [ih hrest, mem_buffers_addGlobal hnext, or_assoc]
    simp only [List.mem_cons, exists_eq_or_imp]

/-! ### Sizes that do not fit

Only the size of a block ends in an overflow; all else that is asked of a module has an answer, or another
failure. -/

theorem get_ne_overflow (type : Id) : defs.get type ≠ .error .sizeOverflow := by
  unfold get
  cases defs.find? type <;> exact nofun

theorem pointee_ne_overflow (pointer : Id) : defs.pointee pointer ≠ .error .sizeOverflow := by
  unfold pointee
  rw [ne_eq, Except.bind_eq_error_iff]
  rintro (h | ⟨inst, _, h⟩)
  · exact get_ne_overflow pointer h
  · split at h <;> exact nomatch h

theorem stripArrays_ne_overflow (type : Id) : defs.stripArrays type ≠ .error .sizeOverflow := by
  unfold stripArrays
  induction defs.walkFuel generalizing type with
  | zero => rintro ⟨⟩
  | succ fuel ih =>
    rw [stripArraysFrom]
    split
    · exact ih _
    · rintro ⟨⟩

theorem component_ne_overflow (type : Id) : defs.component type ≠ .error .sizeOverflow := by
  unfold component
  induction defs.walkFuel generalizing type with
  | zero => rintro ⟨⟩
  | succ fuel ih =>
    rw [componentFrom, ne_eq, Except.bind_eq_error_iff]
    rintro (h | ⟨inner, _, h⟩)
    · exact stripArrays_ne_overflow type h
    -- only a vector or matrix is looked into any further
    split at h
    · cases h
    split at h
    · split at h
      · exact ih _ h
      · cases h
    · split at h <;> cases h

theorem addVarying_ne_overflow :
    defs.addVarying interface id pointee storageClass r ≠ .error .sizeOverflow := by
  unfold addVarying
  split
  · exact nofun
  rw [ne_eq, Except.bind_eq_error_iff]
  rintro (h | ⟨builtin, _, h⟩)
  · unfold isBuiltin at h
    split at h
    · exact nomatch h
    -- only stripping arrays and looking for the component can fail
    rcases Except.bind_eq_error_iff.1 h with h | ⟨_, _, h⟩
    · exact stripArrays_ne_overflow pointee h
    · exact nomatch h
  split at h
  · exact nomatch h
  rcases Except.bind_eq_error_iff.1 h with h | ⟨component, _, h⟩
  · exact component_ne_overflow pointee h
  · dsimp only at h
    split at h <;> exact nomatch h

theorem addHandle_ne_overflow : defs.addHandle id pointee r ≠ .error .sizeOverflow := by
  unfold addHandle
  rw [ne_eq, Except.bind_eq_error_iff]
  rintro (h | ⟨type, _, h⟩)
  · exact stripArrays_ne_overflow pointee h
  rcases Except.bind_eq_error_iff.1 h with h | ⟨inst, _, h⟩
  · exact get_ne_overflow type h
  split at h
  · exact nomatch h
  split at h
  · exact nomatch h
  split at h
  -- an image fails for its operands or its dimension
  · unfold addImage at h
    split at h
    · split at h
      · split at h <;> exact nomatch h
      · exact nomatch h
    · exact nomatch h
  · exact nomatch h

theorem addBuffer_eq_overflow_iff : defs.addBuffer id pointee storageClass r = .error .sizeOverflow ↔
    ∃ block, defs.stripArrays pointee = .ok block ∧
      defs.blockSize block (defs.name id) = .error .sizeOverflow := by
  unfold addBuffer
  rw [Except.bind_eq_error_iff, or_iff_right (stripArrays_ne_overflow pointee)]
  refine exists_congr fun block => and_congr_right fun _ => ?_
  dsimp only
  -- once the size is there nothing fails any more
  rw [Except.bind_eq_error_iff, or_iff_left]
  rintro ⟨size, _, h⟩
  split at h <;> exact nomatch h

/-- Collecting a global ends in an overflow exactly if it is a buffer whose size does not fit. -/
theorem addGlobal_eq_overflow_iff : defs.addGlobal interface r inst = .error .sizeOverflow ↔
    ∃ id block storageClass, defs.IsBuffer inst id block storageClass ∧
      defs.blockSize block (defs.name id) = .error .sizeOverflow := by
  constructor
  · intro h
    unfold addGlobal at h
    split at h
    · rename_i id pointer storageClass rest hopcode hresult hpointer hoperands
      -- by storage class: varyings, push constants and handles end in no overflow
      rcases Except.bind_eq_error_iff.1 h with h | ⟨pointee, hpointee, h⟩
      · exact absurd h (pointee_ne_overflow pointer)
      split at h
      · exact absurd h addVarying_ne_overflow
      split at h
      · exact nomatch h
      split at h
      · rename_i hclass
        obtain ⟨block, hblock, hsize⟩ := addBuffer_eq_overflow_iff.1 h
        have hvar : inst.IsVariable id pointer storageClass :=
          ⟨eq_of_beq hopcode, hresult, hpointer, by simp [hoperands]⟩
        exact ⟨id, block, storageClass, ⟨pointer, pointee, hvar, hclass, hpointee, hblock⟩, hsize⟩
      split at h
      · exact absurd h addHandle_ne_overflow
      · exact nomatch h
    · exact nomatch h
  · rintro ⟨id, block, storageClass, hbuffer, hsize⟩
    obtain ⟨pointee, hblock, hadd⟩ := addGlobal_of_isBuffer hbuffer
    rw [hadd interface r]
    exact addBuffer_eq_overflow_iff.2 ⟨block, hblock, hsize⟩

end Definitions

namespace Module

/-- The buffers that are collected from a module are those that its globals declare. -/
theorem mem_buffers_iff {m : Module} {r : Inventory} (h : m.inventory = .ok r) (d : Declaration) :
    d ∈ r.buffers ↔ ∃ inst ∈ m.globals, (Definitions.ofModule m).DeclaresBuffer inst d := by
  unfold inventory at h
  split at h
  · split at h
    · rw [Definitions.mem_buffers_foldlM h]
      simp [Inventory.buffers]
    · exact nomatch h
  · exact nomatch h

/-- Where a module has an inventory, all its buffers are in it. -/
theorem exists_size_of_inventory {m : Module} {r : Inventory} {inst : Instruction} {id block : Id}
    {storageClass : Word} (h : m.inventory = .ok r) (hinst : inst ∈ m.globals)
    (hbuffer : (Definitions.ofModule m).IsBuffer inst id block storageClass) : ∃ size,
      (Definitions.ofModule m).blockSize block ((Definitions.ofModule m).name id) = .ok size ∧
      (Definitions.ofModule m).bufferDeclaration id block storageClass size ∈ r.buffers := by
  -- the inventory is there, so every global was collected on the way
  have hsize : ∃ size,
      (Definitions.ofModule m).blockSize block ((Definitions.ofModule m).name id) = .ok size := by
    unfold inventory at h
    split at h
    · split at h
      · obtain ⟨_, _, hadd⟩ := Except.exists_step_of_foldlM h hinst
        exact Definitions.exists_size_of_addGlobal hadd hbuffer
      · exact nomatch h
    · exact nomatch h
  obtain ⟨size, hsize⟩ := hsize
  exact ⟨size, hsize, (mem_buffers_iff h _).2
    ⟨inst, hinst, id, block, storageClass, size, hbuffer, hsize, rfl⟩⟩

theorem declaredInventory_eq_ok_iff {words : List Word} {r : Inventory} :
    declaredInventory words = .ok r ↔ ∃ m, Module.ofWords words = .ok m ∧ m.inventory = .ok r := by
  simp only [declaredInventory, Except.bind_eq_ok_iff, Except.mapError_eq_ok_iff]

/-- Collecting what a module declares comes to a buffer whose block has a size by the rules, but not by products
and sums that fit in 64 bits: all globals before it are collected. -/
def EndsInOverflow (m : Module) : Prop :=
  ∃ entry model interface before inst after r id block storageClass n steps,
    m.entryPoints.head? = some entry ∧ entryInterface entry = some (model, interface) ∧
    m.globals = before ++ inst :: after ∧
    before.foldlM ((Definitions.ofModule m).addGlobal interface)
      { model := executionModel model } = .ok r ∧
    (Definitions.ofModule m).IsBuffer inst id block storageClass ∧
    (Definitions.ofModule m).Measures block n steps ∧ ∃ x ∈ steps, UInt64.size ≤ x

/-- Reflection gives up on a module exactly where it comes to a size that does not fit. -/
theorem inventory_eq_overflow_iff (m : Module) :
    m.inventory = .error .sizeOverflow ↔ m.EndsInOverflow := by
  unfold inventory EndsInOverflow
  cases m.entryPoints.head? with
  | none => exact iff_of_false nofun (by simp)
  | some entry =>
    dsimp only
    cases hentry : entryInterface entry with
    | none => exact iff_of_false nofun (by simp [hentry])
    | some found =>
      obtain ⟨model, interface⟩ := found
      dsimp only
      -- the globals before the failing one were collected, and those after it do not matter
      rw [Except.foldlM_eq_error_iff]
      simp only [Definitions.addGlobal_eq_overflow_iff, Definitions.blockSize_eq_overflow_iff]
      constructor
      · rintro ⟨before, inst, after, r, hglobals, hbefore, id, block, storageClass, hbuffer, n, steps,
          hmeasures, hover⟩
        exact ⟨entry, model, interface, before, inst, after, r, id, block, storageClass, n, steps, rfl,
          hentry, hglobals, hbefore, hbuffer, hmeasures, hover⟩
      · rintro ⟨_, _, _, before, inst, after, r, id, block, storageClass, n, steps, hhead, hfound,
          hglobals, hbefore, hbuffer, hmeasures, hover⟩
        cases hhead
        cases hentry.symm.trans hfound
        exact ⟨before, inst, after, r, hglobals, hbefore, id, block, storageClass, hbuffer, n, steps,
          hmeasures, hover⟩

theorem declaredInventory_eq_overflow_iff {words : List Word} {m : Module}
    (hwords : Module.ofWords words = .ok m) :
    declaredInventory words = .error .sizeOverflow ↔ m.EndsInOverflow := by
  rw [← inventory_eq_overflow_iff, declaredInventory, hwords]
  exact Iff.rfl

/-- The block of a buffer has a size exactly if the rules give it that one by products and sums which all fit in
64 bits, and under this size the buffer is collected.  If the rules give a size and one of them does not fit,
reflection gives up there, and this is the only reason to do so.  There is one size by the rules; where the
components of vectors are numbers it is the largest of its products and sums, and up to three of them fit. -/
theorem bufferSize_exact {words : List Word} {m : Module} {inst : Instruction} {id block : Id}
    {storageClass : Word} (hwords : Module.ofWords words = .ok m) (hinst : inst ∈ m.globals)
    (hbuffer : (Definitions.ofModule m).IsBuffer inst id block storageClass) :
    (∀ size, (Definitions.ofModule m).blockSize block ((Definitions.ofModule m).name id) = .ok size ↔
      ∃ steps, (Definitions.ofModule m).Measures block size.toNat steps ∧ ∀ x ∈ steps, x < UInt64.size) ∧
    ((Definitions.ofModule m).blockSize block ((Definitions.ofModule m).name id) =
        .error .sizeOverflow ↔
      ∃ n steps, (Definitions.ofModule m).Measures block n steps ∧ ∃ x ∈ steps, UInt64.size ≤ x) ∧
    (∀ n steps, (Definitions.ofModule m).Measures block n steps →
      (∀ n' steps', (Definitions.ofModule m).Measures block n' steps' → n' = n ∧ steps' = steps) ∧
      ((Definitions.ofModule m).VectorsOfNumbers →
        ((∃ x ∈ steps, UInt64.size ≤ x) ↔ UInt64.size ≤ n) ∧ (steps.length ≤ 3 → n < UInt64.size))) ∧
    (∀ r, declaredInventory words = .ok r → ∃ size,
      (Definitions.ofModule m).blockSize block ((Definitions.ofModule m).name id) = .ok size ∧
      (Definitions.ofModule m).bufferDeclaration id block storageClass size ∈ r.buffers) ∧
    (declaredInventory words = .error .sizeOverflow ↔ m.EndsInOverflow) := by
  refine ⟨fun _ => Definitions.blockSize_eq_ok_iff, Definitions.blockSize_eq_overflow_iff, ?_, ?_,
    declaredInventory_eq_overflow_iff hwords⟩
  -- the rules are deterministic
  · intro n steps hmeasures
    refine ⟨fun n' steps' hmeasures' => hmeasures'.unique hmeasures, fun hvectors => ⟨?_, ?_⟩⟩
    · exact hmeasures.exists_le_iff hvectors
    · exact fun hlength => (hmeasures.steps_lt hvectors hlength).1
  -- an inventory has all buffers that are declared
  · intro r hr
    obtain ⟨m', hm', hinventory⟩ := declaredInventory_eq_ok_iff.1 hr
    cases hwords.symm.trans hm'
    exact exists_size_of_inventory hinventory hinst hbuffer

/-! ### Three structs around an array -/

/-- A compute shader with a storage buffer, whose block is three structs of one member around an array.  It also
has an event type, for which the typed representation has no form. -/
def nestedBlocks (length stride inner middle outer : Word) : List Word :=
  [0x07230203, 0x00010300, 7, 14, 0, 0x00020011, 1, 0x0003000e, 0, 1, 0x0005000f, 5, 3, 0x6e69616d, 0,
   0x00060010, 3, 17, 1, 1, 1, 0x00040047, 7, 6, stride, 0x00050048, 8, 0, 35, inner,
   0x00050048, 9, 0, 35, middle, 0x00050048, 10, 0, 35, outer, 0x00030047, 10, 2,
   0x00040047, 12, 34, 0, 0x00040047, 12, 33, 0, 0x00020013, 1, 0x00030021, 2, 1,
   0x00040015, 5, 32, 0, 0x0004002b, 5, 6, length, 0x0004001c, 7, 5, 6, 0x0003001e, 8, 7,
   0x0003001e, 9, 8, 0x0003001e, 10, 9, 0x00040020, 11, 12, 10, 0x0004003b, 11, 12, 12,
   0x00020022, 13, 0x00050036, 1, 3, 0, 2, 0x000200f8, 4, 0x000100fd, 0x00010038]

/-- What the globals of such a module declare. -/
structure IsNested (length stride inner middle outer : Word) (m : Module) : Prop where
  isVariable : ∃ inst ∈ m.globals, inst.IsVariable 12 11 StorageClass.storageBuffer
  pointee : (Definitions.ofModule m).pointee 11 = .ok 10
  stripArrays : (Definitions.ofModule m).stripArrays 10 = .ok 10
  outerDef : (Definitions.ofModule m).Defines 10 Op.typeStruct ([] ++ [.id 9])
  outer : (Definitions.ofModule m).memberLiteral? 10 0 Decoration.offset = some outer
  middleDef : (Definitions.ofModule m).Defines 9 Op.typeStruct ([] ++ [.id 8])
  middle : (Definitions.ofModule m).memberLiteral? 9 0 Decoration.offset = some middle
  innerDef : (Definitions.ofModule m).Defines 8 Op.typeStruct ([] ++ [.id 7])
  inner : (Definitions.ofModule m).memberLiteral? 8 0 Decoration.offset = some inner
  array : (Definitions.ofModule m).Defines 7 Op.typeArray [.id 5, .id 6]
  length : (Definitions.ofModule m).lengthOf 6 = .ok length
  stride : (Definitions.ofModule m).literal? 7 Decoration.arrayStride = some stride

instance (length stride inner middle outer : Word) (m : Module) :
    Decidable (IsNested length stride inner middle outer m) :=
  decidable_of_iff (_ ∧ _ ∧ _ ∧ _ ∧ _ ∧ _ ∧ _ ∧ _ ∧ _ ∧ _ ∧ _ ∧ _)
    ⟨fun ⟨h₁, h₂, h₃, h₄, h₅, h₆, h₇, h₈, h₉, h₁₀, h₁₁, h₁₂⟩ =>
        ⟨h₁, h₂, h₃, h₄, h₅, h₆, h₇, h₈, h₉, h₁₀, h₁₁, h₁₂⟩,
      fun ⟨h₁, h₂, h₃, h₄, h₅, h₆, h₇, h₈, h₉, h₁₀, h₁₁, h₁₂⟩ =>
        ⟨h₁, h₂, h₃, h₄, h₅, h₆, h₇, h₈, h₉, h₁₀, h₁₁, h₁₂⟩⟩

variable {length stride inner middle outer : Word} {m : Module}

theorem IsNested.isBuffer (h : IsNested length stride inner middle outer m) :
    ∃ inst ∈ m.globals, (Definitions.ofModule m).IsBuffer inst 12 10 StorageClass.storageBuffer := by
  obtain ⟨inst, hinst, hvar⟩ := h.isVariable
  exact ⟨inst, hinst, 11, 10, hvar, .inr rfl, h.pointee, h.stripArrays⟩

/-- Its block takes a product, and three sums. -/
theorem IsNested.measures (h : IsNested length stride inner middle outer m) :
    let array := length.toNat * stride.toNat
    (Definitions.ofModule m).Measures 10 (outer.toNat + (middle.toNat + (inner.toNat + array)))
      [outer.toNat + (middle.toNat + (inner.toNat + array)), middle.toNat + (inner.toNat + array),
        inner.toNat + array, array] :=
  .struct h.outerDef h.outer <| .struct h.middleDef h.middle <| .struct h.innerDef h.inner <|
    .array h.array h.length h.stride

/-- An array of three words behind 16 bytes: 28 bytes, which is what is found. -/
theorem bufferSize_nested : ∃ m inst size, Module.ofWords (nestedBlocks 3 4 16 0 0) = .ok m ∧
    inst ∈ m.globals ∧ (Definitions.ofModule m).IsBuffer inst 12 10 StorageClass.storageBuffer ∧
    (Definitions.ofModule m).blockSize 10 ((Definitions.ofModule m).name 12) = .ok size ∧
    size.toNat = 28 := by
  obtain ⟨m, hm, hnested⟩ :=
    Except.exists_eq_ok_of_decide (x := Module.ofWords (nestedBlocks 3 4 16 0 0))
      (P := IsNested 3 4 16 0 0) (by decide +kernel)
  obtain ⟨inst, hinst, hbuffer⟩ := hnested.isBuffer
  obtain ⟨hfound, _⟩ := bufferSize_exact hm hinst hbuffer
  exact ⟨m, inst, 28, hm, hinst, hbuffer, (hfound 28).2 ⟨_, hnested.measures, by decide⟩, rfl⟩

/-- With literals that are as large as words can be, and one more byte, the size is `2 ^ 64`, which is reached by
the last sum.  The module check accepts the module, and reflection gives up on it. -/
theorem nestedBlocks_overflow :
    let words := nestedBlocks 0xFFFFFFFF 0xFFFFFFFF 1 0xFFFFFFFF 0xFFFFFFFF
    (Validation.check words).isOk = true ∧ ∃ m inst steps, Module.ofWords words = .ok m ∧
      inst ∈ m.globals ∧ (Definitions.ofModule m).IsBuffer inst 12 10 StorageClass.storageBuffer ∧
      (Definitions.ofModule m).Measures 10 UInt64.size steps ∧
      (Definitions.ofModule m).blockSize 10 ((Definitions.ofModule m).name 12) =
        .error .sizeOverflow ∧
      Reflection.reflect .reflectionService words = .error .sizeOverflow := by
  intro words
  refine ⟨by decide +kernel, ?_⟩
  obtain ⟨m, hm, hnested⟩ := Except.exists_eq_ok_of_decide (x := Module.ofWords words)
    (P := IsNested 0xFFFFFFFF 0xFFFFFFFF 1 0xFFFFFFFF 0xFFFFFFFF) (by decide +kernel)
  obtain ⟨inst, hinst, hbuffer⟩ := hnested.isBuffer
  refine ⟨m, inst, _, hm, hinst, hbuffer, hnested.measures, ?_, by decide +kernel⟩
  exact Definitions.blockSize_eq_overflow_iff.2
    ⟨_, _, hnested.measures, UInt64.size, List.mem_cons_self .., Nat.le_refl _⟩

end Module

end Spirv

end ShaderKit
