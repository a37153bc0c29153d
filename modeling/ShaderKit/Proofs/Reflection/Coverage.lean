import ShaderKit.Proofs.Reflection.Buffers
import ShaderKit.Proofs.Resource.Extractable
import ShaderKit.Reflection.Backend

/-!
# What a least size covers

The least size of a buffer binding is where the last declared member of its block ends.  Members that end
behind it are not covered.

## Key results

- `Definitions.measures_struct_iff`: the size of a struct is the end of its last member
- `Reflection.minSize_covers`: which members of its block the least size of a binding covers
-/

namespace ShaderKit

open Resource (Inventory Declaration Kind)

namespace Spirv.Definitions

variable (defs : Definitions)

/-- A member of a struct has an offset and a size, and this is where it ends.  A matrix takes its stride times
its number of major vectors. -/
inductive MemberEnds (struct : Id) (member : Nat) : Nat → Prop
  | matrix {members : List Operand} {matrix : Id} {offset stride vectors : Word}
    (hdef : defs.Defines struct Op.typeStruct members) (hmember : members[member]? = some (.id matrix))
    (hoffset : defs.memberLiteral? struct (UInt32.ofNat member) Decoration.offset = some offset)
    (hstride :
      defs.memberLiteral? struct (UInt32.ofNat member) Decoration.matrixStride = some stride)
    (hvectors : defs.MajorVectors struct member matrix vectors) :
    MemberEnds struct member (offset.toNat + stride.toNat * vectors.toNat)
  | sized {members : List Operand} {type : Id} {offset : Word} {n : Nat} {steps : List Nat}
    (hdef : defs.Defines struct Op.typeStruct members) (hmember : members[member]? = some (.id type))
    (hoffset : defs.memberLiteral? struct (UInt32.ofNat member) Decoration.offset = some offset)
    (hsize : defs.Measures type n steps) :
    MemberEnds struct member (offset.toNat + n)

variable {defs} {struct : Id} {members : List Operand} {last : Operand} {n : Nat}

/-- The size of a struct is the end of its last member. -/
theorem measures_struct_iff (hdef : defs.Defines struct Op.typeStruct (members ++ [last])) :
    (∃ steps, defs.Measures struct n steps) ↔ defs.MemberEnds struct members.length n := by
  constructor
  · rintro ⟨steps, h⟩
    -- a struct with a member takes one of two rules, by what its last member is
    cases h with
    | number hopcode hdef' => exact absurd hopcode (hdef.not_number hdef' (by decide))
    | vector hdef' _ | array hdef' _ _ | runtimeArray hdef' _ =>
      exact absurd (hdef.unique hdef').1 (by decide)
    | emptyStruct hdef' => exact absurd (hdef.unique hdef').2 (by simp)
    | structOfMatrix hdef' hoffset hstride hvectors =>
      obtain ⟨rfl, hlast⟩ := List.append_inj' (hdef.unique hdef').2 rfl
      cases hlast
      exact .matrix hdef (by simp) hoffset hstride hvectors
    | struct hdef' hoffset hmember =>
      obtain ⟨rfl, hlast⟩ := List.append_inj' (hdef.unique hdef').2 rfl
      cases hlast
      exact .sized hdef (by simp) hoffset hmember
  · intro h
    cases h with
    | matrix hdef' hmember hoffset hstride hvectors =>
      obtain ⟨_, rfl⟩ := hdef.unique hdef'
      obtain rfl : last = _ := by simpa using hmember
      exact ⟨_, .structOfMatrix hdef hoffset hstride hvectors⟩
    | sized hdef' hmember hoffset hsize =>
      obtain ⟨_, rfl⟩ := hdef.unique hdef'
      obtain rfl : last = _ := by simpa using hmember
      exact ⟨_, .struct hdef hoffset hsize⟩

/-- A member ends at its offset or behind. -/
theorem MemberEnds.exists_offset {member memberEnd : Nat} (h : defs.MemberEnds struct member memberEnd) :
    ∃ offset, defs.memberLiteral? struct (UInt32.ofNat member) Decoration.offset = some offset ∧
      offset.toNat ≤ memberEnd := by
  cases h with
  | matrix _ _ hoffset _ _ => exact ⟨_, hoffset, Nat.le_add_right ..⟩
  | sized _ _ hoffset _ => exact ⟨_, hoffset, Nat.le_add_right ..⟩

/-- What ends is a member. -/
theorem MemberEnds.lt_length {member memberEnd : Nat} (h : defs.MemberEnds struct member memberEnd)
    (hdef : defs.Defines struct Op.typeStruct members) : member < members.length := by
  cases h with
  | matrix hdef' hmember _ _ _ | sized hdef' hmember _ _ =>
    obtain ⟨_, rfl⟩ := hdef.unique hdef'
    exact (List.getElem?_eq_some_iff.1 hmember).1

/-- A member has one end. -/
theorem MemberEnds.unique {member memberEnd memberEnd' : Nat}
    (h : defs.MemberEnds struct member memberEnd) (h' : defs.MemberEnds struct member memberEnd') :
    memberEnd = memberEnd' := by
  -- a matrix has no size of its own, so both ends come from one rule
  cases h with
  | matrix hdef hmember hoffset hstride hvectors =>
    cases h' with
    | matrix hdef' hmember' hoffset' hstride' hvectors' =>
      obtain ⟨_, rfl⟩ := hdef.unique hdef'
      cases hmember.symm.trans hmember'
      cases hoffset.symm.trans hoffset'
      cases hstride.symm.trans hstride'
      rw [hvectors.unique hvectors']
    | sized hdef' hmember' _ hsize' =>
      obtain ⟨_, rfl⟩ := hdef.unique hdef'
      cases hmember.symm.trans hmember'
      exact absurd hvectors.exists_defines hsize'.not_matrix
  | sized hdef hmember hoffset hsize =>
    cases h' with
    | matrix hdef' hmember' _ _ hvectors' =>
      obtain ⟨_, rfl⟩ := hdef.unique hdef'
      cases hmember.symm.trans hmember'
      exact absurd hvectors'.exists_defines hsize.not_matrix
    | sized hdef' hmember' hoffset' hsize' =>
      obtain ⟨_, rfl⟩ := hdef.unique hdef'
      cases hmember.symm.trans hmember'
      cases hoffset.symm.trans hoffset'
      rw [(hsize.unique hsize').1]

variable (defs) in
/-- The members of a struct lie one behind the other, in the order of their declaration. -/
structure Sequential (struct : Id) (count : Nat) : Prop where
  ends : ∀ member < count, ∃ memberEnd, defs.MemberEnds struct member memberEnd
  next : ∀ member memberEnd offset, member + 1 < count → defs.MemberEnds struct member memberEnd →
    defs.memberLiteral? struct (UInt32.ofNat (member + 1)) Decoration.offset = some offset →
    memberEnd ≤ offset.toNat

/-- In such a struct no member ends behind one that is declared after it. -/
theorem Sequential.le {count member later memberEnd laterEnd : Nat} (h : defs.Sequential struct count)
    (hmember : defs.MemberEnds struct member memberEnd)
    (hlater : defs.MemberEnds struct later laterEnd) (hlt : member < later) (hcount : later < count) :
    memberEnd ≤ laterEnd := by
  obtain ⟨offset, hoffset, hle⟩ := hlater.exists_offset
  -- induction on the members in between: the one before `later` ends at its offset or before
  induction later, hlt using Nat.le_induction generalizing laterEnd offset with
  | base => exact (h.next member memberEnd offset hcount hmember hoffset).trans hle
  | succ middle hmiddle ih =>
    obtain ⟨middleEnd, hends⟩ := h.ends middle (by omega)
    obtain ⟨middleOffset, hmiddleOffset, hmiddleLe⟩ := hends.exists_offset
    have hbefore := ih hends (by omega) middleOffset hmiddleOffset hmiddleLe
    exact (hbefore.trans (h.next middle middleEnd offset hcount hends hoffset)).trans hle

end Spirv.Definitions

namespace Resource.Inventory

/-- A buffer binding is that of a buffer of the inventory. -/
theorem exists_buffer_of_extract {r : Inventory} {metadata : EntryPointMetadata} {group binding : Nat}
    {shader : ShaderBinding} (h : r.extract = .ok metadata)
    (hshader : (metadata.group group).find? binding = some shader)
    (hbuffer : shader.kind.isBuffer = true) :
    ∃ d ∈ r.buffers, d.set = some group ∧ d.binding = some binding ∧ d.kind.size = shader.minSize := by
  obtain ⟨_, hdescribes⟩ := extract_eq_ok_iff.1 h
  obtain ⟨⟨cls, d⟩, hd, hset, hbinding, hrequirement⟩ := (hdescribes.slot group binding shader).1 hshader
  obtain ⟨hkind, _, rfl⟩ := Declaration.requirement_eq_ok_iff.1 hrequirement
  refine ⟨d, ?_, hset, hbinding, rfl⟩
  dsimp only at hkind hbuffer
  generalize d.kind = kind at hkind hbuffer
  -- of the five classes two are buffers, and only these make a binding that is one
  cases hkind with
  | uniformBuffer _ _ =>
    have hd : d ∈ r.uniformBuffers := by simpa [classified] using hd
    exact List.mem_append_left _ hd
  | storageBuffer _ _ =>
    have hd : d ∈ r.storageBuffers := by simpa [classified] using hd
    exact List.mem_append_right _ hd
  | image _ _ _ _ => exact nomatch hbuffer
  | sampler => exact nomatch hbuffer
  | storageImage _ _ _ _ nonReadable nonWritable =>
    cases nonReadable <;> cases nonWritable <;> exact nomatch hbuffer

end Resource.Inventory

namespace Reflection

open Spirv

/-- Words that the reflection service reflects make a module whose inventory has the metadata. -/
theorem of_reflect_eq_ok {words : List Word} {metadata : EntryPointMetadata}
    (h : reflect .reflectionService words = .ok metadata) :
    ∃ m r, Module.ofWords words = .ok m ∧ m.inventory = .ok r ∧ r.extract = .ok metadata := by
  unfold reflect at h
  split at h
  · exact nomatch h
  obtain ⟨r, hr, hextract⟩ := Except.bind_eq_ok_iff.1 h
  obtain ⟨m, hm, hinventory⟩ := Module.declaredInventory_eq_ok_iff.1 hr
  exact ⟨m, r, hm, hinventory, Except.mapError_eq_ok_iff.1 hextract⟩

/-- The least size of a binding whose block is a struct is where the last declared member ends.  It covers the
members that do not end behind that one, so all of them where they lie one behind the other. -/
theorem minSize_covers {words : List Word} {metadata : EntryPointMetadata} {group binding : Nat}
    {shader : ShaderBinding} (hreflect : reflect .reflectionService words = .ok metadata)
    (hshader : (metadata.group group).find? binding = some shader)
    (hbuffer : shader.kind.isBuffer = true) :
    ∃ m inst id block storageClass, Module.ofWords words = .ok m ∧ inst ∈ m.globals ∧
      (Definitions.ofModule m).IsBuffer inst id block storageClass ∧
      ((Definitions.ofModule m).literal? id Decoration.descriptorSet).map (·.toNat) = some group ∧
      ((Definitions.ofModule m).literal? id Decoration.binding).map (·.toNat) = some binding ∧
      ∀ members last, (Definitions.ofModule m).Defines block Op.typeStruct (members ++ [last]) →
        ∃ lastEnd, (Definitions.ofModule m).MemberEnds block members.length lastEnd ∧
          shader.minSize.toNat = lastEnd ∧
          (∀ member memberEnd, (Definitions.ofModule m).MemberEnds block member memberEnd →
            (memberEnd ≤ shader.minSize.toNat ↔ memberEnd ≤ lastEnd)) ∧
          ((Definitions.ofModule m).Sequential block (members.length + 1) →
            ∀ member memberEnd, (Definitions.ofModule m).MemberEnds block member memberEnd →
              memberEnd ≤ shader.minSize.toNat) := by
  obtain ⟨m, r, hm, hinventory, hextract⟩ := of_reflect_eq_ok hreflect
  obtain ⟨d, hd, hset, hbinding, hsize⟩ := Inventory.exists_buffer_of_extract hextract hshader hbuffer
  obtain ⟨inst, hinst, id, block, storageClass, size, hdeclares, hblock, rfl⟩ :=
    (Module.mem_buffers_iff hinventory d).1 hd
  refine ⟨m, inst, id, block, storageClass, hm, hinst, hdeclares, hset, hbinding, ?_⟩
  intro members last hdef
  -- the least size is the size of the block, which is the end of its last member
  obtain ⟨steps, hmeasures, _⟩ := Definitions.blockSize_eq_ok_iff.1 hblock
  have hends := (Definitions.measures_struct_iff hdef).1 ⟨steps, hmeasures⟩
  have hmin : shader.minSize.toNat = size.toNat := by
    rw [← hsize]
    rfl
  refine ⟨size.toNat, hends, hmin, fun _ _ _ => by rw [hmin], ?_⟩
  intro hsequential member memberEnd hmember
  rw [hmin]
  have hle : member ≤ members.length := by
    simpa [Nat.lt_succ_iff] using hmember.lt_length hdef
  -- a member before the last one ends where the next one starts, or before
  rcases hle.lt_or_eq with hlt | rfl
  · exact hsequential.le hmember hends hlt (Nat.lt_succ_self _)
  · exact (hmember.unique hends).le

/-! ### A struct of two numbers -/

/-- A compute shader with a storage buffer, whose block is a struct of two words at these offsets.  It also has
an event type, for which the typed representation has no form. -/
def twoNumbers (first second : Word) : List Word :=
  [0x07230203, 0x00010300, 7, 10, 0, 0x00020011, 1, 0x0003000e, 0, 1, 0x0005000f, 5, 3, 0x6e69616d, 0,
   0x00060010, 3, 17, 1, 1, 1, 0x00050048, 6, 0, 35, first, 0x00050048, 6, 1, 35, second,
   0x00030047, 6, 2, 0x00040047, 8, 34, 0, 0x00040047, 8, 33, 0, 0x00020013, 1, 0x00030021, 2, 1,
   0x00040015, 5, 32, 0, 0x0004001e, 6, 5, 5, 0x00040020, 7, 12, 6, 0x0004003b, 7, 8, 12,
   0x00020022, 9, 0x00050036, 1, 3, 0, 2, 0x000200f8, 4, 0x000100fd, 0x00010038]

/-- What the globals of such a module declare. -/
structure HasTwoNumbers (first second : Word) (m : Module) : Prop where
  isVariable : ∃ inst ∈ m.globals, inst.IsVariable 8 7 StorageClass.storageBuffer
  pointer : ∀ inst ∈ m.globals, inst.opcode = Op.var → inst.resultType = some 7
  pointee : (Definitions.ofModule m).pointee 7 = .ok 6
  stripArrays : (Definitions.ofModule m).stripArrays 6 = .ok 6
  block : (Definitions.ofModule m).Defines 6 Op.typeStruct ([.id 5] ++ [.id 5])
  number : (Definitions.ofModule m).Defines 5 Op.typeInt [.word 32, .word 0]
  first : (Definitions.ofModule m).memberLiteral? 6 0 Decoration.offset = some first
  second : (Definitions.ofModule m).memberLiteral? 6 1 Decoration.offset = some second

instance (first second : Word) (m : Module) : Decidable (HasTwoNumbers first second m) :=
  decidable_of_iff (_ ∧ _ ∧ _ ∧ _ ∧ _ ∧ _ ∧ _ ∧ _)
    ⟨fun ⟨h₁, h₂, h₃, h₄, h₅, h₆, h₇, h₈⟩ => ⟨h₁, h₂, h₃, h₄, h₅, h₆, h₇, h₈⟩,
      fun ⟨h₁, h₂, h₃, h₄, h₅, h₆, h₇, h₈⟩ => ⟨h₁, h₂, h₃, h₄, h₅, h₆, h₇, h₈⟩⟩

variable {first second : Word} {m : Module}

theorem HasTwoNumbers.firstEnds (h : HasTwoNumbers first second m) :
    (Definitions.ofModule m).MemberEnds 6 0 (first.toNat + 4) :=
  .sized h.block rfl h.first (.number (.inl rfl) h.number)

theorem HasTwoNumbers.secondEnds (h : HasTwoNumbers first second m) :
    (Definitions.ofModule m).MemberEnds 6 1 (second.toNat + 4) :=
  .sized h.block rfl h.second (.number (.inl rfl) h.number)

theorem HasTwoNumbers.isBuffer (h : HasTwoNumbers first second m) :
    ∃ inst ∈ m.globals, (Definitions.ofModule m).IsBuffer inst 8 6 StorageClass.storageBuffer := by
  obtain ⟨inst, hinst, hvar⟩ := h.isVariable
  exact ⟨inst, hinst, 7, 6, hvar, .inr rfl, h.pointee, h.stripArrays⟩

/-- All buffers have this block. -/
theorem HasTwoNumbers.block_eq (h : HasTwoNumbers first second m) {inst : Instruction} {id block : Id}
    {storageClass : Word} (hinst : inst ∈ m.globals)
    (hbuffer : (Definitions.ofModule m).IsBuffer inst id block storageClass) : block = 6 := by
  obtain ⟨_, _, ⟨hopcode, _, hpointer, _⟩, _, hpointee, hblock⟩ := hbuffer
  cases hpointer.symm.trans (h.pointer inst hinst hopcode)
  cases hpointee.symm.trans h.pointee
  exact Except.ok.inj (hblock.symm.trans h.stripArrays)

/-- Where the second one starts behind the first one, the members lie one behind the other. -/
theorem HasTwoNumbers.sequential (h : HasTwoNumbers first second m)
    (hle : first.toNat + 4 ≤ second.toNat) : (Definitions.ofModule m).Sequential 6 2 where
  ends member hmember := by
    match member, hmember with
    | 0, _ => exact ⟨_, h.firstEnds⟩
    | 1, _ => exact ⟨_, h.secondEnds⟩
  next member memberEnd offset hmember hends hoffset := by
    -- only the first one has a next one
    obtain rfl : member = 0 := by omega
    cases h.second.symm.trans hoffset
    rwa [hends.unique h.firstEnds]

/-- In order, both members are covered. -/
theorem minSize_covers_twoNumbers : ∃ metadata shader m,
    reflect .reflectionService (twoNumbers 0 4) = .ok metadata ∧
    (metadata.group 0).find? 0 = some shader ∧ shader.kind.isBuffer = true ∧
    Module.ofWords (twoNumbers 0 4) = .ok m ∧
    ∀ member memberEnd, (Definitions.ofModule m).MemberEnds 6 member memberEnd →
      memberEnd ≤ shader.minSize.toNat := by
  obtain ⟨metadata, hreflect, hshader⟩ :=
    Except.exists_eq_ok_of_decide (x := reflect .reflectionService (twoNumbers 0 4))
      (P := fun metadata => (metadata.group 0).find? 0 = some { kind := .storageBuffer, minSize := 8 })
      (by decide +kernel)
  obtain ⟨m, hm, hnumbers⟩ := Except.exists_eq_ok_of_decide (x := Module.ofWords (twoNumbers 0 4))
    (P := HasTwoNumbers 0 4) (by decide +kernel)
  -- whatever buffer it is, its block is the struct of two numbers
  obtain ⟨m', inst, id, block, storageClass, hm', hinst, hbuffer, _, _, hcovers⟩ :=
    minSize_covers hreflect hshader rfl
  cases hm.symm.trans hm'
  obtain rfl := hnumbers.block_eq hinst hbuffer
  obtain ⟨lastEnd, _, _, _, hcovered⟩ := hcovers _ _ hnumbers.block
  exact ⟨metadata, _, m, hreflect, hshader, rfl, hm, hcovered (hnumbers.sequential (by decide))⟩

/-- With the first one behind the second one, the least size is that of the second one, and the first one ends
behind it.  The module check accepts the module. -/
theorem twoNumbers_uncovered : (Validation.check (twoNumbers 16 0)).isOk = true ∧
    ∃ metadata shader m inst, reflect .reflectionService (twoNumbers 16 0) = .ok metadata ∧
      (metadata.group 0).find? 0 = some shader ∧ shader.kind.isBuffer = true ∧
      Module.ofWords (twoNumbers 16 0) = .ok m ∧ inst ∈ m.globals ∧
      (Definitions.ofModule m).IsBuffer inst 8 6 StorageClass.storageBuffer ∧
      (Definitions.ofModule m).MemberEnds 6 0 20 ∧ ¬ 20 ≤ shader.minSize.toNat := by
  refine ⟨by decide +kernel, ?_⟩
  obtain ⟨metadata, hreflect, hshader⟩ :=
    Except.exists_eq_ok_of_decide (x := reflect .reflectionService (twoNumbers 16 0))
      (P := fun metadata => (metadata.group 0).find? 0 = some { kind := .storageBuffer, minSize := 4 })
      (by decide +kernel)
  obtain ⟨m, hm, hnumbers⟩ := Except.exists_eq_ok_of_decide (x := Module.ofWords (twoNumbers 16 0))
    (P := HasTwoNumbers 16 0) (by decide +kernel)
  obtain ⟨inst, hinst, hbuffer⟩ := hnumbers.isBuffer
  exact ⟨metadata, _, m, inst, hreflect, hshader, rfl, hm, hinst, hbuffer,
    hnumbers.firstEnds, by decide⟩

end Reflection

end ShaderKit
