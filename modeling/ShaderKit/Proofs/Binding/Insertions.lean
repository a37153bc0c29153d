import Mathlib.Data.List.Induction
import ShaderKit.Binding.Layout
import ShaderKit.EntryPoint.Metadata
import ShaderKit.Proofs.Binding.Mask

/-!
# Histories of insertions

After any insertions, in any order and also of indices over the limit, a mask is the set of the indices below
the limit that were inserted.  Insertion answers whether the index is below the limit, and no shift on the way
is by the width of the word or by more.  Attribute masks and group masks are two kinds of the same thing: what
follows is shown of every kind whose masks do what the checked masks with their words do.

## Key results

- `MaskKind.Lawful.checked_after`: a history of insertions has a result where shifts are checked
- `MaskKind.Lawful.getLsbD_after`: the bits of the word after a history of insertions
- `PipelineLayout.mem_toList_mask`, `EntryPointMetadata.mem_toList_usedGroups`: which groups are listed
- `MaskKind.after_boundedSet`: attribute masks and group masks are bounded sets
-/

namespace ShaderKit

/-- The operations of one kind of mask, and the words of its masks. -/
structure MaskKind (μ : Type) (limit width : Nat) where
  empty : μ
  insert? : μ → Nat → Option μ
  contains : μ → Nat → Bool
  toList : μ → List Nat
  checked : μ → CheckedMask limit width

namespace MaskKind

/-- Masks of vertex attribute locations, in words of 32 bits. -/
def attributes : MaskKind AttributeMask Limits.vertexAttributes 32 where
  empty := AttributeMask.empty
  insert? := AttributeMask.insert?
  contains := AttributeMask.contains
  toList := AttributeMask.toList
  checked := AttributeMask.checked

/-- Masks of bind groups, in words of 8 bits. -/
def groups : MaskKind GroupMask Limits.bindGroups 8 where
  empty := GroupMask.empty
  insert? := GroupMask.insert?
  contains := GroupMask.contains
  toList := GroupMask.toList
  checked := GroupMask.checked

variable {μ : Type} {limit width : Nat} (kind : MaskKind μ limit width)

/-- The answer to an insertion, and the mask that it leaves. -/
def insert (mask : μ) (index : Nat) : Bool × μ :=
  ((kind.insert? mask index).isSome, (kind.insert? mask index).getD mask)

/-- The mask that the insertions of `calls`, one after the other, leave of the empty one. -/
def after (calls : List Nat) : μ :=
  calls.foldl (fun mask index => (kind.insert mask index).2) kind.empty

/-- The mask after the insertions of `calls` is the set of those below the limit.  Every insertion of a history
is the next one after those before it, so the answers are those to a next insertion. -/
structure BoundedSet (calls : List Nat) : Prop where
  answer : ∀ index, (kind.insert (kind.after calls) index).1 = decide (index < limit)
  unchanged : ∀ index, limit ≤ index → (kind.insert (kind.after calls) index).2 = kind.after calls
  contains_iff : ∀ index, kind.contains (kind.after calls) index = true ↔ index < limit ∧ index ∈ calls
  mem_toList_iff : ∀ index, index ∈ kind.toList (kind.after calls) ↔ index < limit ∧ index ∈ calls
  ascending : (kind.toList (kind.after calls)).Pairwise (· < ·)
  /-- The history has a result also where shifts are checked, and so does what the mask is asked after it: no
  shift is by the width or more. -/
  checked_after : CheckedMask.empty.insertAll calls = some (kind.checked (kind.after calls))
  checked_contains : ∀ index,
    (kind.checked (kind.after calls)).contains index = some (kind.contains (kind.after calls) index)
  checked_toList : (kind.checked (kind.after calls)).toList = some (kind.toList (kind.after calls))

/-- Masks do what checked masks with their words do. -/
structure Lawful : Prop where
  limit_le : limit ≤ width
  checked_empty : kind.checked kind.empty = CheckedMask.empty
  checked_insert : ∀ mask index, (kind.checked mask).insert index =
    some ((kind.insert mask index).1, kind.checked (kind.insert mask index).2)
  checked_contains : ∀ mask index, (kind.checked mask).contains index = some (kind.contains mask index)
  toList_eq : ∀ mask, kind.toList mask = (List.range limit).filter (kind.contains mask)

theorem attributes_lawful : attributes.Lawful where
  limit_le := by decide
  checked_empty := rfl
  checked_insert := AttributeMask.checked_insert
  checked_contains := AttributeMask.checked_contains
  toList_eq _ := rfl

theorem groups_lawful : groups.Lawful where
  limit_le := by decide
  checked_empty := rfl
  checked_insert := GroupMask.checked_insert
  checked_contains := GroupMask.checked_contains
  toList_eq _ := rfl

theorem after_concat (calls : List Nat) (index : Nat) :
    kind.after (calls ++ [index]) = (kind.insert (kind.after calls) index).2 :=
  List.foldl_concat ..

namespace Lawful

variable {kind} (h : kind.Lawful)
include h

/-- Insertion answers whether the index is below the limit. -/
theorem insert_fst (mask : μ) (index : Nat) : (kind.insert mask index).1 = decide (index < limit) :=
  CheckedMask.insert_answer _ h.limit_le (h.checked_insert mask index)

/-- What is refused leaves the mask. -/
theorem insert_snd_of_le (mask : μ) {index : Nat} (hindex : limit ≤ index) :
    (kind.insert mask index).2 = mask := by
  have hanswer : (kind.insert? mask index).isSome = false :=
    (h.insert_fst mask index).trans (decide_eq_false (Nat.not_lt.2 hindex))
  have hnone : kind.insert? mask index = none :=
    Option.isNone_iff_eq_none.1 (Option.isSome_eq_false_iff.1 hanswer)
  rw [insert, hnone]
  rfl

/-- A history of insertions has a result where shifts are checked. -/
theorem checked_after (calls : List Nat) :
    CheckedMask.empty.insertAll calls = some (kind.checked (kind.after calls)) := by
  induction calls using List.reverseRecOn with
  | nil => exact congrArg some h.checked_empty.symm
  | append_singleton calls index ih =>
    rw [CheckedMask.insertAll_concat, ih, after_concat, Option.bind_some, h.checked_insert, Option.map_some]

/-- The bits of the word are the indices below the limit that were inserted. -/
theorem getLsbD_after (calls : List Nat) (index : Nat) :
    (kind.checked (kind.after calls)).word.getLsbD index = true ↔ index < limit ∧ index ∈ calls := by
  -- an index over the limit has no bit either, so the word is known and not only its members
  induction calls using List.reverseRecOn with
  | nil =>
    rw [after, List.foldl_nil, h.checked_empty]
    simp [CheckedMask.empty]
  | append_singleton calls last ih =>
    rw [after_concat, CheckedMask.getLsbD_insert _ h.limit_le (h.checked_insert (kind.after calls) last), ih,
      List.mem_append, List.mem_singleton]
    constructor
    · rintro (⟨rfl, hlt⟩ | ⟨hlt, hmem⟩)
      · exact ⟨hlt, .inr rfl⟩
      · exact ⟨hlt, .inl hmem⟩
    · rintro ⟨hlt, hmem | rfl⟩
      · exact .inr ⟨hlt, hmem⟩
      · exact .inl ⟨rfl, hlt⟩

theorem contains_after (calls : List Nat) (index : Nat) :
    kind.contains (kind.after calls) index = true ↔ index < limit ∧ index ∈ calls := by
  have hcontains := (h.checked_contains (kind.after calls) index).symm.trans
    (CheckedMask.contains_eq _ h.limit_le index)
  rw [Option.some.inj hcontains, Bool.and_eq_true, decide_eq_true_eq, h.getLsbD_after]
  exact and_iff_right_of_imp And.left

theorem mem_toList_after (calls : List Nat) (index : Nat) :
    index ∈ kind.toList (kind.after calls) ↔ index < limit ∧ index ∈ calls := by
  rw [h.toList_eq, List.mem_filter, List.mem_range, h.contains_after]
  exact and_iff_right_of_imp And.left

theorem boundedSet (calls : List Nat) : kind.BoundedSet calls where
  answer := h.insert_fst _
  unchanged _ := h.insert_snd_of_le _
  contains_iff := h.contains_after calls
  mem_toList_iff := h.mem_toList_after calls
  ascending := by
    rw [h.toList_eq]
    exact List.pairwise_lt_range.filter _
  checked_after := h.checked_after calls
  checked_contains := h.checked_contains _
  checked_toList := by
    rw [CheckedMask.toList_eq _ (h.checked_contains _), h.toList_eq]

end Lawful

end MaskKind

/-! ### Masks of the groups with a property -/

theorem GroupMask.mem_toList_ofPred (p : Nat → Bool) (group : Nat) :
    group ∈ (ofPred p).toList ↔ group < Limits.bindGroups ∧ p group = true := by
  have hafter := MaskKind.groups_lawful.mem_toList_after ((List.range Limits.bindGroups).filter p) group
  rw [List.mem_filter, List.mem_range] at hafter
  -- a mask of this kind is made by inserting the groups with the property, all of them below the limit
  exact hafter.trans (and_iff_right_of_imp And.left)

/-- The mask of a pipeline layout lists the groups that are present. -/
theorem PipelineLayout.mem_toList_mask (layout : PipelineLayout) (group : Nat) :
    group ∈ layout.mask.toList ↔ ∃ groupLayout, layout.group? group = some groupLayout := by
  rw [mask, GroupMask.mem_toList_ofPred, Option.isSome_iff_exists]
  refine and_iff_right_of_imp fun ⟨groupLayout, hgroup⟩ => Nat.not_le.1 fun hle => ?_
  rw [group?, Vector.getElem?_eq_none hle] at hgroup
  exact nomatch hgroup

/-- The used groups are those in which a binding is declared. -/
theorem EntryPointMetadata.mem_toList_usedGroups (m : EntryPointMetadata) (group : Nat) :
    group ∈ m.usedGroups.toList ↔ (m.group group).isEmpty = false := by
  rw [usedGroups, GroupMask.mem_toList_ofPred, Bool.not_eq_true']
  refine and_iff_right_of_imp fun hgroup => Nat.not_le.1 fun hle => ?_
  rw [EntryPointMetadata.group, Vector.getElem?_eq_none hle] at hgroup
  exact nomatch hgroup

/-! ### Both kinds of masks -/

/-- An attribute mask is empty exactly if no location below the limit was inserted. -/
theorem AttributeMask.isEmpty_after (calls : List Nat) :
    (MaskKind.attributes.after calls).isEmpty = true ↔
      ∀ location ∈ calls, Limits.vertexAttributes ≤ location := by
  have hbits := MaskKind.attributes_lawful.getLsbD_after calls
  rw [isEmpty, beq_iff_eq, ← UInt32.toBitVec_inj]
  constructor
  · intro hzero location hmem
    -- the bit of a location below the limit would be set
    refine Nat.not_lt.1 fun hlt => ?_
    have hbit : (MaskKind.attributes.after calls).bits.toBitVec.getLsbD location = true :=
      (hbits location).2 ⟨hlt, hmem⟩
    rw [hzero] at hbit
    simp at hbit
  · intro hover
    -- each bit that is set stands for such a location, so none is
    refine BitVec.eq_of_getLsbD_eq fun i _ => ?_
    rw [UInt32.toBitVec_zero, BitVec.getLsbD_zero]
    refine Bool.eq_false_iff.2 fun hbit => ?_
    obtain ⟨hlt, hmem⟩ := (hbits i).1 hbit
    exact Nat.not_lt.2 (hover i hmem) hlt

/-- Attribute masks and group masks are bounded sets. -/
theorem MaskKind.after_boundedSet (calls : List Nat) :
    attributes.BoundedSet calls ∧ groups.BoundedSet calls ∧
      ((attributes.after calls).isEmpty = true ↔
        ∀ location ∈ calls, Limits.vertexAttributes ≤ location) :=
  ⟨attributes_lawful.boundedSet calls, groups_lawful.boundedSet calls, AttributeMask.isEmpty_after calls⟩

example : (MaskKind.attributes.after [15, 2, 16, 0, 2, 4294967295]).toList = [0, 2, 15] := by decide

end ShaderKit
