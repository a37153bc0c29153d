import ShaderKit.Proofs.Spirv.Sections
import ShaderKit.Proofs.Validation.Stages

/-!
# Ids below the bound

The module check looks at result ids, result types and plain references.  The ids of scopes and of memory
semantics it leaves out, so an accepted module has all its ids below the bound exactly if it has those below.

## Key results

- `bounded_iff`: the sections of a module have their ids below the bound if the instructions of its words do
- `check_bounded`: which ids of an accepted module are below its bound
-/

namespace ShaderKit.Spirv.Instruction

variable {inst : Instruction} {id : Id}

/-- An id is a plain one, or that of a scope or of memory semantics. -/
theorem mem_ids_iff : id ∈ inst.ids ↔
    id ∈ inst.plainIds ∨ .scope id ∈ inst.operands ∨ .semantics id ∈ inst.operands := by
  have hany (operand : Operand) : operand.anyId? = some id ↔
      operand.ref? = some id ∨ operand = .scope id ∨ operand = .semantics id := by
    cases operand <;> simp [Operand.anyId?, Operand.ref?]
  simp only [ids, plainIds, List.mem_append, List.mem_filterMap, hany, and_or_left, exists_or,
    exists_eq_right, or_assoc]

end ShaderKit.Spirv.Instruction

namespace ShaderKit.Validation

open Spirv (Word Module Instruction Operand Placement)

variable {words : List Word}

/-- The sections of a module have their plain ids below the bound exactly if all instructions of its words do. -/
theorem bounded_iff {m : Module} {instructions : List Instruction}
    (hm : Module.ofWords words = .ok m) (hl : Module.instructionsOf words = .ok instructions) :
    (∀ inst ∈ m.instructions, ∀ id ∈ inst.plainIds, id < m.bound) ↔
      ∀ inst ∈ instructions, ∀ id ∈ inst.plainIds, id < m.bound := by
  obtain ⟨l, hl', _, hmem⟩ := Module.mem_instructions_iff hm
  cases hl.symm.trans hl'
  constructor
  · intro h inst hinst id hid
    by_cases hplacement : Placement.ofOpcode inst.opcode = .memoryModel
    · -- a memory model may be lost, but it has no ids
      obtain ⟨_, rest, _, hreads⟩ := Module.instructionsOf_eq_ok_iff.1 hl
      obtain ⟨_, _, _, _, _, _, hread⟩ := hreads.exists_read hinst
      have hids := Spirv.readInstruction_ids_of_memoryModel hread
        (Placement.ofOpcode_eq_memoryModel hplacement)
      have hid : id ∈ inst.ids := Instruction.mem_ids_iff.2 (.inl hid)
      rw [hids] at hid
      exact nomatch hid
    · exact h inst ((hmem inst).2 ⟨hinst, fun hmodel => absurd hmodel hplacement⟩) id hid
  · exact fun h inst hinst => h inst ((hmem inst).1 hinst).1

/-- In an accepted module the result, the result type and the plain references of every instruction are below the
bound that the header gives.  All ids are exactly if those of scopes and of memory semantics are. -/
theorem check_bounded {report : Report} (h : check words = .ok report) :
    ∃ bound instructions, words[3]? = some bound ∧
      Module.instructionsOf words = .ok instructions ∧
      (∀ inst ∈ instructions, ∀ id ∈ inst.plainIds, id < bound) ∧
      ((∀ inst ∈ instructions, ∀ id ∈ inst.ids, id < bound) ↔
        ∀ inst ∈ instructions, ∀ id,
          .scope id ∈ inst.operands ∨ .semantics id ∈ inst.operands → id < bound) := by
  obtain ⟨hsize, hfull, hnoerrors⟩ := check_eq_ok_iff.1 h
  have hacceptable : Acceptable words := acceptable_iff.2 ⟨hsize, report, hfull, hnoerrors⟩
  -- acceptance says it of the instructions in the sections of the module, which are those of the
  -- words
  obtain ⟨m, hm, hwell⟩ := hacceptable.declarations
  obtain ⟨instructions, hl, hbound, _⟩ := Module.mem_instructions_iff hm
  have hplain := (bounded_iff hm hl).1 hwell.bounded
  refine ⟨m.bound, instructions, hbound, hl, hplain, ?_, ?_⟩
  · exact fun hall inst hinst id hid => hall inst hinst id (Instruction.mem_ids_iff.2 (.inr hid))
  · intro hother inst hinst id hid
    -- an id is a plain one, for which this is known, or that of a scope or of semantics
    rcases Instruction.mem_ids_iff.1 hid with hid | hid
    · exact hplain inst hinst id hid
    · exact hother inst hinst id hid

/-- A compute shader with a control barrier, whose memory scope and semantics have these ids. -/
def barrier (scope semantics : Word) : List Word :=
  [0x07230203, 0x00010300, 7, 8, 0, 0x00020011, 1, 0x0003000e, 0, 1, 0x0005000f, 5, 3, 0x6e69616d, 0,
   0x00060010, 3, 17, 1, 1, 1, 0x00020013, 1, 0x00030021, 2, 1, 0x00040015, 5, 32, 0,
   0x0004002b, 5, 6, 2, 0x0004002b, 5, 7, 0x108, 0x00050036, 1, 3, 0, 2, 0x000200f8, 4,
   0x000400e0, 6, scope, semantics, 0x000100fd, 0x00010038]

/-- With constants that the module declares, all ids are below the bound. -/
theorem check_bounded_barrier : check (barrier 6 7) = .ok {} ∧
    ∃ bound instructions, (barrier 6 7)[3]? = some bound ∧
      Module.instructionsOf (barrier 6 7) = .ok instructions ∧
      ∀ inst ∈ instructions, ∀ id ∈ inst.ids, id < bound := by
  obtain ⟨_, hcheck, rfl⟩ := Except.exists_eq_ok_of_decide (x := check (barrier 6 7))
    (P := (· = {})) (by decide +kernel)
  obtain ⟨l, hl, hbarrier⟩ :=
    Except.exists_eq_ok_of_decide (x := Module.instructionsOf (barrier 6 7))
      (P := fun l => ∀ inst ∈ l, inst.ids.all (· < 8) = true) (by decide +kernel)
  obtain ⟨bound, instructions, hbound, hinstructions, _, hall⟩ := check_bounded hcheck
  refine ⟨hcheck, bound, instructions, hbound, hinstructions, hall.2 ?_⟩
  -- the instructions and the bound are those that were computed, so all ids can be looked at
  cases hinstructions.symm.trans hl
  cases hbound
  intro inst hinst id hid
  have hids : id ∈ inst.ids := Instruction.mem_ids_iff.2 (.inr hid)
  simpa using List.all_eq_true.1 (hbarrier inst hinst) id hids

/-- The memory scope may have an id far above the bound, and the module is accepted without a word. -/
theorem barrier_unbounded : check (barrier 99 7) = .ok {} ∧
    ∃ instructions, Module.instructionsOf (barrier 99 7) = .ok instructions ∧
      (barrier 99 7)[3]? = some 8 ∧ ∃ inst ∈ instructions, ∃ id ∈ inst.ids, ¬ id < 8 := by
  obtain ⟨_, hcheck, rfl⟩ := Except.exists_eq_ok_of_decide (x := check (barrier 99 7))
    (P := (· = {})) (by decide +kernel)
  obtain ⟨l, hl, hbarrier⟩ :=
    Except.exists_eq_ok_of_decide (x := Module.instructionsOf (barrier 99 7))
      (P := fun l => ∃ inst ∈ l, inst.ids.any (8 ≤ ·) = true) (by decide +kernel)
  obtain ⟨inst, hinst, hany⟩ := hbarrier
  obtain ⟨id, hid, hle⟩ := List.any_eq_true.1 hany
  exact ⟨hcheck, l, hl, rfl, inst, hinst, id, hid, by simpa using hle⟩

end ShaderKit.Validation
