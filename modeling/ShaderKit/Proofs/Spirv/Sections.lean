import ShaderKit.Proofs.Spirv.Reading

/-!
# Sections of a module

The instructions of a module are put into sections.  None is lost on the way, but for a memory model that
another one follows.

## Key results

- `Assembly.mem_held_add`: adding an instruction to its section
- `Module.mem_instructions_iff`: the sections of a module hold the instructions of its words
-/

namespace ShaderKit.Spirv

/-- The instructions of an open function, without those of its open block. -/
def OpenFunction.held (f : OpenFunction) : List Instruction :=
  f.definition :: f.parameters.toList ++ f.blocks.toList.flatMap fun b => b.label :: b.instructions

/-- The instructions of a block that is still open. -/
def OpenBlock.held (b : OpenBlock) : List Instruction := b.label :: b.instructions.toList

namespace Assembly

/-- All instructions that have been added outside of functions, but for memory models. -/
def declared (a : Assembly) : List Instruction :=
  a.capabilities.toList ++ a.extensions.toList ++ a.imports.toList ++ a.entryPoints.toList
    ++ a.executionModes.toList ++ a.sources.toList ++ a.names.toList ++ a.processed.toList
    ++ a.annotations.toList ++ a.globals.toList

/-- All instructions that have been added, but for memory models. -/
def held (a : Assembly) : List Instruction :=
  a.declared ++ a.functions.toList.flatMap Module.functionInstructions
    ++ a.function.elim [] (·.held) ++ a.block.elim [] (·.held)

variable {a a' : Assembly} {inst x : Instruction}

/-- An instruction that is added outside of functions is added. -/
theorem mem_held_of_declared (hdeclared : x ∈ a'.declared ↔ x ∈ a.declared ∨ x = inst)
    (hfunctions : a'.functions = a.functions) (hfunction : a'.function = a.function)
    (hblock : a'.block = a.block) : x ∈ a'.held ↔ x ∈ a.held ∨ x = inst := by
  simp only [held, hfunctions, hfunction, hblock, List.mem_append, hdeclared]
  grind

theorem mem_held_addGlobal : x ∈ (a.addGlobal inst).held ↔ x ∈ a.held ∨ x = inst := by
  refine mem_held_of_declared ?_ rfl rfl rfl
  simp [declared, addGlobal, or_assoc]

theorem mem_held_addBody (h : a.addBody inst = .ok a') : x ∈ a'.held ↔ x ∈ a.held ∨ x = inst := by
  unfold addBody at h
  split at h
  · exact nomatch h
  · rename_i b hblock
    cases h
    simp [held, declared, hblock, OpenBlock.held, or_assoc]

theorem mem_held_addTerminator (h : a.addTerminator inst = .ok a') :
    x ∈ a'.held ↔ x ∈ a.held ∨ x = inst := by
  unfold addTerminator at h
  split at h
  · rename_i b f hblock hfunction
    cases h
    simp [held, declared, hblock, hfunction, OpenBlock.held, OpenFunction.held, or_assoc]
  · exact nomatch h

theorem mem_held_closeFunction (h : a.closeFunction inst = .ok a') :
    x ∈ a'.held ↔ x ∈ a.held ∨ x = inst := by
  unfold closeFunction at h
  split at h
  · exact nomatch h
  · exact nomatch h
  · rename_i f hfunction hblock
    cases h
    simp [held, declared, hblock, hfunction, OpenFunction.held, Module.functionInstructions, or_assoc]

/-- Adding an instruction keeps it, and those that were added before. -/
theorem mem_held_add (h : a.add inst = .ok a')
    (hplacement : Placement.ofOpcode inst.opcode ≠ .memoryModel) :
    x ∈ a'.held ↔ x ∈ a.held ∨ x = inst := by
  unfold add at h
  -- by the place of the instruction: most sections only grow at the end
  cases hopcode : Placement.ofOpcode inst.opcode with
  | memoryModel => exact absurd hopcode hplacement
  | capability | extension | externalSet | entryPoint | executionMode | source | name | processed
  | decorating =>
    rw [hopcode] at h
    cases h
    refine mem_held_of_declared ?_ rfl rfl rfl
    simp only [declared, Array.toList_push, List.mem_append, List.mem_singleton]
    grind
  | global =>
    rw [hopcode] at h
    cases h
    exact mem_held_addGlobal
  | line | var =>
    rw [hopcode] at h
    dsimp only at h
    split at h
    -- in an open block it goes into the body, elsewhere it is a global
    · exact mem_held_addBody h
    · cases h
      exact mem_held_addGlobal
  | function =>
    rw [hopcode] at h
    dsimp only at h
    split at h
    · exact nomatch h
    · rename_i hnone
      -- no function is open, so none is overwritten
      have hfunction : a.function = none := by simpa using hnone
      cases h
      simp only [held, declared, hfunction, Option.elim_none, Option.elim_some, OpenFunction.held,
        List.mem_append, List.mem_cons]
      grind
  | functionEnd =>
    rw [hopcode] at h
    exact mem_held_closeFunction h
  | parameter =>
    rw [hopcode] at h
    dsimp only at h
    split at h
    · exact nomatch h
    · rename_i f hfunction
      cases h
      simp only [held, declared, hfunction, Option.elim_some, OpenFunction.held, Array.toList_push,
        List.mem_append, List.mem_cons]
      grind
  | label =>
    rw [hopcode] at h
    dsimp only at h
    split at h
    · exact nomatch h
    split at h
    · exact nomatch h
    · rename_i hnone
      -- nor is a block
      have hblock : a.block = none := by simpa using hnone
      cases h
      simp [held, declared, hblock, OpenBlock.held, or_assoc]
  | terminator =>
    rw [hopcode] at h
    exact mem_held_addTerminator h
  | body =>
    rw [hopcode] at h
    exact mem_held_addBody h

theorem held_add_memoryModel (h : a.add inst = .ok a')
    (hplacement : Placement.ofOpcode inst.opcode = .memoryModel) : a'.held = a.held := by
  unfold add at h
  rw [hplacement] at h
  cases h
  rfl

theorem memoryModel_addBody (h : a.addBody inst = .ok a') : a'.memoryModel = a.memoryModel := by
  unfold addBody at h
  split at h <;> cases h
  rfl

theorem memoryModel_addTerminator (h : a.addTerminator inst = .ok a') :
    a'.memoryModel = a.memoryModel := by
  unfold addTerminator at h
  split at h <;> cases h
  rfl

theorem memoryModel_closeFunction (h : a.closeFunction inst = .ok a') :
    a'.memoryModel = a.memoryModel := by
  unfold closeFunction at h
  split at h <;> cases h
  rfl

/-- A memory model that is there was added. -/
theorem memoryModel_add (h : a.add inst = .ok a') (hx : a'.memoryModel = some x) :
    a.memoryModel = some x ∨ x = inst := by
  have hsame (hmodel : a'.memoryModel = a.memoryModel) : a.memoryModel = some x ∨ x = inst :=
    .inl (hmodel ▸ hx)
  unfold add at h
  -- only a memory model sets it, all other instructions leave it
  cases hopcode : Placement.ofOpcode inst.opcode with
  | memoryModel =>
    rw [hopcode] at h
    cases h
    exact .inr (Option.some.inj hx).symm
  | capability | extension | externalSet | entryPoint | executionMode | source | name | processed
  | decorating | global =>
    rw [hopcode] at h
    cases h
    exact .inl hx
  | line | var =>
    rw [hopcode] at h
    dsimp only at h
    split at h
    · exact hsame (memoryModel_addBody h)
    · cases h
      exact .inl hx
  | function | parameter =>
    rw [hopcode] at h
    dsimp only at h
    split at h <;> cases h
    exact .inl hx
  | label =>
    rw [hopcode] at h
    dsimp only at h
    split at h
    · exact nomatch h
    split at h <;> cases h
    exact .inl hx
  | functionEnd =>
    rw [hopcode] at h
    exact hsame (memoryModel_closeFunction h)
  | terminator =>
    rw [hopcode] at h
    exact hsame (memoryModel_addTerminator h)
  | body =>
    rw [hopcode] at h
    exact hsame (memoryModel_addBody h)

/-- What is held of a list of instructions that is added. -/
theorem mem_held_foldlM {l : List Instruction}
    (h : l.foldlM (fun a inst => (a.add inst).mapError ReadFailure.malformed) a = .ok a') :
    x ∈ a'.held ↔ x ∈ a.held ∨ x ∈ l ∧ Placement.ofOpcode x.opcode ≠ .memoryModel := by
  induction l generalizing a with
  | nil =>
    cases h
    simp
  | cons inst l ih =>
    rw [List.foldlM_cons] at h
    obtain ⟨next, hnext, hrest⟩ := Except.bind_eq_ok_iff.1 h
    rw [Except.mapError_eq_ok_iff] at hnext
    rw [ih hrest]
    -- memory models are not held, everything else is
    by_cases hplacement : Placement.ofOpcode inst.opcode = .memoryModel
    · rw [held_add_memoryModel hnext hplacement]
      grind
    · rw [mem_held_add hnext hplacement]
      grind

theorem memoryModel_foldlM {l : List Instruction}
    (h : l.foldlM (fun a inst => (a.add inst).mapError ReadFailure.malformed) a = .ok a')
    (hx : a'.memoryModel = some x) : a.memoryModel = some x ∨ x ∈ l := by
  induction l generalizing a with
  | nil =>
    cases h
    exact .inl hx
  | cons inst l ih =>
    rw [List.foldlM_cons] at h
    obtain ⟨next, hnext, hrest⟩ := Except.bind_eq_ok_iff.1 h
    rw [Except.mapError_eq_ok_iff] at hnext
    -- the model comes from a later instruction, from this one or from before
    rcases ih hrest with hbefore | hl
    · rcases memoryModel_add hnext hbefore with hbefore | rfl
      · exact .inl hbefore
      · exact .inr List.mem_cons_self
    · exact .inr (List.mem_cons_of_mem _ hl)

/-- A finished module has what is held. -/
theorem finish_eq_ok {bound : Word} {m : Module} (h : a.finish bound = .ok m) :
    m.bound = bound ∧ m.memoryModel = a.memoryModel ∧
      ∀ x, x ∈ m.instructions ↔ x ∈ a.held ∨ a.memoryModel = some x := by
  unfold finish at h
  split at h
  · exact nomatch h
  rename_i hblock
  split at h
  · exact nomatch h
  rename_i hfunction
  cases h
  refine ⟨rfl, rfl, fun x => ?_⟩
  -- nothing is open any more, so all that is held is in the sections
  have hblock : a.block = none := by simpa using hblock
  have hfunction : a.function = none := by simpa using hfunction
  simp only [Module.instructions, held, declared, hblock, hfunction, Option.elim_none, List.mem_append,
    List.not_mem_nil, or_false, Option.mem_toList]
  grind

end Assembly

/-- Only one opcode is placed as a memory model. -/
theorem Placement.ofOpcode_eq_memoryModel {opcode : Nat}
    (h : Placement.ofOpcode opcode = .memoryModel) : opcode = Op.memoryModel := by
  unfold ofOpcode at h
  split at h
  · exact nomatch h
  cases hfind : placements.find? (·.2.contains opcode) with
  | none =>
    rw [hfind] at h
    exact nomatch h
  | some entry =>
    rw [hfind] at h
    have hmem := List.mem_of_find?_eq_some hfind
    have hcontains := List.find?_some hfind
    -- the table has one entry for memory models, with one opcode
    have hentry : entry = (.memoryModel, [Op.memoryModel]) := by
      have hall : ∀ e ∈ placements, e.1 = .memoryModel → e = (.memoryModel, [Op.memoryModel]) := by
        decide
      exact hall entry hmem h
    rw [hentry] at hcontains
    simpa using hcontains

/-- The id bound is the fourth word. -/
theorem Module.readHeader_bound {words rest : List Word} {bound : Word}
    (h : readHeader words = .ok (bound, rest)) : words[3]? = some bound := by
  unfold readHeader at h
  split at h
  · split at h
    · cases h
      rfl
    · split at h <;> exact nomatch h
  · exact nomatch h

/-- The sections of a module hold the instructions of its words; of several memory models the last one. -/
theorem Module.mem_instructions_iff {words : List Word} {m : Module} (h : Module.ofWords words = .ok m) :
    ∃ l, Module.instructionsOf words = .ok l ∧ words[3]? = some m.bound ∧
      ∀ x, x ∈ m.instructions ↔
        x ∈ l ∧ (Placement.ofOpcode x.opcode = .memoryModel → m.memoryModel = some x) := by
  obtain ⟨⟨bound, rest⟩, hheader, h⟩ := Except.bind_eq_ok_iff.1 h
  obtain ⟨a, hfold, h⟩ := Except.bind_eq_ok_iff.1 h
  rw [Except.mapError_eq_ok_iff] at h
  obtain ⟨l, hreads, hadd⟩ := foldInstructions_eq_ok_iff.1 hfold
  obtain ⟨hbound, hmodel, hmem⟩ := Assembly.finish_eq_ok h
  refine ⟨l, instructionsOf_eq_ok_iff.2 ⟨bound, rest, hheader, hreads⟩, ?_, fun x => ?_⟩
  · rw [hbound]
    exact readHeader_bound hheader
  -- the memory model is one of the instructions, as there is none at the start
  · have hread (hx : a.memoryModel = some x) : x ∈ l :=
      (Assembly.memoryModel_foldlM hadd hx).resolve_left nofun
    have hempty : x ∉ ({} : Assembly).held := nofun
    rw [hmem, Assembly.mem_held_foldlM hadd, hmodel]
    grind

end ShaderKit.Spirv
