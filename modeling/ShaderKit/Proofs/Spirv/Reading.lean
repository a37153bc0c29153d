import ShaderKit.Spirv.Module
import ShaderKit.Proofs.Std.Except

/-!
# Reading instructions

What every instruction that is read has in common, and the instructions that words are read as.

## Key results

- `Reader.slots_gives`: what each slot keeps, reading an instruction keeps
- `readInstruction_opcode`: an instruction has the opcode of its first word
- `foldInstructions_eq_ok_iff`: what a consumer makes of words is what it makes of their instructions
-/

namespace ShaderKit.Spirv

namespace Reader

/-! ### Results of a reader -/

/-- Every result of a reader has a property. -/
def Gives {α : Type} (r : Reader α) (P : α → Prop) : Prop :=
  ∀ c a c', r.run c = .ok (a, c') → P a

variable {α β : Type} {P : α → Prop} {Q : β → Prop}

theorem Gives.pure {a : α} (h : P a) : (pure a : Reader α).Gives P := by
  intro c b c' hrun
  cases hrun
  exact h

theorem Gives.throw {e : ReadFailure} : (throw e : Reader α).Gives P :=
  fun _ _ _ hrun => nomatch hrun

theorem Gives.any {r : Reader α} : r.Gives fun _ => True := fun _ _ _ _ => trivial

theorem Gives.bind {r : Reader α} {f : α → Reader β} (hr : r.Gives P)
    (hf : ∀ a, P a → (f a).Gives Q) : (r >>= f).Gives Q := by
  intro c b c' hrun
  rw [StateT.run_bind, Except.bind_eq_ok_iff] at hrun
  obtain ⟨⟨a, c₁⟩, hfirst, hrun⟩ := hrun
  exact hf a (hr c a c₁ hfirst) c₁ b c' hrun

/-! ### Slots -/

variable {types : NumericTypes} {index : Nat} {I : Instruction → Prop}

/-- What one turn keeps, a repeated slot keeps. -/
theorem repeatSlot_gives {kind : OperandKind}
    (hslot : ∀ inst, I inst → (slot types index inst kind).Gives I) (fuel : Nat)
    {inst : Instruction} (h : I inst) : (repeatSlot types index kind fuel inst).Gives I := by
  induction fuel generalizing inst with
  | zero => exact .pure h
  | succ fuel ih =>
    refine .bind .any fun done _ => ?_
    split
    · exact .pure h
    · exact .bind (hslot inst h) fun inst' h' => ih h'

/-- What each slot keeps, reading an instruction keeps. -/
theorem slots_gives {l : List OperandSlot}
    (hslot : ∀ s ∈ l, ∀ inst, I inst → (slot types index inst s.kind).Gives I)
    {inst : Instruction} (h : I inst) : (slots types index l inst).Gives I := by
  induction l generalizing inst with
  | nil => exact .pure h
  | cons s rest ih =>
    have hrest : ∀ inst, I inst → (slots types index rest inst).Gives I :=
      fun inst h => ih (fun s' hs' => hslot s' (List.mem_cons_of_mem _ hs')) h
    have hs := hslot s List.mem_cons_self
    have honce : (slot types index inst s.kind >>= slots types index rest).Gives I :=
      .bind (hs inst h) hrest
    have hrepeated : (get >>= fun c : Cursor =>
        repeatSlot types index s.kind c.limit inst >>= slots types index rest).Gives I :=
      .bind .any fun c _ => .bind (repeatSlot_gives hs c.limit h) hrest
    -- at the end of the instruction an operand may be missing; before it, one is read, or as many
    -- as there are
    unfold slots
    refine .bind .any fun done _ => ?_
    cases s.quantifier <;> cases done
    case once.false => exact honce
    case once.true =>
      have hthrow (e : ReadFailure) : (throw e : Reader Unit).Gives fun _ => False := .throw
      exact .bind .any fun _ _ => .bind (hthrow _) fun _ hfalse => hfalse.elim
    case optional.false => exact honce
    case optional.true => exact .pure h
    case repeated.false => exact hrepeated
    case repeated.true => exact .pure h

/-- Reading a slot keeps the opcode. -/
theorem slot_opcode {opcode : Nat} (kind : OperandKind) {inst : Instruction} (h : inst.opcode = opcode) :
    (slot types index inst kind).Gives (·.opcode = opcode) := by
  unfold slot
  split
  · exact .bind .any fun _ _ => .pure h
  · exact .bind .any fun _ _ => .pure h
  · exact .bind .any fun _ _ => .pure h
  · exact .bind .any fun _ _ => .pure h
  · exact .bind .any fun _ _ => .bind .any fun _ _ => .pure h
  · exact .bind .any fun _ _ => .pure h

/-- A value of an enumeration whose values have no parameters is no id. -/
theorem slot_value_ids {e : Enumeration} (he : ∀ v, e.parameters v = []) {ids : List Id}
    {inst : Instruction} (h : inst.ids = ids) :
    (slot types index inst (.value e)).Gives (·.ids = ids) := by
  -- the only operand is the value itself, since no parameters follow
  have hoperands : (operands (.value e)).Gives fun l => ∃ v, l = [.value e v] := by
    refine .bind .any fun v _ => ?_
    rw [he]
    exact .bind (P := (· = [])) (.pure rfl) fun l hl => .pure ⟨v, by rw [hl]⟩
  refine .bind hoperands ?_
  rintro _ ⟨v, rfl⟩
  refine .pure ?_
  simpa [Instruction.ids, Operand.anyId?] using h

end Reader

/-! ### Instructions -/

variable {types : NumericTypes} {index position : Nat} {first : Word} {rest : List Word}
  {inst : Instruction} {c : Cursor}

/-- What the slots of its form keep holds of an instruction. -/
theorem readInstruction_gives {I : Instruction → Prop}
    (h : readInstruction types index position first rest = .ok (inst, c))
    (hslot : ∀ form, Grammar.form? (first &&& 0xffff).toNat = some form → ∀ s ∈ form.slots,
      ∀ inst, I inst → (Reader.slot types index inst s.kind).Gives I)
    (hfirst : I { opcode := (first &&& 0xffff).toNat }) : I inst := by
  unfold readInstruction at h
  dsimp only at h
  split at h
  · exact nomatch h
  split at h
  · exact nomatch h
  rename_i form hform
  obtain ⟨⟨inst', c'⟩, hrun, h⟩ := Except.bind_eq_ok_iff.1 h
  dsimp only at h
  -- the slots are read, and nothing may be left over
  split at h
  · cases h
    exact Reader.slots_gives (hslot form hform) hfirst _ _ _ hrun
  · exact nomatch h

/-- An instruction has the opcode of its first word. -/
theorem readInstruction_opcode (h : readInstruction types index position first rest = .ok (inst, c)) :
    inst.opcode = (first &&& 0xffff).toNat :=
  readInstruction_gives (I := (·.opcode = (first &&& 0xffff).toNat)) h
    (fun _ _ s _ _ hopcode => Reader.slot_opcode s.kind hopcode) rfl

/-- A memory model names no id. -/
theorem readInstruction_ids_of_memoryModel
    (h : readInstruction types index position first rest = .ok (inst, c))
    (hopcode : inst.opcode = Op.memoryModel) : inst.ids = [] := by
  refine readInstruction_gives (I := (·.ids = [])) h (fun form hform => ?_) rfl
  rw [← readInstruction_opcode h, hopcode] at hform
  obtain rfl : form = ⟨14, "MemoryModel", [Grammar.Slot.one .addressingModel,
    Grammar.Slot.one .memoryModel]⟩ := (Option.some.inj hform).symm
  intro s hs inst hids
  obtain rfl | rfl : s = Grammar.Slot.one .addressingModel ∨ s = Grammar.Slot.one .memoryModel := by
    simpa using hs
  · exact Reader.slot_value_ids (fun _ => rfl) hids
  · exact Reader.slot_value_ids (fun _ => rfl) hids

/-! ### The instructions of words -/

/-- The words are read as these instructions. -/
inductive Reads : Nat → NumericTypes → Nat → Nat → List Word → List Instruction → Prop
  | done {fuel : Nat} {types : NumericTypes} {index position : Nat} :
    Reads fuel types index position [] []
  | spent {types : NumericTypes} {index position : Nat} {first : Word} {rest : List Word} :
    Reads 0 types index position (first :: rest) []
  | next {fuel : Nat} {types : NumericTypes} {index position : Nat} {first : Word} {rest : List Word}
    {inst : Instruction} {c : Cursor} {l : List Instruction}
    (hread : readInstruction types index position first rest = .ok (inst, c))
    (hrest : Reads fuel (types.track inst) (index + 1) c.position c.rest l) :
    Reads (fuel + 1) types index position (first :: rest) (inst :: l)

/-- What a consumer makes of words is what it makes of the instructions that they are read as. -/
theorem foldInstructions_eq_ok_iff {σ : Type} {step : σ → Instruction → Except ReadFailure σ}
    {fuel : Nat} {types : NumericTypes} {index position : Nat} {words : List Word} {s s' : σ} :
    foldInstructions step fuel types index position words s = .ok s' ↔
      ∃ l, Reads fuel types index position words l ∧ l.foldlM step s = .ok s' := by
  -- without fuel, or without words, nothing is read and the consumer stays where it is
  induction fuel generalizing types index position words s with
  | zero =>
    cases words with
    | nil =>
      constructor
      · exact fun h => ⟨[], .done, h⟩
      · rintro ⟨_, ⟨⟩, h⟩
        exact h
    | cons first rest =>
      constructor
      · exact fun h => ⟨[], .spent, h⟩
      · rintro ⟨_, ⟨⟩, h⟩
        exact h
  | succ fuel ih =>
    cases words with
    | nil =>
      constructor
      · exact fun h => ⟨[], .done, h⟩
      · rintro ⟨_, ⟨⟩, h⟩
        exact h
    | cons first rest =>
      rw [foldInstructions]
      constructor
      · intro h
        split at h
        · exact nomatch h
        rename_i inst c hread
        split at h
        · exact nomatch h
        rename_i next hnext
        -- the instruction is read and consumed, and the rest is read after it
        obtain ⟨l, hrest, hfold⟩ := ih.1 h
        refine ⟨inst :: l, .next hread hrest, ?_⟩
        rw [List.foldlM_cons, hnext]
        exact hfold
      · rintro ⟨_, hreads, hfold⟩
        cases hreads with
        | @next _ _ _ _ _ _ inst c l hread hrest =>
          rw [List.foldlM_cons, Except.bind_eq_ok_iff] at hfold
          obtain ⟨next, hnext, hfold⟩ := hfold
          simp only [hread, hnext]
          exact ih.2 ⟨l, hrest, hfold⟩

/-- Each of the instructions is read at its place. -/
theorem Reads.exists_read {fuel : Nat} {types : NumericTypes} {index position : Nat} {words : List Word}
    {l : List Instruction} (h : Reads fuel types index position words l) {inst : Instruction}
    (hinst : inst ∈ l) : ∃ types index position first rest c,
      readInstruction types index position first rest = .ok (inst, c) := by
  induction h with
  | done => exact nomatch hinst
  | spent => exact nomatch hinst
  | next hread _ ih =>
    rcases List.mem_cons.1 hinst with rfl | hinst
    · exact ⟨_, _, _, _, _, _, hread⟩
    · exact ih hinst

private theorem foldlM_push (l : List Instruction) (all : Array Instruction) :
    l.foldlM (fun (all : Array Instruction) inst => Except.ok (ε := ReadFailure) (all.push inst)) all =
      .ok (all ++ l) := by
  induction l generalizing all with
  | nil => simp [pure, Except.pure]
  | cons inst l ih =>
    rw [List.foldlM_cons]
    show l.foldlM _ (all.push inst) = _
    rw [ih]
    simp

/-- The instructions of a module are those that its words are read as, behind the header. -/
theorem Module.instructionsOf_eq_ok_iff {words : List Word} {l : List Instruction} :
    Module.instructionsOf words = .ok l ↔
      ∃ bound rest, readHeader words = .ok (bound, rest) ∧
        Reads rest.length [] 1 headerWords rest l := by
  simp only [instructionsOf, Except.bind_eq_ok_iff, foldInstructions_eq_ok_iff, foldlM_push]
  constructor
  · rintro ⟨⟨bound, rest⟩, hheader, _, ⟨l', hreads, ⟨⟩⟩, hl⟩
    obtain rfl : l' = l := by simpa [pure, Except.pure] using hl
    exact ⟨bound, rest, hheader, hreads⟩
  · rintro ⟨bound, rest, hheader, hreads⟩
    exact ⟨(bound, rest), hheader, _, ⟨l, hreads, rfl⟩, by simp [pure, Except.pure]⟩

end ShaderKit.Spirv
