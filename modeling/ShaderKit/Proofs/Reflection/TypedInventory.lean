import ShaderKit.Proofs.Std.Except
import ShaderKit.Reflection.Typed

/-!
# What the typed representation shows

The inventory of a module of the typed representation, written out: each class holds the globals that
stand in it, in their order.  The fold over the globals finds exactly that, unless a buffer among them
has no size.

## Key results

- `Ir.Module.inventory_eq_ok_iff`: the inventory of a module with an entry point whose buffers have sizes
- `Ir.Module.inventory_ne_extraction`: an inventory is never refused by a rule of extraction
-/

namespace ShaderKit.Ir.Module

open Resource

variable (m : Module)

/-- The shape of a global variable, or of one binding of an array of them. -/
def bindingShape? (v : GlobalVariable) : Option Shape :=
  m.shape? (stripBindingArrays m.types m.types.length v.type)

/-- The class of resources that a global variable stands in. -/
def classOf? (v : GlobalVariable) : Option BindingKind :=
  match v.space with
  | .uniform => some .uniformBuffer
  | .storage _ => some .storageBuffer
  | .handle => match m.bindingShape? v with
    | some (.sampler _) => some .sampler
    | some (.image _ _ (.storage ..)) => some .storageTexture
    | some (.image ..) => some .sampledTexture
    | _ => none
  | _ => none

/-- What the words declare about a global variable. -/
def declaredKind? (declared : Inventory) (v : GlobalVariable) : Option Resource.Kind :=
  counterpart? declared (v.name.getD unnamed) (v.binding.map (·.group)) (v.binding.map (·.binding))

/-- The kind of a global variable that is a resource. -/
def kindOf (declared : Inventory) (v : GlobalVariable) : Except ReflectionError Resource.Kind :=
  let type := stripBindingArrays m.types m.types.length v.type
  match v.space with
  | .storage access =>
    m.bufferKind (v.name.getD unnamed) (declaredKind? declared v) type !access.store
  | .handle => match m.bindingShape? v with
    | some (.image dim arrayed imageClass) =>
      .ok (imageKind (declaredKind? declared v) dim arrayed imageClass)
    | _ => .ok .sampler
  | _ => m.bufferKind (v.name.getD unnamed) (declaredKind? declared v) type true

/-- The declaration of a global variable, as a resource of some kind. -/
def declarationOf (v : GlobalVariable) (kind : Resource.Kind) : Declaration where
  name := v.name.getD unnamed
  set := v.binding.map (·.group)
  binding := v.binding.map (·.binding)
  kind := kind

/-- Why the size of a global buffer is not known. -/
def sizeFault? (declared : Inventory) (v : GlobalVariable) : Option ReflectionError :=
  match m.classOf? v, m.kindOf declared v with
  | some _, .error e => some e
  | _, _ => none

/-- The declarations of some globals that stand in a class. -/
def shownIn (declared : Inventory) (cls : BindingKind) (vs : List GlobalVariable) :
    List Declaration :=
  vs.filterMap fun v =>
    if m.classOf? v = some cls then (m.kindOf declared v).toOption.map (declarationOf v) else none

/-- What is shown when the globals are `vs` and the stage interface is as in `start`. -/
def shownWith (declared start : Inventory) (vs : List GlobalVariable) : Inventory where
  model := start.model
  pushConstants := start.pushConstants + vs.countP (·.space = .pushConstant)
  combinedSamplers := start.combinedSamplers
  uniformBuffers := start.uniformBuffers ++ m.shownIn declared .uniformBuffer vs
  images := start.images ++ m.shownIn declared .sampledTexture vs
  samplers := start.samplers ++ m.shownIn declared .sampler vs
  storageBuffers := start.storageBuffers ++ m.shownIn declared .storageBuffer vs
  storageImages := start.storageImages ++ m.shownIn declared .storageTexture vs
  inputs := start.inputs
  outputs := start.outputs

/-- What passes between stages at an entry point, in an inventory without resources. -/
def interfaceOf (declared : Inventory) (entry : EntryPoint) : Inventory where
  model := entry.stage.model
  combinedSamplers := declared.combinedSamplers
  inputs := entry.function.arguments.flatMap fun a =>
    varyingsFrom m.types (m.types.length + 1) a.binding a.type a.name
  outputs := entry.function.result.toList.flatMap fun r =>
    varyingsFrom m.types (m.types.length + 1) r.binding r.type none

/-- The inventory of a module seen from an entry point, buffers without a size left out. -/
def shown (declared : Inventory) (entry : EntryPoint) : Inventory :=
  m.shownWith declared (m.interfaceOf declared entry) m.globals

variable {m} {declared : Inventory}

/-- Globals that come later come later in each class. -/
private theorem shownWith_cons (start : Inventory) (v : GlobalVariable) (vs : List GlobalVariable) :
    m.shownWith declared (m.shownWith declared start [v]) vs =
      m.shownWith declared start (v :: vs) := by
  have happend (cls : BindingKind) : m.shownIn declared cls (v :: vs) =
      m.shownIn declared cls [v] ++ m.shownIn declared cls vs := by
    rw [shownIn, shownIn, shownIn, ← List.filterMap_append, List.singleton_append]
  simp only [shownWith, happend, List.append_assoc, List.countP_cons, List.countP_nil,
    Inventory.mk.injEq, true_and, and_true]
  omega

/-- What a global that is no resource shows. -/
private theorem shownWith_of_no_class {start : Inventory} {v : GlobalVariable}
    (h : m.classOf? v = none) : m.shownWith declared start [v] =
      { start with pushConstants := start.pushConstants + [v].countP (·.space = .pushConstant) } := by
  simp [shownWith, shownIn, h]

/-- A global that is no resource is counted if it is a push constant, and left out otherwise. -/
private theorem addGlobal_of_no_class (start : Inventory) {v : GlobalVariable}
    (h : m.classOf? v = none) :
    m.addGlobal declared start v = .ok (m.shownWith declared start [v]) := by
  rw [shownWith_of_no_class h]
  -- handles of types that stand for nothing are left out, as are all variables that are private in
  -- some way
  cases hspace : v.space with
  | uniform => simp [classOf?, hspace] at h
  | storage access => simp [classOf?, hspace] at h
  | handle =>
    simp only [classOf?, hspace, bindingShape?] at h
    simp only [addGlobal, hspace]
    split at h
    · exact nomatch h
    · exact nomatch h
    · exact nomatch h
    · rename_i hsampler hstorage himage
      split
      · rename_i heq
        exact absurd heq (hsampler _)
      · rename_i heq
        exact absurd heq (himage _ _ _)
      · simp [hspace, pure, Except.pure]
  | pushConstant => simp [addGlobal, hspace, pure, Except.pure]
  | function => simp [addGlobal, hspace, pure, Except.pure]
  | private_ => simp [addGlobal, hspace, pure, Except.pure]
  | workgroup => simp [addGlobal, hspace, pure, Except.pure]

/-- A global that is a resource is added to its class, unless it is a buffer without a size. -/
private theorem addGlobal_of_class (start : Inventory) {v : GlobalVariable} {cls : BindingKind}
    (h : m.classOf? v = some cls) :
    m.addGlobal declared start v =
      (m.kindOf declared v).map fun _ => m.shownWith declared start [v] := by
  -- a single global is shown in its own class and in no other
  have hin (cls' : BindingKind) : m.shownIn declared cls' [v] =
      if cls = cls' then ((m.kindOf declared v).toOption.map (declarationOf v)).toList else [] := by
    by_cases hc : cls = cls'
    · cases hk : (m.kindOf declared v).toOption <;> simp [shownIn, h, hc, hk]
    · simp [shownIn, h, hc]
  -- a buffer is of the kind that its block says, and fails where that has no size
  cases hspace : v.space with
  | uniform =>
    have hkind : m.kindOf declared v = m.bufferKind (v.name.getD unnamed)
        (counterpart? declared (v.name.getD unnamed) (v.binding.map (·.group))
          (v.binding.map (·.binding))) (stripBindingArrays m.types m.types.length v.type) true := by
      simp only [kindOf, hspace, declaredKind?]
    simp only [classOf?, hspace, Option.some.injEq] at h
    simp only [addGlobal, hspace, ← hkind]
    cases hk : m.kindOf declared v with
    | error e => rfl
    | ok kind =>
      simp [← h, shownWith, hin, hspace, hk, Functor.map, Except.map, Except.toOption, declarationOf]
  | storage access =>
    have hkind : m.kindOf declared v = m.bufferKind (v.name.getD unnamed)
        (counterpart? declared (v.name.getD unnamed) (v.binding.map (·.group))
          (v.binding.map (·.binding))) (stripBindingArrays m.types m.types.length v.type)
        !access.store := by
      simp only [kindOf, hspace, declaredKind?]
    simp only [classOf?, hspace, Option.some.injEq] at h
    simp only [addGlobal, hspace, ← hkind]
    cases hk : m.kindOf declared v with
    | error e => rfl
    | ok kind =>
      simp [← h, shownWith, hin, hspace, hk, Functor.map, Except.map, Except.toOption, declarationOf]
  | handle =>
    -- samplers, storage images and other images always have a kind
    simp only [classOf?, hspace, bindingShape?] at h
    have hkind : m.kindOf declared v = match m.bindingShape? v with
        | some (.image dim arrayed imageClass) =>
          .ok (imageKind (declaredKind? declared v) dim arrayed imageClass)
        | _ => .ok .sampler := by
      simp only [kindOf, hspace]
    simp only [bindingShape?, declaredKind?] at hkind
    simp only [addGlobal, hspace]
    split at h
    · rename_i comparison hshape
      simp only [hshape] at hkind ⊢
      simp only [Option.some.injEq] at h
      simp [← h, shownWith, hin, hspace, hkind, pure, Except.pure, Except.map, Except.toOption,
        declarationOf]
    · rename_i dim arrayed format access hshape
      simp only [hshape] at hkind ⊢
      simp only [Option.some.injEq] at h
      simp [← h, shownWith, hin, hspace, hkind, pure, Except.pure, Except.map, Except.toOption,
        declarationOf]
    · rename_i dim arrayed imageClass hstorage hshape
      simp only [hshape] at hkind ⊢
      simp only [Option.some.injEq] at h
      simp [← h, shownWith, hin, hspace, hkind, pure, Except.pure, Except.map, Except.toOption,
        declarationOf]
    · exact nomatch h
  | pushConstant => simp [classOf?, hspace] at h
  | function => simp [classOf?, hspace] at h
  | private_ => simp [classOf?, hspace] at h
  | workgroup => simp [classOf?, hspace] at h

/-- Adding a global refuses it if it is a buffer without a size, and shows it otherwise. -/
private theorem addGlobal_eq (start : Inventory) (v : GlobalVariable) :
    m.addGlobal declared start v = match m.sizeFault? declared v with
      | some e => .error e
      | none => .ok (m.shownWith declared start [v]) := by
  unfold sizeFault?
  cases hcls : m.classOf? v with
  | none => exact addGlobal_of_no_class start hcls
  | some cls =>
    rw [addGlobal_of_class start hcls]
    cases m.kindOf declared v <;> rfl

/-- Adding globals stops at the first buffer without a size, and shows all of them otherwise. -/
private theorem foldlM_addGlobal (start : Inventory) (vs : List GlobalVariable) :
    vs.foldlM (m.addGlobal declared) start = match (vs.filterMap (m.sizeFault? declared)).head? with
      | some e => .error e
      | none => .ok (m.shownWith declared start vs) := by
  induction vs generalizing start with
  | nil => simp [shownWith, shownIn, pure, Except.pure]
  | cons v rest ih =>
    -- the first global that has no size decides
    rw [List.foldlM_cons, addGlobal_eq]
    cases hv : m.sizeFault? declared v with
    | some e =>
      rw [List.filterMap_cons_some hv]
      rfl
    | none =>
      rw [List.filterMap_cons_none hv, ← shownWith_cons start v rest]
      exact ih _

/-- A module's inventory is what it shows from its first entry point, unless there is none or a buffer
has no size. -/
theorem inventory_eq (declared : Inventory) :
    m.inventory declared = match m.entryPoints.head? with
      | none => .error .noEntryPoint
      | some entry => match (m.globals.filterMap (m.sizeFault? declared)).head? with
        | some e => .error e
        | none => .ok (m.shown declared entry) := by
  unfold inventory
  cases m.entryPoints.head? with
  | none => rfl
  | some entry => exact foldlM_addGlobal (m.interfaceOf declared entry) m.globals

/-- The inventory of a module that has an entry point and sizes for all of its buffers. -/
theorem inventory_eq_ok_iff {t : Inventory} :
    m.inventory declared = .ok t ↔ ∃ entry, m.entryPoints.head? = some entry ∧
      (∀ v ∈ m.globals, m.sizeFault? declared v = none) ∧ t = m.shown declared entry := by
  rw [inventory_eq]
  cases m.entryPoints.head? with
  | none => simp
  | some entry =>
    cases hfault : (m.globals.filterMap (m.sizeFault? declared)).head? with
    | none =>
      -- there is no first fault exactly if there is none
      rw [List.head?_eq_none_iff, List.filterMap_eq_nil_iff] at hfault
      constructor
      · intro h
        cases h
        exact ⟨entry, rfl, hfault, rfl⟩
      · rintro ⟨_, hentry, _, rfl⟩
        cases hentry
        rfl
    | some e =>
      have hne : ¬ ∀ v ∈ m.globals, m.sizeFault? declared v = none := by
        intro hall
        simp [List.filterMap_eq_nil_iff.2 hall] at hfault
      simp [hne]

/-- The size of a block is no matter of extraction. -/
private theorem blockSizeFrom_ne_extraction {types : List TypeInfo} {name : String} {fuel : Nat}
    {type : TypeId} (rule : ExtractionError) :
    blockSizeFrom types name fuel type ≠ .error (.extraction rule) := by
  have hbytes (n : Nat) : byteSize n ≠ .error (.extraction rule) := by
    unfold byteSize
    split <;> exact nofun
  induction fuel generalizing type with
  | zero => exact nofun
  | succ fuel ih =>
    unfold blockSizeFrom
    split
    case h_8 =>
      -- a struct is measured at its last member
      split
      · exact nofun
      · rw [ne_eq, Except.bind_eq_error_iff]
        rintro (h | ⟨size, _, h⟩)
        · exact ih h
        · exact hbytes _ h
    all_goals first | exact hbytes _ | exact nofun

/-- The only reason not to have the size of a buffer is its block. -/
private theorem sizeFault?_ne_extraction {v : GlobalVariable} {e : ReflectionError}
    (h : m.sizeFault? declared v = some e) (rule : ExtractionError) : e ≠ .extraction rule := by
  -- the size of a block fails for its form or because it does not fit
  have hbuffer {name : String} {known : Option Resource.Kind} {type : TypeId} {nonWritable : Bool}
      (hk : m.bufferKind name known type nonWritable = .error e) : e ≠ .extraction rule := by
    unfold bufferKind at hk
    split at hk
    · exact nomatch hk
    · rcases Except.bind_eq_error_iff.1 hk with hk | ⟨size, _, hk⟩
      · rintro rfl
        exact blockSizeFrom_ne_extraction rule hk
      · exact nomatch hk
  unfold sizeFault? at h
  split at h
  · rename_i hkind
    cases h
    unfold kindOf at hkind
    split at hkind
    · exact hbuffer hkind
    · split at hkind <;> exact nomatch hkind
    · exact hbuffer hkind
  · exact nomatch h

/-- No rule of extraction is applied before the inventory is complete. -/
theorem inventory_ne_extraction (rule : ExtractionError) :
    m.inventory declared ≠ .error (.extraction rule) := by
  rw [inventory_eq]
  cases m.entryPoints.head? with
  | none => exact nofun
  | some entry =>
    cases hfault : (m.globals.filterMap (m.sizeFault? declared)).head? with
    | none => exact nofun
    | some e =>
      obtain ⟨v, _, hv⟩ := List.mem_filterMap.1 (List.mem_of_head? hfault)
      intro heq
      exact sizeFault?_ne_extraction hv rule (Except.error.inj heq)

end ShaderKit.Ir.Module
