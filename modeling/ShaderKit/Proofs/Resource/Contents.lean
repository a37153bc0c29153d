import ShaderKit.Proofs.Binding.Mask
import ShaderKit.Proofs.Binding.NumberMap
import ShaderKit.Proofs.Resource.Defects
import ShaderKit.Proofs.Std.List

/-!
# What extraction makes of an inventory

Extraction reports the first defect of an inventory.  An inventory without defects is described by its
metadata in full: every slot, every attribute and every color target says what the declarations and
varyings say, and nothing else.

## Key results

- `Inventory.extract_eq_error_iff`: extraction fails with exactly the first defect
- `Inventory.extract_eq_ok_iff`: extraction succeeds without defects, with the metadata that describes
  the inventory
- `Inventory.Describes.unique`: no two metadata describe one inventory
- `Inventory.extract_eq_extract_iff`: two inventories come out the same exactly if they break the same
  rule first, or none and agree on every slot, attribute and color target
-/

namespace ShaderKit.Resource

namespace Varying

/-- The varyings that have a location, in ascending order of location. -/
def located (vs : List Varying) : List (Nat × Texture.ComponentType) :=
  (vs.filterMap fun v => v.location.map (·, v.component)).mergeSort fun a b => a.1 ≤ b.1

private theorem mapM_location (vs : List Varying) :
    (vs.mapM fun v : Varying => do return (← v.location, v.component)) =
      if vs.any (·.location.isNone) then none
      else some (vs.filterMap fun v => v.location.map (·, v.component)) := by
  induction vs with
  | nil => rfl
  | cons v rest ih =>
    rw [List.mapM_cons, ih]
    cases hv : v.location with
    | none => simp [hv]
    | some location =>
      by_cases hr : rest.any (·.location.isNone) <;> simp [hv, hr]

theorem located?_eq (vs : List Varying) :
    located? vs = if vs.any (·.location.isNone) then none else some (located vs) := by
  unfold located? located
  rw [mapM_location]
  split <;> rfl

theorem mem_located {vs : List Varying} {location : Nat} {component : Texture.ComponentType} :
    (location, component) ∈ located vs ↔
      ∃ v ∈ vs, v.location = some location ∧ v.component = component := by
  simp [located, List.mem_mergeSort, List.mem_filterMap]

/-- Sorting by location keeps what stands at one location in its order. -/
theorem filter_located (vs : List Varying) (location : Nat) :
    (located vs).filter (·.1 == location) =
      (vs.filter (·.location == some location)).map fun v => (location, v.component) := by
  rw [located, List.filter_mergeSort_key Prod.fst]
  induction vs with
  | nil => rfl
  | cons v rest ih =>
    cases hv : v.location with
    | none => simp [hv, ih]
    | some l =>
      by_cases hl : l = location
      · simp [hv, hl, ih]
      · simp [hv, hl, ih]

end Varying

namespace Inventory

variable (r : Inventory)

/-- The defect of the execution model. -/
def modelDefects : List ExtractionError :=
  match r.model with
  | .other name => [.executionModel name]
  | _ => []

/-- Uses of what is not supported. -/
def featureDefects : List ExtractionError :=
  (if r.pushConstants > 0 then [.pushConstants] else [])
    ++ (if r.combinedSamplers > 0 then [.combinedSampler] else [])

/-- What is wrong with a color output. -/
def colorDefect? : Nat × Texture.ComponentType → Option ExtractionError
  | (location, component) =>
    if Limits.colorAttachments ≤ location then some (.fragmentOutputOverLimit location)
    else if component = .other then some .fragmentOutputType
    else none

/-- What is wrong with the interface of a vertex shader. -/
def vertexDefects : List ExtractionError :=
  (if r.inputs.any (·.location.isNone) then [.vertexInputLocation] else [])
    ++ ((Varying.located r.inputs).filter (Limits.vertexAttributes ≤ ·.1)).map
      (.vertexAttributeOverLimit ·.1)
    ++ (if r.outputs.any (·.location.isNone) then [.vertexOutputLocation] else [])

/-- What is wrong with the interface of a fragment shader. -/
def fragmentDefects : List ExtractionError :=
  (if r.inputs.any (·.location.isNone) then [.fragmentInputLocation] else [])
    ++ (if r.outputs.any (·.location.isNone) then [.fragmentOutputLocation] else [])
    ++ (Varying.located r.outputs).filterMap colorDefect?

/-- What is wrong with the stage interface. -/
def interfaceDefects : List ExtractionError :=
  match r.model with
  | .vertex => r.vertexDefects
  | .fragment => r.fragmentDefects
  | _ => []

/-- Every rule that the inventory breaks, in the order in which extraction comes to it. -/
def defects : List ExtractionError :=
  r.modelDefects ++ r.featureDefects ++ declarationDefects [] r.classified ++ r.interfaceDefects

/-- Some declaration puts the requirement `x` on a slot. -/
def Requires (group binding : Nat) (x : ShaderBinding) : Prop :=
  ∃ c ∈ r.classified, c.2.Requires c.1 group binding x

/-- Some input has this location. -/
def ReadsAt (location : Nat) : Prop := ∃ v ∈ r.inputs, v.location = some location

/-- The component type of the last output at a location; `other` where there is none. -/
def colorAt (location : Nat) : Texture.ComponentType :=
  ((r.outputs.filter (·.location == some location)).getLast?.map (·.component)).getD .other

/-- Metadata that says of every slot, attribute and color target what the inventory says. -/
structure Describes (m : EntryPointMetadata) : Prop where
  stage : r.stage = .ok m.stage
  slot : ∀ group binding x,
    (m.group group).find? binding = some x ↔ r.Requires group binding x
  location : ∀ location,
    m.attributes.contains location = true ↔ r.model = .vertex ∧ r.ReadsAt location
  bounded : m.attributes.Bounded
  color : ∀ location (h : location < Limits.colorAttachments),
    m.outputs[location] = if r.model = .fragment then r.colorAt location else .other

/-- Two inventories break the same rule first, or break none and say the same of every slot, attribute
and color target. -/
structure SameOutcome (r t : Inventory) : Prop where
  defect : r.defects.head? = t.defects.head?
  model : r.defects = [] → r.model = t.model
  slot : r.defects = [] → ∀ group binding x,
    r.Requires group binding x ↔ t.Requires group binding x
  location : r.defects = [] → r.model = .vertex → ∀ location,
    r.ReadsAt location ↔ t.ReadsAt location
  color : r.defects = [] → r.model = .fragment → ∀ location < Limits.colorAttachments,
    r.colorAt location = t.colorAt location

variable {r}

/-- No two metadata describe one inventory. -/
theorem Describes.unique {m n : EntryPointMetadata} (hm : r.Describes m) (hn : r.Describes n) :
    m = n := by
  have hstage : m.stage = n.stage := Except.ok.inj (hm.stage.symm.trans hn.stage)
  -- each part of the metadata is determined by what is found in it
  have hbindings : m.bindings = n.bindings := by
    ext1 g hg
    have hgroup : m.group g = n.group g :=
      NumberMap.ext_find? fun b x => (hm.slot g b x).trans (hn.slot g b x).symm
    simpa [EntryPointMetadata.group, hg] using hgroup
  have hattributes : m.attributes = n.attributes :=
    AttributeMask.ext_contains hm.bounded hn.bounded fun l =>
      (hm.location l).trans (hn.location l).symm
  have houtputs : m.outputs = n.outputs := by
    ext1 l hl
    rw [hm.color l hl, hn.color l hl]
  cases m
  cases n
  simp_all

/-- Recording attributes stops at the first one over the limit. -/
private theorem foldlM_attribute_of_over {ls : List (Nat × Texture.ComponentType)}
    {mask : AttributeMask} {p : Nat × Texture.ComponentType}
    (h : (ls.filter (Limits.vertexAttributes ≤ ·.1)).head? = some p) :
    ls.foldlM addVertexAttribute mask = .error (.vertexAttributeOverLimit p.1) := by
  induction ls generalizing mask with
  | nil => simp at h
  | cons q rest ih =>
    rw [List.foldlM_cons, addVertexAttribute]
    -- a location below the limit is recorded, and the search goes on
    by_cases hq : Limits.vertexAttributes ≤ q.1
    · simp only [hq, decide_true, List.filter_cons_of_pos, List.head?_cons, Option.some.injEq] at h
      subst h
      rw [(mask.insert?_eq_none_iff q.1).2 hq]
      rfl
    · simp only [hq, decide_false, Bool.false_eq_true, not_false_eq_true,
        List.filter_cons_of_neg] at h
      obtain ⟨mask', hmask⟩ := Option.ne_none_iff_exists'.1 (mt (mask.insert?_eq_none_iff q.1).1 hq)
      rw [hmask]
      exact ih h

/-- Recording attributes below the limit adds exactly their locations. -/
private theorem foldlM_attribute_of_below {ls : List (Nat × Texture.ComponentType)}
    {mask : AttributeMask} (hb : mask.Bounded) (h : ∀ p ∈ ls, p.1 < Limits.vertexAttributes) :
    ∃ mask', ls.foldlM addVertexAttribute mask = .ok mask' ∧ mask'.Bounded ∧
      ∀ l, mask'.contains l = true ↔ mask.contains l = true ∨ ∃ p ∈ ls, p.1 = l := by
  induction ls generalizing mask with
  | nil => exact ⟨mask, rfl, hb, by simp⟩
  | cons q rest ih =>
    rw [List.foldlM_cons, addVertexAttribute]
    have hq := h q (by simp)
    -- a location below the limit fits into the mask
    obtain ⟨mask₁, hmask₁⟩ := Option.ne_none_iff_exists'.1
      (mt (mask.insert?_eq_none_iff q.1).1 (by omega))
    obtain ⟨mask₂, hfold, hbounded, hcontains⟩ :=
      ih (AttributeMask.bounded_insert? hb hmask₁) fun p hp => h p (List.mem_cons_of_mem _ hp)
    refine ⟨mask₂, ?_, hbounded, fun l => ?_⟩
    · rw [hmask₁]
      exact hfold
    · rw [hcontains, AttributeMask.contains_insert? hmask₁]
      simp only [List.mem_cons, exists_eq_or_imp, eq_comm (a := l)]
      tauto

/-- Recording color outputs stops at the first one with a defect. -/
private theorem foldlM_color_of_defect {ls : List (Nat × Texture.ComponentType)}
    {outputs : Vector Texture.ComponentType Limits.colorAttachments} {e : ExtractionError}
    (h : (ls.filterMap colorDefect?).head? = some e) :
    ls.foldlM addFragmentOutput outputs = .error e := by
  induction ls generalizing outputs with
  | nil => simp at h
  | cons q rest ih =>
    obtain ⟨location, component⟩ := q
    rw [List.foldlM_cons]
    -- the target is checked before the component type
    by_cases hl : Limits.colorAttachments ≤ location
    · simp only [List.filterMap_cons, colorDefect?, hl, if_true, List.head?_cons,
        Option.some.injEq] at h
      subst h
      simp [addFragmentOutput, Nat.not_lt.2 hl, bind, Except.bind]
    · have hlt : location < Limits.colorAttachments := by omega
      by_cases hc : component = .other
      · simp only [List.filterMap_cons, colorDefect?, hl, hc, if_false, if_true, List.head?_cons,
          Option.some.injEq] at h
        subst h
        simp [addFragmentOutput, hlt, hc, bind, Except.bind]
      · simp only [List.filterMap_cons, colorDefect?, hl, hc, if_false] at h
        simp only [addFragmentOutput, hlt, hc, dif_pos, if_false]
        exact ih h

/-- Recording color outputs without defects sets each target to the last one at its location. -/
private theorem foldlM_color_of_no_defect {ls : List (Nat × Texture.ComponentType)}
    (outputs : Vector Texture.ComponentType Limits.colorAttachments)
    (h : ls.filterMap colorDefect? = []) :
    ∃ outputs', ls.foldlM addFragmentOutput outputs = .ok outputs' ∧
      ∀ l (hl : l < Limits.colorAttachments), outputs'[l] =
        ((ls.filter (·.1 == l)).getLast?.map (·.2)).getD outputs[l] := by
  induction ls generalizing outputs with
  | nil => exact ⟨outputs, rfl, by simp⟩
  | cons q rest ih =>
    obtain ⟨location, component⟩ := q
    rw [List.foldlM_cons]
    simp only [List.filterMap_eq_nil_iff, List.mem_cons, forall_eq_or_imp] at h
    obtain ⟨hq, hrest⟩ := h
    have hlt : location < Limits.colorAttachments := by
      apply Nat.lt_of_not_le
      intro hle
      simp [colorDefect?, hle] at hq
    have hc : component ≠ .other := by
      rintro rfl
      simp [colorDefect?, Nat.not_le.2 hlt] at hq
    -- the rest is recorded over the first output, and later ones at its location replace it
    obtain ⟨outputs', hfold, hget⟩ := ih (outputs.set location component)
      (List.filterMap_eq_nil_iff.2 hrest)
    refine ⟨outputs', ?_, fun l hl => ?_⟩
    · simp only [addFragmentOutput, hlt, hc, dif_pos, if_false]
      exact hfold
    · rw [hget l hl]
      by_cases hll : location = l
      · subst hll
        cases hlast : (rest.filter (·.1 == location)).getLast? with
        | none => simp [List.getLast?_cons, hlast]
        | some x => simp [List.getLast?_cons, hlast]
      · simp [hll]

/-- Recording the attributes of a vertex shader reports the first defect of its interface. -/
private theorem addVertexInterface_of_defects {m : EntryPointMetadata} {e : ExtractionError}
    (hm : m.attributes.Bounded) (h : r.vertexDefects.head? = some e) :
    r.addVertexInterface m = .error e := by
  unfold vertexDefects at h
  simp only [addVertexInterface, Varying.located?_eq]
  -- inputs without a location, inputs over the limit, then outputs without a location
  by_cases hin : r.inputs.any (·.location.isNone)
  · simp only [if_pos hin, List.cons_append, List.head?_cons, Option.some.injEq] at h
    subst h
    rw [if_pos hin]
    rfl
  · simp only [if_neg hin, List.nil_append, List.head?_append, List.head?_map] at h
    rw [if_neg hin]
    cases hover : ((Varying.located r.inputs).filter (Limits.vertexAttributes ≤ ·.1)).head? with
    | some p =>
      simp only [hover, Option.map_some, Option.some_or, Option.some.injEq] at h
      subst h
      simp only [foldlM_attribute_of_over hover]
      rfl
    | none =>
      simp only [hover, Option.map_none, Option.none_or] at h
      have hbelow : ∀ p ∈ Varying.located r.inputs, p.1 < Limits.vertexAttributes := by
        intro p hp
        have := List.filter_eq_nil_iff.1 (List.head?_eq_none_iff.1 hover) p hp
        simpa using this
      obtain ⟨mask, hmask, _, _⟩ := foldlM_attribute_of_below hm hbelow
      by_cases hout : r.outputs.any (·.location.isNone)
      · simp only [if_pos hout, List.head?_cons, Option.some.injEq] at h
        subst h
        simp only [hmask, if_pos hout]
        rfl
      · simp only [if_neg hout, List.head?_nil] at h
        exact nomatch h

/-- Recording the color outputs of a fragment shader reports the first defect of its interface. -/
private theorem addFragmentInterface_of_defects {m : EntryPointMetadata} {e : ExtractionError}
    (h : r.fragmentDefects.head? = some e) : r.addFragmentInterface m = .error e := by
  unfold fragmentDefects at h
  simp only [addFragmentInterface, Varying.located?_eq]
  -- inputs without a location, outputs without one, then what is wrong with a color
  by_cases hin : r.inputs.any (·.location.isNone)
  · simp only [if_pos hin, List.cons_append, List.head?_cons, Option.some.injEq] at h
    subst h
    rw [if_pos hin]
    rfl
  · simp only [if_neg hin, List.nil_append] at h
    rw [if_neg hin]
    by_cases hout : r.outputs.any (·.location.isNone)
    · simp only [if_pos hout, List.cons_append, List.head?_cons, Option.some.injEq] at h
      subst h
      simp only [if_pos hout]
      rfl
    · simp only [if_neg hout, List.nil_append] at h
      simp only [if_neg hout, foldlM_color_of_defect h]
      rfl

/-- The attributes of a vertex shader whose interface has no defects. -/
private theorem addVertexInterface_of_no_defects {m : EntryPointMetadata}
    (hm : m.attributes = .empty) (h : r.vertexDefects = []) :
    ∃ mask, r.addVertexInterface m = .ok { m with attributes := mask } ∧ mask.Bounded ∧
      ∀ location, mask.contains location = true ↔ r.ReadsAt location := by
  simp only [vertexDefects, List.append_eq_nil_iff, ite_eq_right_iff, List.cons_ne_nil, imp_false,
    List.map_eq_nil_iff, List.filter_eq_nil_iff, decide_eq_true_eq, Nat.not_le] at h
  obtain ⟨⟨hin, hbelow⟩, hout⟩ := h
  obtain ⟨mask, hmask, hbounded, hcontains⟩ :=
    foldlM_attribute_of_below AttributeMask.empty_bounded hbelow
  refine ⟨mask, ?_, hbounded, fun location => ?_⟩
  · simp only [addVertexInterface, Varying.located?_eq, if_neg hin, hm, hmask, if_neg hout]
    rfl
  -- the mask starts empty, so what is in it was read
  · rw [hcontains]
    simp only [AttributeMask.contains_empty, Bool.false_eq_true, false_or]
    constructor
    · rintro ⟨⟨_, component⟩, hp, rfl⟩
      obtain ⟨v, hv, hlocation, _⟩ := Varying.mem_located.1 hp
      exact ⟨v, hv, hlocation⟩
    · rintro ⟨v, hv, hlocation⟩
      exact ⟨(location, v.component), Varying.mem_located.2 ⟨v, hv, hlocation, rfl⟩, rfl⟩

/-- The color outputs of a fragment shader whose interface has no defects. -/
private theorem addFragmentInterface_of_no_defects {m : EntryPointMetadata}
    (hm : m.outputs = .replicate _ .other) (h : r.fragmentDefects = []) :
    ∃ outputs, r.addFragmentInterface m = .ok { m with outputs } ∧
      ∀ location (hl : location < Limits.colorAttachments),
        outputs[location] = r.colorAt location := by
  simp only [fragmentDefects, List.append_eq_nil_iff, ite_eq_right_iff, List.cons_ne_nil,
    imp_false] at h
  obtain ⟨⟨hin, hout⟩, hcolor⟩ := h
  obtain ⟨outputs, hfold, hget⟩ := foldlM_color_of_no_defect m.outputs hcolor
  refine ⟨outputs, ?_, fun location hl => ?_⟩
  · simp only [addFragmentInterface, Varying.located?_eq, if_neg hin, if_neg hout, hfold]
    rfl
  -- all targets start as other
  · rw [hget location hl, Varying.filter_located, hm]
    simp [colorAt, List.getLast?_map, Function.comp_def]

/-- The execution model that a stage comes from. -/
private def modelOf : Stage → ExecutionModel
  | .vertex => .vertex
  | .fragment => .fragment
  | .compute => .compute

/-- A stage comes from one execution model, which has no defect. -/
private theorem model_of_stage {stage : Stage} (h : r.stage = .ok stage) :
    r.modelDefects = [] ∧ r.model = modelOf stage := by
  unfold Inventory.stage at h
  unfold modelDefects
  split at h <;> rename_i hmodel
  · cases h
    exact ⟨by simp [hmodel], hmodel⟩
  · cases h
    exact ⟨by simp [hmodel], hmodel⟩
  · cases h
    exact ⟨by simp [hmodel], hmodel⟩
  · exact nomatch h

/-- What stands before the declarations. -/
private theorem extract_of_features {stage : Stage} (hs : r.stage = .ok stage)
    (hpush : ¬ r.pushConstants > 0) (hcombined : ¬ r.combinedSamplers > 0) :
    r.extract = (do
      let m ← r.classified.foldlM (fun m (cls, d) => d.addTo cls m) { stage }
      r.addInterface stage m) := by
  simp only [extract, hs, if_neg hpush, if_neg hcombined]
  rfl

/-- With a stage and without unsupported features, extraction reports the first defect of the declarations
or else of the interface. -/
private theorem extract_of_content_defects {stage : Stage} {e : ExtractionError}
    (hs : r.stage = .ok stage) (hpush : ¬ r.pushConstants > 0) (hcombined : ¬ r.combinedSamplers > 0)
    (h : (declarationDefects [] r.classified).head?.or r.interfaceDefects.head? = some e) :
    r.extract = .error e := by
  obtain ⟨_, hmodel⟩ := model_of_stage hs
  rw [extract_of_features hs hpush hcombined]
  -- declarations come before the interface, and the interface depends on the stage
  cases hd : (declarationDefects [] r.classified).head? with
  | some e' =>
    simp only [hd, Option.some_or, Option.some.injEq] at h
    subst h
    rw [foldlM_addTo_of_defects (filled_nil stage) hd]
    rfl
  | none =>
    simp only [hd, Option.none_or] at h
    obtain ⟨m, _, hm, _, heq⟩ := foldlM_addTo_of_no_defects (filled_nil stage)
      (List.head?_eq_none_iff.1 hd)
    have hattributes : m.attributes = .empty := by rw [heq]
    rw [hm]
    cases stage with
    | vertex =>
      rw [interfaceDefects, hmodel, modelOf] at h
      exact addVertexInterface_of_defects (hattributes ▸ AttributeMask.empty_bounded) h
    | fragment =>
      rw [interfaceDefects, hmodel, modelOf] at h
      exact addFragmentInterface_of_defects h
    | compute =>
      rw [interfaceDefects, hmodel, modelOf] at h
      exact nomatch h

/-- An inventory with defects is refused for the first of them. -/
private theorem extract_of_defects {e : ExtractionError} (h : r.defects.head? = some e) :
    r.extract = .error e := by
  simp only [defects, featureDefects, List.head?_append] at h
  -- the model is looked at first, then push constants and combined samplers
  cases hs : r.stage with
  | error e' =>
    unfold Inventory.stage at hs
    split at hs
    · exact nomatch hs
    · exact nomatch hs
    · exact nomatch hs
    · rename_i name hmodel
      simp only [modelDefects, hmodel, List.head?_cons, Option.some_or, Option.some.injEq] at h
      subst h
      simp only [extract, Inventory.stage, hmodel]
      rfl
  | ok stage =>
    obtain ⟨hnone, _⟩ := model_of_stage hs
    rw [hnone] at h
    by_cases hpush : r.pushConstants > 0
    · simp only [if_pos hpush, List.head?_nil, List.head?_cons, Option.none_or, Option.some_or,
        Option.some.injEq] at h
      subst h
      simp only [extract, hs, if_pos hpush]
      rfl
    by_cases hcombined : r.combinedSamplers > 0
    · simp only [if_neg hpush, if_pos hcombined, List.head?_nil, List.head?_cons, Option.none_or,
        Option.some_or, Option.some.injEq] at h
      subst h
      simp only [extract, hs, if_neg hpush, if_pos hcombined]
      rfl
    simp only [if_neg hpush, if_neg hcombined, List.head?_nil, Option.none_or] at h
    exact extract_of_content_defects hs hpush hcombined h

/-- An inventory without defects has metadata, which describes it. -/
private theorem extract_of_no_defects (h : r.defects = []) :
    ∃ m, r.extract = .ok m ∧ r.Describes m := by
  simp only [defects, featureDefects, List.append_eq_nil_iff, ite_eq_right_iff, List.cons_ne_nil,
    imp_false] at h
  obtain ⟨⟨⟨hnone, hpush, hcombined⟩, hd⟩, hi⟩ := h
  cases hs : r.stage with
  | error e =>
    unfold Inventory.stage at hs
    split at hs <;> simp_all [modelDefects]
  | ok stage =>
    obtain ⟨_, hmodel⟩ := model_of_stage hs
    -- the declarations fill the groups and leave all else as it was
    obtain ⟨m, _, hm, hfilled, heq⟩ := foldlM_addTo_of_no_defects (filled_nil stage) hd
    have hstage : m.stage = stage := by rw [heq]
    have hattributes : m.attributes = .empty := by rw [heq]
    have houtputs : m.outputs = .replicate _ .other := by rw [heq]
    have hslot := hfilled.find?_eq_some_iff
    rw [List.nil_append] at hslot
    rw [extract_of_features hs hpush hcombined, hm]
    -- the stage decides which part of the interface is recorded
    cases stage with
    | vertex =>
      rw [interfaceDefects, hmodel, modelOf] at hi
      obtain ⟨mask, hok, hbounded, hcontains⟩ := addVertexInterface_of_no_defects hattributes hi
      refine ⟨_, hok, ⟨by rw [hs, hstage], hslot, ?_, hbounded, ?_⟩⟩
      · simpa [hmodel, modelOf] using hcontains
      · simp [hmodel, modelOf, houtputs]
    | fragment =>
      rw [interfaceDefects, hmodel, modelOf] at hi
      obtain ⟨outputs, hok, hget⟩ := addFragmentInterface_of_no_defects houtputs hi
      refine ⟨_, hok, ⟨by rw [hs, hstage], hslot, ?_, ?_, ?_⟩⟩
      · simp [hmodel, modelOf, hattributes]
      · exact hattributes ▸ AttributeMask.empty_bounded
      · simpa [hmodel, modelOf] using hget
    | compute =>
      refine ⟨m, rfl, ⟨by rw [hs, hstage], hslot, ?_, ?_, ?_⟩⟩
      · simp [hmodel, modelOf, hattributes]
      · exact hattributes ▸ AttributeMask.empty_bounded
      · simp [hmodel, modelOf, houtputs]

/-- Extraction fails with exactly the first defect. -/
theorem extract_eq_error_iff {e : ExtractionError} :
    r.extract = .error e ↔ r.defects.head? = some e := by
  constructor
  · intro h
    cases hd : r.defects.head? with
    | none =>
      obtain ⟨m, hm, _⟩ := extract_of_no_defects (List.head?_eq_none_iff.1 hd)
      exact nomatch h.symm.trans hm
    | some e' => rw [Except.error.inj (h.symm.trans (extract_of_defects hd))]
  · exact extract_of_defects

/-- Extraction succeeds exactly without defects, with the metadata that describes the inventory. -/
theorem extract_eq_ok_iff {m : EntryPointMetadata} :
    r.extract = .ok m ↔ r.defects = [] ∧ r.Describes m := by
  constructor
  · intro h
    cases hd : r.defects.head? with
    | none =>
      have hnil := List.head?_eq_none_iff.1 hd
      obtain ⟨n, hn, hdescribes⟩ := extract_of_no_defects hnil
      -- extraction has one result, and that describes the inventory
      rw [Except.ok.inj (h.symm.trans hn)]
      exact ⟨hnil, hdescribes⟩
    | some e => exact nomatch h.symm.trans (extract_of_defects hd)
  · rintro ⟨hd, hm⟩
    obtain ⟨n, hn, hdescribes⟩ := extract_of_no_defects hd
    rw [hn, hm.unique hdescribes]

/-- Inventories have the same outcome exactly when extraction makes the same of them. -/
theorem extract_eq_extract_iff {t : Inventory} : r.extract = t.extract ↔ r.SameOutcome t := by
  constructor
  · intro h
    -- one outcome for both: the same first defect, or one metadata that describes both
    have hdefect : r.defects.head? = t.defects.head? := by
      apply Option.ext
      intro e
      rw [← extract_eq_error_iff, ← extract_eq_error_iff, h]
    have hboth (hd : r.defects = []) : ∃ m, r.Describes m ∧ t.Describes m := by
      obtain ⟨m, hm, hr⟩ := extract_of_no_defects hd
      exact ⟨m, hr, (extract_eq_ok_iff.1 (h.symm.trans hm)).2⟩
    have hmodel (hd : r.defects = []) : r.model = t.model := by
      obtain ⟨m, hr, ht⟩ := hboth hd
      rw [(model_of_stage hr.stage).2, (model_of_stage ht.stage).2]
    refine ⟨hdefect, hmodel, fun hd g b x => ?_, fun hd hv l => ?_, fun hd hf l hl => ?_⟩
    · obtain ⟨m, hr, ht⟩ := hboth hd
      rw [← hr.slot, ht.slot]
    · obtain ⟨m, hr, ht⟩ := hboth hd
      have hiff := (hr.location l).symm.trans (ht.location l)
      simpa [← hmodel hd, hv] using hiff
    · obtain ⟨m, hr, ht⟩ := hboth hd
      have heq := (hr.color l hl).symm.trans (ht.color l hl)
      simpa [← hmodel hd, hf] using heq
  · intro h
    cases hd : r.defects.head? with
    | some e => rw [extract_of_defects hd, extract_of_defects (h.defect ▸ hd)]
    | none =>
      have hr := List.head?_eq_none_iff.1 hd
      have ht := List.head?_eq_none_iff.1 (h.defect ▸ hd)
      obtain ⟨m, hm, hdescribes⟩ := extract_of_no_defects hr
      have hmodel := h.model hr
      rw [hm, eq_comm, extract_eq_ok_iff]
      refine ⟨ht, ⟨?_, fun g b x => ?_, fun l => ?_, hdescribes.bounded, fun l hl => ?_⟩⟩
      · rw [← hdescribes.stage, Inventory.stage, Inventory.stage, hmodel]
      · rw [hdescribes.slot, h.slot hr]
      · rw [hdescribes.location, ← hmodel]
        exact and_congr_right fun hv => h.location hr hv l
      · rw [hdescribes.color l hl, ← hmodel]
        split
        · rename_i hf
          exact h.color hr hf l hl
        · rfl

end Inventory

end ShaderKit.Resource
