import ShaderKit.Proofs.Resource.Extractable

/-!
# The order of declarations

Resources and varyings are found in some order, which says nothing about the entry point.  Neither whether an
inventory has metadata nor what the metadata says depends on it, nor on the names of the varyings.  The one
exception are color outputs at the same location, of which the last one counts, so they must be of one
component type.

## Key results

- `Inventory.Rearranged`: the same declarations and the same varyings, in any order
- `Rearranged.extract_eq_ok`: an inventory that is rearranged has the same metadata
- `Inventory.extract_reordered`: so has one whose lists are each put in another order
-/

namespace ShaderKit.Resource

namespace Varying

/-- What is read of a varying: its location and its component type. -/
def slot (v : Varying) : Option Nat × Texture.ComponentType := (v.location, v.component)

variable {vs ws : List Varying}

/-- Varyings with the same slots, in any order, have the same properties. -/
theorem forall_of_perm (h : (ws.map slot).Perm (vs.map slot))
    {P : Option Nat → Texture.ComponentType → Prop} (hvs : ∀ v ∈ vs, P v.location v.component) :
    ∀ w ∈ ws, P w.location w.component := by
  intro w hw
  obtain ⟨v, hv, hslot⟩ := List.mem_map.1 (h.mem_iff.1 (List.mem_map_of_mem hw))
  obtain ⟨hlocation, hcomponent⟩ := Prod.mk.inj hslot
  exact hlocation ▸ hcomponent ▸ hvs v hv

theorem exists_of_perm (h : (ws.map slot).Perm (vs.map slot)) {v : Varying} (hv : v ∈ vs) :
    ∃ w ∈ ws, w.location = v.location ∧ w.component = v.component := by
  obtain ⟨w, hw, hslot⟩ := List.mem_map.1 (h.mem_iff.2 (List.mem_map_of_mem hv))
  exact ⟨w, hw, Prod.mk.inj hslot⟩

end Varying

namespace Inventory

variable {r t : Inventory} {m : EntryPointMetadata}

/-- The same declarations in each class and the same varyings, in any order.  What the varyings are called
does not matter. -/
structure Rearranged (r t : Inventory) : Prop where
  model : t.model = r.model
  pushConstants : t.pushConstants = r.pushConstants
  combinedSamplers : t.combinedSamplers = r.combinedSamplers
  classified : t.classified.Perm r.classified
  inputs : (t.inputs.map Varying.slot).Perm (r.inputs.map Varying.slot)
  outputs : (t.outputs.map Varying.slot).Perm (r.outputs.map Varying.slot)

/-- Outputs of a fragment shader at the same location are of one component type. -/
def OneColorEach (r : Inventory) : Prop :=
  r.model = .fragment → ∀ v ∈ r.outputs, ∀ w ∈ r.outputs, ∀ location,
    v.location = some location → w.location = some location → v.component = w.component

theorem Rearranged.symm (h : r.Rearranged t) : t.Rearranged r where
  model := h.model.symm
  pushConstants := h.pushConstants.symm
  combinedSamplers := h.combinedSamplers.symm
  classified := h.classified.symm
  inputs := h.inputs.symm
  outputs := h.outputs.symm

/-! ## The verdict -/

/-- No rule looks at the order. -/
theorem Extractable.of_rearranged (hr : r.Extractable) (h : r.Rearranged t) : t.Extractable where
  model := by
    rw [h.model]
    exact hr.model
  pushConstants := h.pushConstants.trans hr.pushConstants
  combinedSamplers := h.combinedSamplers.trans hr.combinedSamplers
  -- the rules about resources are about each of them alone, or about all slots together
  sound c hc := hr.sound c (h.classified.mem_iff.1 hc)
  slots := (h.classified.map _).nodup_iff.2 hr.slots
  -- and those about inputs and outputs are about the location and the component type of each
  vertexInput hv := by
    rw [h.model] at hv
    exact Varying.forall_of_perm h.inputs (P := fun location _ =>
      ∃ l < Limits.vertexAttributes, location = some l) (hr.vertexInput hv)
  vertexOutput hv := by
    rw [h.model] at hv
    exact Varying.forall_of_perm h.outputs (P := fun location _ => location ≠ none)
      (hr.vertexOutput hv)
  fragmentInput hf := by
    rw [h.model] at hf
    exact Varying.forall_of_perm h.inputs (P := fun location _ => location ≠ none)
      (hr.fragmentInput hf)
  fragmentOutput hf := by
    rw [h.model] at hf
    exact Varying.forall_of_perm h.outputs (P := fun location component =>
      (∃ l < Limits.colorAttachments, location = some l) ∧ component ≠ .other)
      (hr.fragmentOutput hf)

/-! ## The metadata -/

/-- Where no output has a location, its color target is not written. -/
private theorem colorAt_of_none {location : Nat} (h : ∀ v ∈ r.outputs, v.location ≠ some location) :
    r.colorAt location = .other := by
  have hnone : r.outputs.filter (·.location == some location) = [] :=
    List.filter_eq_nil_iff.2 fun v hv => by simpa using h v hv
  rw [colorAt, hnone]
  rfl

/-- Where all outputs at a location are of one component type, so is its color target. -/
private theorem colorAt_of_mem {location : Nat} {v : Varying} (hv : v ∈ r.outputs)
    (hlocation : v.location = some location)
    (hone : ∀ w ∈ r.outputs, w.location = some location → w.component = v.component) :
    r.colorAt location = v.component := by
  have hmem : v ∈ r.outputs.filter (·.location == some location) :=
    List.mem_filter.2 ⟨hv, beq_iff_eq.2 hlocation⟩
  -- whichever output is the last one, its component is the one that all have
  obtain ⟨last, hlast⟩ := Option.isSome_iff_exists.1
    (List.getLast?_isSome.2 (List.ne_nil_of_mem hmem))
  obtain ⟨hmem, hsame⟩ := List.mem_filter.1 (List.mem_of_getLast? hlast)
  rw [colorAt, hlast]
  exact hone last hmem (beq_iff_eq.1 hsame)

/-- Color targets do not depend on the order of outputs that agree at each location. -/
theorem Rearranged.colorAt_eq (h : r.Rearranged t) (hcolors : r.OneColorEach)
    (hf : r.model = .fragment) (location : Nat) : t.colorAt location = r.colorAt location := by
  by_cases hsome : ∃ v ∈ r.outputs, v.location = some location
  · obtain ⟨v, hv, hlocation⟩ := hsome
    have hone : ∀ w ∈ r.outputs, w.location = some location → w.component = v.component :=
      fun w hw hsame => hcolors hf w hw v hv location hsame hlocation
    -- the other order has an output that agrees with this one, and so with all at the location
    obtain ⟨w, hw, hsame, hcomponent⟩ := Varying.exists_of_perm h.outputs hv
    have hone' : ∀ x ∈ t.outputs, x.location = some location → x.component = w.component := by
      rw [hcomponent]
      exact Varying.forall_of_perm h.outputs
        (P := fun l component => l = some location → component = v.component) hone
    rw [colorAt_of_mem hv hlocation hone, colorAt_of_mem hw (hsame.trans hlocation) hone', hcomponent]
  · have hnone : ∀ v ∈ r.outputs, v.location ≠ some location := fun v hv hlocation =>
      hsome ⟨v, hv, hlocation⟩
    rw [colorAt_of_none hnone, colorAt_of_none (Varying.forall_of_perm h.outputs
      (P := fun l _ => l ≠ some location) hnone)]

/-- The same inputs read the same attributes. -/
theorem Rearranged.readsAt_iff (h : r.Rearranged t) (location : Nat) :
    t.ReadsAt location ↔ r.ReadsAt location := by
  -- either list has an input at each location that the other has one at
  have himp {a b : Inventory} (hab : a.Rearranged b) (hread : a.ReadsAt location) :
      b.ReadsAt location := by
    obtain ⟨v, hv, hlocation⟩ := hread
    obtain ⟨w, hw, hsame, _⟩ := Varying.exists_of_perm hab.inputs hv
    exact ⟨w, hw, hsame.trans hlocation⟩
  exact ⟨himp h.symm, himp h⟩

/-- What an inventory yields, it yields in any order. -/
theorem Yields.of_rearranged (hm : r.Yields m) (h : r.Rearranged t) (hcolors : r.OneColorEach) :
    t.Yields m where
  stage := h.model.trans hm.stage
  bindings := hm.bindings.trans (h.classified.map _).symm
  attributes location := by
    rw [hm.attributes location, h.model]
    exact and_congr_right fun _ => (h.readsAt_iff location).symm
  bounded := hm.bounded
  outputs location hlt := by
    rw [hm.outputs location hlt, h.model]
    split
    · rename_i hf
      exact (h.colorAt_eq hcolors hf location).symm
    · rfl

/-- An inventory that is rearranged has the same metadata. -/
theorem Rearranged.extract_eq_ok (h : r.Rearranged t) (hcolors : r.OneColorEach)
    (hr : r.extract = .ok m) : t.extract = .ok m := by
  obtain ⟨hextractable, hyields⟩ := ((extract_exact r).2 m).1 hr
  exact ((extract_exact t).2 m).2
    ⟨hextractable.of_rearranged h, hyields.of_rearranged h hcolors⟩

/-! ## Lists in another order -/

/-- Each list of the inventory is put in some other order. -/
structure Reordered (r t : Inventory) : Prop where
  model : t.model = r.model
  pushConstants : t.pushConstants = r.pushConstants
  combinedSamplers : t.combinedSamplers = r.combinedSamplers
  uniformBuffers : t.uniformBuffers.Perm r.uniformBuffers
  images : t.images.Perm r.images
  samplers : t.samplers.Perm r.samplers
  storageBuffers : t.storageBuffers.Perm r.storageBuffers
  storageImages : t.storageImages.Perm r.storageImages
  inputs : t.inputs.Perm r.inputs
  outputs : t.outputs.Perm r.outputs

theorem Reordered.rearranged (h : r.Reordered t) : r.Rearranged t where
  model := h.model
  pushConstants := h.pushConstants
  combinedSamplers := h.combinedSamplers
  classified := by
    unfold classified
    exact ((((h.uniformBuffers.map _).append (h.images.map _)).append (h.samplers.map _)).append
      (h.storageBuffers.map _)).append (h.storageImages.map _)
  inputs := h.inputs.map _
  outputs := h.outputs.map _

/-- An inventory that has metadata has the same metadata in every order of its declarations, inputs and
outputs, if color outputs at one location are of one component type. -/
theorem extract_reordered (hr : r.extract = .ok m) (hcolors : r.OneColorEach) (h : r.Reordered t) :
    t.extract = .ok m :=
  h.rearranged.extract_eq_ok hcolors hr

/-- A fragment shader with resources of several classes, and two outputs at location 0. -/
def layers : Inventory where
  model := .fragment
  uniformBuffers := [⟨"camera", some 0, some 2, .buffer 64 true⟩, ⟨"light", some 0, some 0, .buffer 16 true⟩]
  images := [⟨"albedo", some 1, some 0, .sampledImage .d2 false false .float⟩,
    ⟨"mask", some 0, some 1, .sampledImage .d2 true false .uint⟩]
  storageBuffers := [⟨"log", some 3, some 7, .buffer 4 false⟩]
  inputs := [⟨"uv", some 1, .float⟩, ⟨"layer", some 0, .uint⟩]
  outputs := [⟨"front", some 0, .float⟩, ⟨"id", some 2, .uint⟩, ⟨"back", some 0, .float⟩]

/-- `layers` from the end to the start. -/
def layersReversed : Inventory where
  model := .fragment
  uniformBuffers := layers.uniformBuffers.reverse
  images := layers.images.reverse
  storageBuffers := layers.storageBuffers.reverse
  inputs := layers.inputs.reverse
  outputs := layers.outputs.reverse

theorem layers_extractable : layers.Extractable where
  model := by decide
  pushConstants := rfl
  combinedSamplers := rfl
  sound := List.forall_mem_cons.2 ⟨⟨⟨0, by decide, rfl⟩, ⟨2, by decide, rfl⟩, .uniformBuffer .., trivial⟩,
    List.forall_mem_cons.2 ⟨⟨⟨0, by decide, rfl⟩, ⟨0, by decide, rfl⟩, .uniformBuffer .., trivial⟩,
    List.forall_mem_cons.2 ⟨⟨⟨1, by decide, rfl⟩, ⟨0, by decide, rfl⟩, .image .., nofun⟩,
    List.forall_mem_cons.2 ⟨⟨⟨0, by decide, rfl⟩, ⟨1, by decide, rfl⟩, .image .., nofun⟩,
    List.forall_mem_singleton.2 ⟨⟨3, by decide, rfl⟩, ⟨7, by decide, rfl⟩, .storageBuffer .., trivial⟩⟩⟩⟩⟩
  slots := by decide
  vertexInput := nofun
  vertexOutput := nofun
  fragmentInput _ := by decide
  fragmentOutput _ := by decide

theorem extract_reordered_layers : ∃ m, layers.extract = .ok m ∧ m.outputs[0] = .float ∧
    layers.OneColorEach ∧ layers.Reordered layersReversed ∧ layersReversed.extract = .ok m := by
  obtain ⟨m, hm⟩ := (extract_exact layers).1.2 layers_extractable
  have hcolor : m.outputs[0] = .float := (((extract_exact layers).2 m).1 hm).2.outputs 0 (by decide)
  have hcolors : layers.OneColorEach := by
    intro _ v hv w hw location hlocation hsame
    simp only [layers, List.mem_cons, List.not_mem_nil, or_false] at hv hw
    -- the two outputs at location 0 are both floats
    rcases hv with rfl | rfl | rfl <;> rcases hw with rfl | rfl | rfl <;> grind
  have hreordered : layers.Reordered layersReversed :=
    ⟨rfl, rfl, rfl, List.reverse_perm _, List.reverse_perm _, .refl _, List.reverse_perm _, .refl _,
      List.reverse_perm _, List.reverse_perm _⟩
  exact ⟨m, hm, hcolor, hcolors, hreordered, extract_reordered hm hcolors hreordered⟩

-- Without that, the order would show.
example : ({ model := .fragment, outputs := [⟨"a", some 0, .float⟩, ⟨"b", some 0, .uint⟩] } :
    Inventory).extract.toOption.map (·.outputs) = some #v[.uint, .other, .other, .other] := by
  cbv

end Inventory

end ShaderKit.Resource
