import Mathlib.Data.List.Nodup
import ShaderKit.Proofs.Std.Except
import ShaderKit.Vertex.Pulling.Placement

/-!
# What a vertex state in words says

A state that can be turned into words has whole words for strides and offsets, and at most one attribute
at each location.  Its buffers are the layouts in words, and the attribute at a location is found where
the state declares it.

## Key results

- `WordLayout.placed_of_ofState`: the layout of a state, buffer by buffer and attribute by attribute
- `WordLayout.Placed.lookup_eq_some`: looking up a location finds the attribute declared there
- `WordLayout.Placed.declares_unique`: at most one attribute is declared at a location
- `WordLayout.ofState_ok_iff`: which states can be turned into words
-/

namespace ShaderKit.Vertex

/-- A byte count that is a number of words, and small enough for one. -/
def IsWords (bytes : UInt64) : Prop := 4 ∣ bytes.toNat ∧ bytes.toNat / 4 < UInt32.size

/-- The attributes of a state with the slots of their buffers. -/
def slotted (state : State) (first : Nat) : List (Nat × Attribute) :=
  (state.zipIdx first).flatMap fun (layout, slot) => layout.attributes.map (slot, ·)

/-- The state declares attribute `a` in the buffer at `slot`, which has the layout `layout`. -/
structure Declares (state : State) (slot : Nat) (layout : BufferLayout) (a : Attribute) : Prop where
  slot : state[slot]? = some layout
  mem : a ∈ layout.attributes

theorem mem_slotted {state : State} {slot : Nat} {a : Attribute} :
    (slot, a) ∈ slotted state 0 ↔ ∃ layout, Declares state slot layout a := by
  simp only [slotted, List.mem_flatMap, List.mem_map, Prod.mk.injEq, Prod.exists]
  constructor
  · rintro ⟨layout, slot', hmem, a', ha, rfl, rfl⟩
    exact ⟨layout, ⟨List.mem_zipIdx_iff_getElem?.1 hmem, ha⟩⟩
  · rintro ⟨layout, hlayout, ha⟩
    exact ⟨layout, slot, List.mem_zipIdx_iff_getElem?.2 hlayout, a, ha, rfl, rfl⟩

namespace WordLayout

/-- The layout holds the buffers `bs`, and the attributes `ps` with their slots, in words. -/
structure Placed (l : WordLayout) (bs : List BufferLayout) (ps : List (Nat × Attribute)) : Prop where
  buffers : l.buffers = bs.map fun b => ⟨(b.stride / 4).toUInt32, b.step⟩
  attributes : l.attributes = ps.map fun (slot, a) =>
    (a.location.toNat, ⟨slot, a.format, (a.offset / 4).toUInt32⟩)
  strides : ∀ b ∈ bs, IsWords b.stride
  offsets : ∀ p ∈ ps, IsWords p.2.offset
  distinct : (ps.map fun p => p.2.location.toNat).Nodup

variable {l l' : WordLayout} {bs : List BufferLayout} {ps : List (Nat × Attribute)}

/-- A whole number of words. -/
private theorem isWords_of_inWords? {bytes : UInt64} {words : UInt32} (hrest : bytes % 4 = 0)
    (h : inWords? bytes = some words) : IsWords bytes ∧ words = (bytes / 4).toUInt32 := by
  have hnat : bytes.toNat % 4 = 0 := by simpa using congrArg UInt64.toNat hrest
  unfold inWords? at h
  split at h
  · rename_i hlt
    refine ⟨⟨by omega, ?_⟩, (Option.some.inj h).symm⟩
    simpa [UInt64.lt_iff_toNat_lt] using hlt
  · exact nomatch h

/-- Adding an attribute places it, at a location that is not taken. -/
private theorem placed_addAttribute {slot : Nat} {a : Attribute} (hp : l.Placed bs ps)
    (h : l.addAttribute slot a = .ok l') : l'.Placed bs (ps ++ [(slot, a)]) := by
  unfold addAttribute at h
  split at h
  · exact nomatch h
  · rename_i hrest
    split at h
    · exact nomatch h
    · rename_i firstWord hwords
      split at h
      · exact nomatch h
      · split at h
        · exact nomatch h
        · rename_i hfree
          -- all four checks have passed: the offset is whole words that fit, the location is below
          -- the limit and free
          cases h
          obtain ⟨hoffset, rfl⟩ := isWords_of_inWords? (not_not.1 hrest) hwords
          -- a location that is taken would be found
          have hnew : a.location.toNat ∉ ps.map fun p => p.2.location.toNat := by
            intro hmem
            obtain ⟨p, hmem, hlocation⟩ := List.mem_map.1 hmem
            apply hfree
            rw [List.lookup_isSome_iff, hp.attributes]
            exact ⟨_, List.mem_map.2 ⟨p, hmem, rfl⟩, by simp [hlocation]⟩
          refine ⟨hp.buffers, ?_, hp.strides, ?_, ?_⟩
          · simp [hp.attributes]
          · intro p hmem
            rcases List.mem_append.1 hmem with hmem | hmem
            · exact hp.offsets p hmem
            · rw [List.mem_singleton.1 hmem]
              exact hoffset
          · rw [List.map_append, List.map_singleton]
            exact List.Nodup.append hp.distinct (List.nodup_singleton _)
              (List.disjoint_singleton.2 hnew)

/-- Adding attributes places all of them. -/
private theorem placed_addAttributes {slot : Nat} {as : List Attribute} (hp : l.Placed bs ps)
    (h : as.foldlM (addAttribute slot) l = .ok l') :
    l'.Placed bs (ps ++ as.map (slot, ·)) := by
  induction as generalizing l ps with
  | nil =>
    cases h
    simpa using hp
  | cons a rest ih =>
    rw [List.foldlM_cons] at h
    cases ha : l.addAttribute slot a with
    | error e =>
      rw [ha] at h
      exact nomatch h
    | ok l₁ =>
      rw [ha] at h
      simpa using ih (placed_addAttribute hp ha) h

/-- Adding a buffer places it and its attributes. -/
private theorem placed_addBuffer {b : BufferLayout} (hp : l.Placed bs ps)
    (h : l.addBuffer b = .ok l') :
    l'.Placed (bs ++ [b]) (ps ++ b.attributes.map (bs.length, ·)) := by
  unfold addBuffer at h
  simp only at h
  split at h
  · exact nomatch h
  · rename_i hrest
    split at h
    · exact nomatch h
    · rename_i stride hwords
      obtain ⟨hstride, rfl⟩ := isWords_of_inWords? (not_not.1 hrest) hwords
      have hlen : l.buffers.length = bs.length := by simp [hp.buffers]
      rw [hlen] at h
      -- first the buffer alone is placed, then its attributes at its slot
      have hp' : Placed { l with buffers := l.buffers ++ [⟨(b.stride / 4).toUInt32, b.step⟩] }
          (bs ++ [b]) ps := by
        refine ⟨by simp [hp.buffers], hp.attributes, fun b' hmem => ?_, hp.offsets, hp.distinct⟩
        rcases List.mem_append.1 hmem with hmem | hmem
        · exact hp.strides b' hmem
        · rw [List.mem_singleton.1 hmem]
          exact hstride
      exact placed_addAttributes hp' h

/-- Adding buffers places all of them. -/
private theorem placed_addBuffers {state : State} (hp : l.Placed bs ps)
    (h : state.foldlM addBuffer l = .ok l') :
    l'.Placed (bs ++ state) (ps ++ slotted state bs.length) := by
  induction state generalizing l bs ps with
  | nil =>
    cases h
    simpa [slotted] using hp
  | cons b rest ih =>
    rw [List.foldlM_cons] at h
    cases hb : l.addBuffer b with
    | error e =>
      rw [hb] at h
      exact nomatch h
    | ok l₁ =>
      rw [hb] at h
      simpa [slotted, List.zipIdx_cons] using ih (placed_addBuffer hp hb) h

/-- The layout of a state, buffer by buffer and attribute by attribute. -/
theorem placed_of_ofState {state : State} (h : ofState state = .ok l) :
    l.Placed state (slotted state 0) := by
  unfold ofState at h
  split at h
  · exact nomatch h
  · have hempty : ({} : WordLayout).Placed [] [] := ⟨rfl, rfl, nofun, nofun, List.nodup_nil⟩
    exact placed_addBuffers hempty h

/-- Looking up a location finds the attribute that is declared there. -/
theorem Placed.lookup_eq_some {state : State} (hp : l.Placed state (slotted state 0)) {location : Nat}
    {p : Placement} (h : l.attributes.lookup location = some p) :
    ∃ layout a, Declares state p.buffer layout a ∧ a.location.toNat = location ∧
      p.format = a.format ∧ p.firstWord = (a.offset / 4).toUInt32 := by
  obtain ⟨before, after, hsplit, _⟩ := List.lookup_eq_some_iff.1 h
  have hmem : (location, p) ∈ l.attributes := by simp [hsplit]
  rw [hp.attributes] at hmem
  obtain ⟨⟨slot, a⟩, hplaced, heq⟩ := List.mem_map.1 hmem
  obtain ⟨hlocation, rfl⟩ := Prod.mk.inj heq
  obtain ⟨layout, hdeclares⟩ := mem_slotted.1 hplaced
  exact ⟨layout, a, hdeclares, hlocation, rfl, rfl⟩

/-- At most one attribute is declared at a location. -/
theorem Placed.declares_unique {state : State} (hp : l.Placed state (slotted state 0))
    {slot slot' : Nat} {layout layout' : BufferLayout} {a a' : Attribute}
    (h : Declares state slot layout a) (h' : Declares state slot' layout' a')
    (heq : a.location = a'.location) : slot = slot' ∧ layout = layout' ∧ a = a' := by
  have hmem := mem_slotted.2 ⟨layout, h⟩
  have hmem' := mem_slotted.2 ⟨layout', h'⟩
  have hpair := List.inj_on_of_nodup_map hp.distinct hmem hmem' (by simp [heq])
  obtain ⟨rfl, rfl⟩ := Prod.mk.inj hpair
  exact ⟨rfl, Option.some.inj (h.slot.symm.trans h'.slot), rfl⟩

/-- The attribute that is declared at a location is found there. -/
theorem Placed.lookup_of_declares {state : State} (hp : l.Placed state (slotted state 0)) {slot : Nat}
    {layout : BufferLayout} {a : Attribute} (h : Declares state slot layout a) :
    ∃ p, l.attributes.lookup a.location.toNat = some p ∧ p.format = a.format := by
  have hmem : (a.location.toNat, ⟨slot, a.format, (a.offset / 4).toUInt32⟩) ∈ l.attributes := by
    rw [hp.attributes]
    exact List.mem_map.2 ⟨(slot, a), mem_slotted.2 ⟨layout, h⟩, rfl⟩
  have hsome : (l.attributes.lookup a.location.toNat).isSome = true :=
    List.lookup_isSome_iff.2 ⟨_, hmem, by simp⟩
  obtain ⟨p, hlookup⟩ := Option.isSome_iff_exists.1 hsome
  obtain ⟨layout', a', hdeclares, hlocation, hformat, _⟩ := hp.lookup_eq_some hlookup
  obtain ⟨_, _, rfl⟩ := hp.declares_unique hdeclares h (UInt32.toNat_inj.1 hlocation)
  exact ⟨p, hlookup, hformat⟩

/-- A buffer of the layout is one of the state in words. -/
theorem Placed.buffers_getElem? {state : State} (hp : l.Placed state (slotted state 0)) {slot : Nat}
    {layout : BufferLayout} (h : state[slot]? = some layout) :
    l.buffers[slot]? = some ⟨(layout.stride / 4).toUInt32, layout.step⟩ := by
  rw [hp.buffers, List.getElem?_map, h]
  rfl

/-- An attribute lies in one of the buffers. -/
theorem Placed.buffer_lt {state : State} (hp : l.Placed state (slotted state 0)) {location : Nat}
    {p : Placement} (h : l.attributes.lookup location = some p) : p.buffer < l.buffers.length := by
  obtain ⟨layout, a, hdeclares, _⟩ := hp.lookup_eq_some h
  exact (List.getElem?_eq_some_iff.1 (hp.buffers_getElem? hdeclares.slot)).1

end WordLayout

/-- A byte count in words is a quarter of it. -/
theorem IsWords.toNat_eq {bytes : UInt64} (h : IsWords bytes) :
    4 * (bytes / 4).toUInt32.toNat = bytes.toNat := by
  obtain ⟨⟨k, hk⟩, hlt⟩ := h
  have hsize : UInt32.size = 4294967296 := rfl
  simp
  omega

/-! ### Which states have a layout -/

/-- An attribute can be placed: it starts at a whole word, and its location is below the limit. -/
structure Attribute.Placeable (a : Attribute) : Prop where
  offset : IsWords a.offset
  location : a.location.toNat < Limits.vertexAttributes

/-- The attributes of all buffers. -/
def State.attributes (state : State) : List Attribute := state.flatMap (·.attributes)

/-- A state can be placed: it has no more buffers than the limit, its strides are whole words, and its
attributes can be placed, each at a location of its own. -/
structure State.Placeable (state : State) : Prop where
  buffers : state.length ≤ Limits.vertexBuffers
  strides : ∀ b ∈ state, IsWords b.stride
  attributes : ∀ a ∈ State.attributes state, a.Placeable
  distinct : ((State.attributes state).map fun a => a.location.toNat).Nodup

/-- What is a number of words can be counted in words, and nothing else. -/
theorem isWords_iff {bytes : UInt64} :
    IsWords bytes ↔ bytes % 4 = 0 ∧ ∃ words, inWords? bytes = some words := by
  constructor
  · rintro ⟨hdvd, hlt⟩
    have hlt : bytes / 4 < 0x100000000 := by simpa [UInt64.lt_iff_toNat_lt] using hlt
    refine ⟨?_, (bytes / 4).toUInt32, if_pos hlt⟩
    rw [← UInt64.toNat_inj]
    simpa using Nat.mod_eq_zero_of_dvd hdvd
  · rintro ⟨hrest, words, hwords⟩
    exact (WordLayout.isWords_of_inWords? hrest hwords).1

namespace WordLayout

variable {l : WordLayout} {state : State}

/-- The locations that are taken. -/
def locations (l : WordLayout) : List Nat := l.attributes.map (·.1)

theorem lookup_isSome_iff {location : Nat} :
    (l.attributes.lookup location).isSome = true ↔ location ∈ l.locations := by
  simp only [List.lookup_isSome_iff, locations, List.mem_map, beq_iff_eq]
  exact exists_congr fun p => and_congr_right fun _ => eq_comm

/-- A step adds what has a property, and that takes locations, which have to be free and all different. -/
structure Adds {α : Type} (step : WordLayout → α → Except PullingError WordLayout) (P : α → Prop)
    (taken : α → List Nat) : Prop where
  locations : ∀ {l x l'}, step l x = .ok l' → l'.locations = l.locations ++ taken x
  ok_iff : ∀ {l x}, l.locations.Nodup →
    ((∃ l', step l x = .ok l') ↔ P x ∧ (l.locations ++ taken x).Nodup)

/-- What a step adds one by one can be added as a list. -/
theorem Adds.foldlM {α : Type} {step : WordLayout → α → Except PullingError WordLayout} {P : α → Prop}
    {taken : α → List Nat} (h : Adds step P taken) :
    Adds (fun l (xs : List α) => xs.foldlM step l) (fun xs => ∀ x ∈ xs, P x)
      (fun xs => xs.flatMap taken) where
  locations := by
    intro l xs l' hfold
    induction xs generalizing l with
    | nil =>
      cases hfold
      simp
    | cons x xs ih =>
      rw [List.foldlM_cons] at hfold
      obtain ⟨next, hnext, hrest⟩ := Except.bind_eq_ok_iff.1 hfold
      rw [ih hrest, h.locations hnext, List.flatMap_cons, List.append_assoc]
  ok_iff := by
    intro l xs hl
    -- the first is added to what is there, and the rest to what that leaves
    induction xs generalizing l with
    | nil => simpa [pure, Except.pure] using hl
    | cons x xs ih =>
      simp only [List.foldlM_cons, Except.bind_eq_ok_iff, List.forall_mem_cons, List.flatMap_cons,
        ← List.append_assoc]
      constructor
      · rintro ⟨l', next, hnext, hrest⟩
        obtain ⟨hx, hnew⟩ := (h.ok_iff hl).1 ⟨next, hnext⟩
        rw [← h.locations hnext] at hnew ⊢
        obtain ⟨hall, hdistinct⟩ := (ih hnew).1 ⟨l', hrest⟩
        exact ⟨⟨hx, hall⟩, hdistinct⟩
      · rintro ⟨⟨hx, hall⟩, hdistinct⟩
        obtain ⟨next, hnext⟩ := (h.ok_iff hl).2 ⟨hx, hdistinct.of_append_left⟩
        rw [← h.locations hnext] at hdistinct
        obtain ⟨l', hrest⟩ := (ih hdistinct.of_append_left).2 ⟨hall, hdistinct⟩
        exact ⟨l', next, hnext, hrest⟩

/-- An attribute is added if it can be placed and its location is free. -/
theorem addAttribute_adds (slot : Nat) :
    Adds (addAttribute slot) Attribute.Placeable (fun a => [a.location.toNat]) where
  locations := by
    intro l a l' h
    unfold addAttribute at h
    split at h
    · exact nomatch h
    split at h
    · exact nomatch h
    split at h
    · exact nomatch h
    split at h
    · exact nomatch h
    cases h
    simp [locations]
  ok_iff := by
    intro l a hl
    -- the lookup finds exactly the locations that are taken
    have hfree : (l.locations ++ [a.location.toNat]).Nodup ↔
        ¬ (l.attributes.lookup a.location.toNat).isSome = true := by
      rw [lookup_isSome_iff, List.nodup_append']
      simp [hl]
    unfold addAttribute
    constructor
    · rintro ⟨l', h⟩
      split at h
      · exact nomatch h
      rename_i hrest
      split at h
      · exact nomatch h
      rename_i words hwords
      split at h
      · exact nomatch h
      rename_i hlimit
      split at h
      · exact nomatch h
      rename_i hnone
      exact ⟨⟨isWords_iff.2 ⟨not_not.1 hrest, words, hwords⟩, Nat.not_le.1 hlimit⟩, hfree.2 hnone⟩
    · rintro ⟨⟨hoffset, hlocation⟩, hdistinct⟩
      obtain ⟨hrest, words, hwords⟩ := isWords_iff.1 hoffset
      rw [if_neg (not_not.2 hrest), hwords]
      dsimp only
      rw [if_neg (Nat.not_le.2 hlocation), if_neg (hfree.1 hdistinct)]
      exact ⟨_, rfl⟩

/-- A buffer is added if its stride is whole words and its attributes can be added. -/
theorem addBuffer_adds : Adds addBuffer
    (fun b => IsWords b.stride ∧ ∀ a ∈ b.attributes, a.Placeable)
    (fun b => b.attributes.flatMap fun a => [a.location.toNat]) where
  locations := by
    intro l b l' h
    unfold addBuffer at h
    dsimp only at h
    split at h
    · exact nomatch h
    split at h
    · exact nomatch h
    rename_i stride _
    exact (addAttribute_adds _).foldlM.locations (l := { l with buffers := l.buffers ++ [⟨stride, b.step⟩] })
      h
  ok_iff := by
    intro l b hl
    -- behind the buffer its attributes are added, whatever number of words its stride has
    have hattributes (stride : UInt32) := (addAttribute_adds l.buffers.length).foldlM.ok_iff
      (l := { l with buffers := l.buffers ++ [⟨stride, b.step⟩] }) (x := b.attributes) hl
    unfold addBuffer
    dsimp only
    constructor
    · rintro ⟨l', h⟩
      split at h
      · exact nomatch h
      rename_i hrest
      split at h
      · exact nomatch h
      rename_i words hwords
      obtain ⟨hall, hdistinct⟩ := (hattributes words).1 ⟨l', h⟩
      exact ⟨⟨isWords_iff.2 ⟨not_not.1 hrest, words, hwords⟩, hall⟩, hdistinct⟩
    · rintro ⟨⟨hstride, hall⟩, hdistinct⟩
      obtain ⟨hrest, words, hwords⟩ := isWords_iff.1 hstride
      rw [if_neg (not_not.2 hrest), hwords]
      exact (hattributes words).2 ⟨hall, hdistinct⟩

/-- A state has a layout exactly if it can be placed. -/
theorem ofState_ok_iff : (∃ l, ofState state = .ok l) ↔ state.Placeable := by
  have hbuffers := addBuffer_adds.foldlM.ok_iff (l := {}) (x := state) List.nodup_nil
  -- what all buffers take together are the locations of all attributes
  have htaken : ({} : WordLayout).locations ++ state.flatMap (fun b =>
      b.attributes.flatMap fun a => [a.location.toNat]) = state.attributes.map (·.location.toNat) := by
    rw [List.map_eq_flatMap, State.attributes, List.flatMap_assoc]
    rfl
  have hattributes : (∀ a ∈ state.attributes, a.Placeable) ↔
      ∀ b ∈ state, ∀ a ∈ b.attributes, a.Placeable := by
    simp only [State.attributes, List.mem_flatMap]
    grind
  rw [htaken] at hbuffers
  unfold ofState
  constructor
  · intro h
    split at h
    · exact nomatch h
    rename_i hlimit
    obtain ⟨hall, hdistinct⟩ := hbuffers.1 h
    exact ⟨Nat.not_lt.1 hlimit, fun b hb => (hall b hb).1,
      hattributes.2 fun b hb => (hall b hb).2, hdistinct⟩
  · rintro ⟨hlimit, hstrides, hall, hdistinct⟩
    rw [if_neg (Nat.not_lt.2 hlimit)]
    exact hbuffers.2 ⟨fun b hb => ⟨hstrides b hb, hattributes.1 hall b hb⟩, hdistinct⟩

end WordLayout

end ShaderKit.Vertex
