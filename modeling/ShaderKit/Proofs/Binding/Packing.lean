import Mathlib.Data.List.Nodup
import ShaderKit.Binding.Layout
import ShaderKit.Proofs.Binding.NumberMap
import ShaderKit.Proofs.Std.List

/-!
# Packing a bind group layout

Building a group layout fails exactly if a binding number occurs twice, and otherwise sorts the entries
into runs: buffers with a dynamic offset, other buffers, what is no buffer; among the buffers of each kind
those with a pinned size first; each run by binding number.  The order in which the entries are given plays
no part, neither in the layout nor in the binding number that is reported.

## Key results

- `exists_ofEntries_eq_ok`, `nodup_of_ofEntries`: a group layout can be built exactly if no binding number
  occurs twice
- `perm_of_ofEntries`: the layout has the entries that were given
- `ofEntries_of_perm`: the order in which they were given plays no part
- `ofEntries_packs`: what comes of building a group layout
-/

namespace ShaderKit

namespace LayoutEntry

variable {a b : LayoutEntry}

/-! ## Entries in packing order -/

/-- The two entries belong to one run: neither is a buffer, or both are, with or without dynamic offsets,
and with or without pinned sizes. -/
def SameRun (a b : LayoutEntry) : Prop :=
  a.isBuffer = b.isBuffer ∧
    (a.isBuffer = true → a.dynamicOffset = b.dynamicOffset ∧ (a.minSize = 0 ↔ b.minSize = 0))

theorem packsBefore_iff : a.packsBefore b = true ↔
    a.packingRun < b.packingRun ∨ a.packingRun = b.packingRun ∧ a.binding ≤ b.binding := by
  simp [packsBefore]

theorem packingRun_of_buffer (h : a.isBuffer = true) :
    a.packingRun = (if a.dynamicOffset then 0 else 2) + if a.minSize = 0 then 1 else 0 := by
  simp [packingRun, isDynamicBuffer, isUnverifiedBuffer, h]

theorem packingRun_of_not_buffer (h : a.isBuffer = false) : a.packingRun = 6 := by
  simp [packingRun, isDynamicBuffer, isUnverifiedBuffer, h]

theorem SameRun.packingRun_eq (h : a.SameRun b) : a.packingRun = b.packingRun := by
  obtain ⟨hbuffer, hrun⟩ := h
  cases ha : a.isBuffer with
  | false =>
    have hb : b.isBuffer = false := hbuffer.symm.trans ha
    rw [packingRun_of_not_buffer ha, packingRun_of_not_buffer hb]
  | true =>
    have hb : b.isBuffer = true := hbuffer.symm.trans ha
    obtain ⟨hdynamic, hpinned⟩ := hrun ha
    rw [packingRun_of_buffer ha, packingRun_of_buffer hb, hdynamic]
    simp only [hpinned]

/-- Only buffers are packed before a buffer. -/
theorem isBuffer_of_packsBefore (h : a.packsBefore b = true) (hb : b.isBuffer = true) :
    a.isBuffer = true := by
  -- the runs of buffers come before the one run of everything else
  by_contra ha
  have hrunA : a.packingRun = 6 := packingRun_of_not_buffer (Bool.not_eq_true _ ▸ ha)
  have hrunB : b.packingRun ≤ 3 := by
    rw [packingRun_of_buffer hb]
    split <;> split <;> omega
  rw [packsBefore_iff] at h
  omega

/-- Only buffers with a dynamic offset are packed before one. -/
theorem isDynamicBuffer_of_packsBefore (h : a.packsBefore b = true)
    (hb : b.isDynamicBuffer = true) : a.isDynamicBuffer = true := by
  obtain ⟨hbufferB, hdynamicB⟩ : b.isBuffer = true ∧ b.dynamicOffset = true := by
    simpa [isDynamicBuffer] using hb
  have hbufferA : a.isBuffer = true := isBuffer_of_packsBefore h hbufferB
  have hrunB : b.packingRun ≤ 1 := by
    rw [packingRun_of_buffer hbufferB, if_pos hdynamicB]
    split <;> omega
  -- buffers without a dynamic offset are in the runs from 2 on
  by_contra ha
  have hdynamicA : ¬ a.dynamicOffset = true := by simpa [isDynamicBuffer, hbufferA] using ha
  have hrunA : 2 ≤ a.packingRun := by
    rw [packingRun_of_buffer hbufferA, if_neg hdynamicA]
    omega
  rw [packsBefore_iff] at h
  omega

end LayoutEntry

variable {entries entries' : List LayoutEntry}

/-- The binding numbers in packing order do not depend on the order in which entries are given. -/
theorem bindings_mergeSort_of_perm (h : entries.Perm entries') :
    (entries.mergeSort LayoutEntry.packsBefore).map (·.binding) =
      (entries'.mergeSort LayoutEntry.packsBefore).map (·.binding) := by
  -- entries of one run and number may differ, so their keys are compared
  let key (e : LayoutEntry) : Nat × Nat := (e.packingRun, e.binding)
  let before (x y : Nat × Nat) : Prop := x.1 < y.1 ∨ x.1 = y.1 ∧ x.2 ≤ y.2
  have hsorted (l : List LayoutEntry) :
      ((l.mergeSort LayoutEntry.packsBefore).map key).Pairwise before := by
    have hpacked := List.pairwise_mergeSort LayoutEntry.packsBefore_trans
      LayoutEntry.packsBefore_total l
    exact List.pairwise_map.2 (hpacked.imp LayoutEntry.packsBefore_iff.1)
  have hperm : ((entries.mergeSort LayoutEntry.packsBefore).map key).Perm
      ((entries'.mergeSort LayoutEntry.packsBefore).map key) :=
    (((List.mergeSort_perm ..).trans h).trans (List.mergeSort_perm ..).symm).map key
  have hkeys := hperm.eq_of_pairwise (fun x y _ _ hxy hyx => by
    have hfirst : x.1 = y.1 := by omega
    have hsecond : x.2 = y.2 := by omega
    exact Prod.ext hfirst hsecond) (hsorted entries) (hsorted entries')
  have hbindings := congrArg (List.map Prod.snd) hkeys
  simpa [key, Function.comp_def] using hbindings

/-- Without repeated binding numbers packing does not depend on the order in which entries are given. -/
theorem mergeSort_of_perm (h : entries.Perm entries') (hnodup : (entries.map (·.binding)).Nodup) :
    entries.mergeSort LayoutEntry.packsBefore = entries'.mergeSort LayoutEntry.packsBefore := by
  have hsorted (l : List LayoutEntry) := List.pairwise_mergeSort LayoutEntry.packsBefore_trans
    LayoutEntry.packsBefore_total l
  have hperm := ((List.mergeSort_perm entries LayoutEntry.packsBefore).trans h).trans
    (List.mergeSort_perm entries' LayoutEntry.packsBefore).symm
  -- entries that pack before each other have one number, so they are one entry
  refine hperm.eq_of_pairwise (fun a b ha hb hab hba => ?_) (hsorted entries) (hsorted entries')
  rw [LayoutEntry.packsBefore_iff] at hab hba
  have hbinding : a.binding = b.binding := by omega
  exact List.inj_on_of_nodup_map hnodup (List.mem_mergeSort.1 ha)
    (h.mem_iff.2 (List.mem_mergeSort.1 hb)) hbinding

/-! ## Numbering entries -/

/-- Numbering succeeds where no number occurs twice or is there already. -/
theorem exists_indexFrom_eq_ok (i : Nat) (index : NumberMap Nat)
    (hnodup : (entries.map (·.binding)).Nodup)
    (hfree : ∀ e ∈ entries, index.find? e.binding = none) :
    ∃ index', indexFrom i index entries = .ok index' := by
  -- numbering puts the first number into the index, so the invariant has to speak of any index
  induction entries generalizing i index with
  | nil => exact ⟨index, rfl⟩
  | cons e rest ih =>
    simp only [List.map_cons, List.nodup_cons] at hnodup
    have hnew : index.contains e.binding = false := by
      simp [NumberMap.contains, hfree e (by simp)]
    have hrest : ∀ e' ∈ rest, (index.insert e.binding i).find? e'.binding = none := by
      intro e' he'
      have hne : e'.binding ≠ e.binding := fun heq => hnodup.1 (List.mem_map.2 ⟨e', he', heq⟩)
      rw [NumberMap.find?_insert_of_ne _ _ hne, hfree e' (by simp [he'])]
    obtain ⟨index', hindex'⟩ := ih (i + 1) _ hnodup.2 hrest
    exact ⟨index', by simp [indexFrom, hnew, hindex']⟩

/-- Where numbering fails, the number that is reported was there already, or it occurs twice. -/
theorem repeated_of_indexFrom {i b : Nat} {index : NumberMap Nat}
    (h : indexFrom i index entries = .error (.duplicateBinding b)) :
    index.contains b = true ∧ b ∈ entries.map (·.binding) ∨ 1 < (entries.map (·.binding)).count b := by
  induction entries generalizing i index with
  | nil => exact nomatch h
  | cons e rest ih =>
    unfold indexFrom at h
    -- either the first number is there already, or the rest fails over an index with that number
    split at h
    · rename_i hold
      cases h
      exact .inl ⟨hold, by simp⟩
    rw [List.map_cons, List.mem_cons, List.count_cons]
    rcases ih h with ⟨hold, hmem⟩ | htwice
    -- a number of the rest that the index has is an old one, or that of the first entry
    · by_cases hb : b = e.binding
      · have hpos := List.count_pos_iff.2 hmem
        exact .inr (by simp [hb] at hpos ⊢; omega)
      · rw [NumberMap.contains, NumberMap.find?_insert_of_ne _ _ hb] at hold
        exact .inl ⟨hold, .inr hmem⟩
    · exact .inr (by omega)

/-- Numbering looks at nothing but the binding numbers. -/
theorem indexFrom_of_bindings_eq (i : Nat) (index : NumberMap Nat)
    (h : entries.map (·.binding) = entries'.map (·.binding)) :
    indexFrom i index entries = indexFrom i index entries' := by
  induction entries generalizing i index entries' with
  | nil =>
    rw [List.map_nil, eq_comm, List.map_eq_nil_iff] at h
    rw [h]
  | cons e rest ih =>
    cases entries' with
    | nil => exact nomatch h
    | cons e' rest' =>
      simp only [List.map_cons, List.cons.injEq] at h
      obtain ⟨hfirst, hrest⟩ := h
      unfold indexFrom
      rw [hfirst, ih _ _ hrest]

/-! ## Group layouts -/

namespace GroupLayout

variable {layout layout' : GroupLayout}

/-- The index of a group layout is determined by its binding numbers. -/
theorem index_eq_of_bindings
    (h : layout'.entries.map (·.binding) = layout.entries.map (·.binding)) :
    layout'.index = layout.index := by
  have hindexed (l : GroupLayout) (b i : Nat) :
      l.index.find? b = some i ↔ (l.entries.map (·.binding))[i]? = some b := by
    rw [l.indexed, List.getElem?_map, Option.map_eq_some_iff]
  refine NumberMap.ext_find? fun b i => ?_
  rw [hindexed, hindexed, h]

/-- A group layout is determined by its entries. -/
theorem eq_of_entries_eq (h : layout'.entries = layout.entries) : layout' = layout := by
  have hindex : layout'.index = layout.index := index_eq_of_bindings (by rw [h])
  cases layout
  cases layout'
  cases h
  cases hindex
  rfl

theorem ofEntries_eq_ok_iff : ofEntries entries = .ok layout ↔
    entries.mergeSort LayoutEntry.packsBefore = layout.entries ∧
      indexFrom 0 .empty (entries.mergeSort LayoutEntry.packsBefore) = .ok layout.index := by
  unfold ofEntries
  dsimp only
  constructor
  · intro h
    split at h
    · exact nomatch h
    · rename_i index hindex
      cases h
      exact ⟨rfl, hindex⟩
  · rintro ⟨hentries, hindex⟩
    split
    · rename_i e he
      exact nomatch hindex.symm.trans he
    · rename_i index hindex'
      -- the index that was built is that of the layout, and no other field is left
      obtain rfl := Except.ok.inj (hindex.symm.trans hindex')
      cases layout
      cases hentries
      rfl

theorem ofEntries_eq_error_iff {e : LayoutError} : ofEntries entries = .error e ↔
    indexFrom 0 .empty (entries.mergeSort LayoutEntry.packsBefore) = .error e := by
  unfold ofEntries
  dsimp only
  split
  · rename_i e' he'
    simp only [he', Except.error.injEq]
  · rename_i index hindex
    simp only [hindex, reduceCtorEq]

/-- A group layout can be built if no binding number occurs twice. -/
theorem exists_ofEntries_eq_ok (hnodup : (entries.map (·.binding)).Nodup) :
    ∃ layout, ofEntries entries = .ok layout := by
  have hperm := List.mergeSort_perm entries LayoutEntry.packsBefore
  obtain ⟨index, hindex⟩ := exists_indexFrom_eq_ok 0 .empty
    ((hperm.map (·.binding)).nodup_iff.2 hnodup) (by simp)
  cases hbuilt : ofEntries entries with
  | ok layout => exact ⟨layout, rfl⟩
  | error e => exact nomatch hindex.symm.trans (ofEntries_eq_error_iff.1 hbuilt)

/-- A group layout has the entries that it was built from. -/
theorem perm_of_ofEntries (h : ofEntries entries = .ok layout) : layout.entries.Perm entries := by
  rw [← (ofEntries_eq_ok_iff.1 h).1]
  exact List.mergeSort_perm entries LayoutEntry.packsBefore

/-- No binding number occurs twice. -/
theorem nodup_bindings : (layout.entries.map (·.binding)).Nodup := by
  rw [List.nodup_iff_injective_getElem]
  rintro ⟨i, hi⟩ ⟨j, hj⟩ heq
  simp only [List.length_map] at hi hj
  simp only [List.getElem_map] at heq
  -- the index would give one number two places
  have hfi := (layout.indexed _ i).2 ⟨_, List.getElem?_eq_getElem hi, rfl⟩
  have hfj := (layout.indexed _ j).2 ⟨_, List.getElem?_eq_getElem hj, heq.symm⟩
  exact Fin.ext (Option.some.inj (hfi.symm.trans hfj))

/-- A group layout cannot be built from entries in which a binding number occurs twice. -/
theorem nodup_of_ofEntries (h : ofEntries entries = .ok layout) :
    (entries.map (·.binding)).Nodup :=
  ((perm_of_ofEntries h).map (·.binding)).nodup_iff.1 nodup_bindings

/-- From its own entries a group layout is built again. -/
theorem ofEntries_entries (layout : GroupLayout) : ofEntries layout.entries = .ok layout := by
  have hpacked : layout.entries.mergeSort LayoutEntry.packsBefore = layout.entries :=
    List.mergeSort_of_pairwise layout.packed
  obtain ⟨built, hbuilt⟩ := exists_ofEntries_eq_ok layout.nodup_bindings
  have hentries : built.entries = layout.entries := (ofEntries_eq_ok_iff.1 hbuilt).1.symm.trans hpacked
  rw [hbuilt, eq_of_entries_eq hentries]

/-- The order in which entries are given plays no part. -/
theorem ofEntries_of_perm (h : entries'.Perm entries) : ofEntries entries' = ofEntries entries := by
  have hindex := indexFrom_of_bindings_eq 0 .empty (bindings_mergeSort_of_perm h)
  cases hbuilt : ofEntries entries with
  | error e => rw [ofEntries_eq_error_iff, hindex, ofEntries_eq_error_iff.1 hbuilt]
  | ok layout =>
    -- without repeated numbers no two entries have the same place, so the sorted lists are the same
    have hpacked := mergeSort_of_perm h.symm (nodup_of_ofEntries hbuilt)
    rw [ofEntries_eq_ok_iff, ← hpacked]
    exact ofEntries_eq_ok_iff.1 hbuilt

/-- An entry of an earlier run has a lower index. -/
theorem lt_of_packingRun_lt {i j : Nat} {a b : LayoutEntry} (ha : layout.entries[i]? = some a)
    (hb : layout.entries[j]? = some b) (h : a.packingRun < b.packingRun) : i < j := by
  obtain ⟨hi, rfl⟩ := List.getElem?_eq_some_iff.1 ha
  obtain ⟨hj, rfl⟩ := List.getElem?_eq_some_iff.1 hb
  by_contra hle
  -- a lower index of the later run would go against the order of packing
  rcases Nat.lt_or_eq_of_le (Nat.le_of_not_lt hle) with hlt | rfl
  · have hpacks := List.pairwise_iff_getElem.1 layout.packed j i hj hi hlt
    rw [LayoutEntry.packsBefore_iff] at hpacks
    omega
  · omega

/-- Of two entries of one run the one with the lower index has the lower binding number. -/
theorem binding_lt_of_lt {i j : Nat} {a b : LayoutEntry} (ha : layout.entries[i]? = some a)
    (hb : layout.entries[j]? = some b) (hrun : a.packingRun = b.packingRun) (hlt : i < j) :
    a.binding < b.binding := by
  obtain ⟨hi, rfl⟩ := List.getElem?_eq_some_iff.1 ha
  obtain ⟨hj, rfl⟩ := List.getElem?_eq_some_iff.1 hb
  have hpacks := List.pairwise_iff_getElem.1 layout.packed i j hi hj hlt
  have hne := List.pairwise_iff_getElem.1 (List.pairwise_map.1 nodup_bindings) i j hi hj hlt
  rw [LayoutEntry.packsBefore_iff] at hpacks
  omega

/-- How a group layout stores the entries that it was built from. -/
structure Packs (layout : GroupLayout) (entries : List LayoutEntry) : Prop where
  perm : layout.entries.Perm entries
  /-- The buffers have the lowest indices. -/
  buffers : ∀ i, i < layout.bufferCount ↔
    ∃ e, layout.entries[i]? = some e ∧ e.isBuffer = true
  /-- Among them, those with a dynamic offset have the lowest. -/
  dynamicBuffers : ∀ i, i < layout.dynamicBufferCount ↔
    ∃ e, layout.entries[i]? = some e ∧ e.isBuffer = true ∧ e.dynamicOffset = true
  /-- Of the buffers with a dynamic offset, and of the others, those with a pinned size come first. -/
  pinned : ∀ (i j : Nat) (a b : LayoutEntry), layout.entries[i]? = some a → layout.entries[j]? = some b →
    a.isBuffer = true → b.isBuffer = true → a.dynamicOffset = b.dynamicOffset →
    a.minSize ≠ 0 → b.minSize = 0 → i < j
  ascending : ∀ (i j : Nat) (a b : LayoutEntry), layout.entries[i]? = some a → layout.entries[j]? = some b →
    a.SameRun b → i < j → a.binding < b.binding
  unverified : layout.unverifiedBufferCount =
    entries.countP fun e => e.isBuffer && decide (e.minSize = 0)
  /-- The binding numbers of the entries have an index, and no other ones. -/
  numbers : ∀ b, (∃ i, layout.index.find? b = some i) ↔ ∃ e ∈ entries, e.binding = b
  /-- An index is that of one binding number, and so are no other ones. -/
  indices : ∀ i, i < layout.entries.length ↔ ∃! b, layout.index.find? b = some i
  found : ∀ b i, layout.index.find? b = some i → ∃ e, layout.entries[i]? = some e ∧ e.binding = b

/-- A group layout packs the entries that it was built from. -/
theorem packs_of_ofEntries (h : ofEntries entries = .ok layout) : layout.Packs entries where
  perm := perm_of_ofEntries h
  -- nothing but buffers is packed before a buffer, so their count is where they end
  buffers := List.lt_countP_iff (layout.packed.imp LayoutEntry.isBuffer_of_packsBefore)
  dynamicBuffers i := by
    rw [dynamicBufferCount,
      List.lt_countP_iff (layout.packed.imp LayoutEntry.isDynamicBuffer_of_packsBefore)]
    simp only [LayoutEntry.isDynamicBuffer, Bool.and_eq_true]
  pinned i j a b ha hb hbufferA hbufferB hdynamic hpinned hopen := by
    refine lt_of_packingRun_lt ha hb ?_
    rw [LayoutEntry.packingRun_of_buffer hbufferA, LayoutEntry.packingRun_of_buffer hbufferB, hdynamic,
      if_neg hpinned, if_pos hopen]
    omega
  ascending i j a b ha hb hrun hlt := binding_lt_of_lt ha hb hrun.packingRun_eq hlt
  unverified := by
    rw [unverifiedBufferCount, (perm_of_ofEntries h).countP_eq]
    rfl
  -- an index is that of an entry, and the entries are those that were given
  numbers b := by
    simp only [layout.indexed, ← (perm_of_ofEntries h).mem_iff, List.mem_iff_getElem?]
    constructor
    · rintro ⟨i, e, he, hbinding⟩
      exact ⟨e, ⟨i, he⟩, hbinding⟩
    · rintro ⟨e, ⟨i, he⟩, hbinding⟩
      exact ⟨i, e, he, hbinding⟩
  indices i := by
    simp only [layout.indexed]
    constructor
    · intro hlt
      refine ⟨_, ⟨_, List.getElem?_eq_getElem hlt, rfl⟩, ?_⟩
      rintro b ⟨e, he, rfl⟩
      rw [List.getElem?_eq_getElem hlt] at he
      rw [Option.some.inj he]
    · rintro ⟨b, ⟨e, he, -⟩, -⟩
      exact (List.getElem?_eq_some_iff.1 he).1
  found b i hfind := (layout.indexed b i).1 hfind

/-- A group layout cannot be built exactly if a binding number occurs twice; one such number is reported
then.  In whatever order the entries are given, the layout is the same, and so is the number that is
reported.  The layout has its entries in packing order, and an index for each binding number. -/
theorem ofEntries_packs (entries : List LayoutEntry) :
    ((∃ b, ofEntries entries = .error (.duplicateBinding b)) ↔
      ¬ (entries.map (·.binding)).Nodup) ∧
    (∀ b, ofEntries entries = .error (.duplicateBinding b) →
      1 < (entries.map (·.binding)).count b) ∧
    (∀ entries', entries'.Perm entries → ofEntries entries' = ofEntries entries) ∧
    ∀ layout, ofEntries entries = .ok layout → layout.Packs entries := by
  refine ⟨⟨fun ⟨b, hb⟩ hnodup => ?_, fun hrepeated => ?_⟩, fun b hb => ?_,
    fun entries' hperm => ofEntries_of_perm hperm, fun layout hbuilt => packs_of_ofEntries hbuilt⟩
  -- without repeated numbers building succeeds
  · obtain ⟨layout, hbuilt⟩ := exists_ofEntries_eq_ok hnodup
    exact nomatch hb.symm.trans hbuilt
  -- what is built has no repeated numbers
  · cases hbuilt : ofEntries entries with
    | ok layout => exact absurd (nodup_of_ofEntries hbuilt) hrepeated
    | error e =>
      obtain ⟨b⟩ := e
      exact ⟨b, rfl⟩
  -- numbering starts from an empty index, so the number that is reported occurs twice
  · have hperm := (List.mergeSort_perm entries LayoutEntry.packsBefore).map (·.binding)
    rcases repeated_of_indexFrom (ofEntries_eq_error_iff.1 hb) with ⟨hold, -⟩ | htwice
    · simp [NumberMap.contains] at hold
    · rwa [hperm.count_eq] at htwice

end GroupLayout

end ShaderKit
