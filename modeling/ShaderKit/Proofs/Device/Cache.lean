import Mathlib.Data.List.Nodup
import ShaderKit.Device.Cache
import ShaderKit.Proofs.Std.List

/-!
# Buckets of the module cache

What a lookup, an insertion and a removal do to the bucket of each hash.

## Key results

- `bucket_insert`, `bucket_remove`: only the bucket of the hash changes, by one module
- `Tidy`: one bucket for each hash, none of them empty; kept by insertions and removals
- `lookup_eq_some`, `lookup_eq_none`: a lookup finds a module with the given words if the bucket has one
- `stats_of_lookup_eq_some`, `stats_of_lookup_eq_none`: what a lookup counts
- `size_insert`, `Tidy.size_remove`: what insertions and removals do to the number of modules
-/

namespace ShaderKit.ModuleCache

open Spirv (Word)

/-- Each hash has one bucket at most, and each bucket has modules, none of them twice. -/
structure Tidy (c : ModuleCache) : Prop where
  keys : (c.buckets.map (·.1)).Nodup
  filled : ∀ b ∈ c.buckets, b.2 ≠ []
  once : ∀ hash, (c.bucket hash).Nodup

/-! ## Filing and unfiling -/

section Buckets

variable {hash h : UInt64} {id : ModuleId} {buckets : List (UInt64 × List ModuleId)}

private theorem lookup_file : (file hash id buckets).lookup h =
    if h = hash then some ((buckets.lookup hash).getD [] ++ [id]) else buckets.lookup h := by
  induction buckets with
  | nil =>
    rw [file, List.lookup_cons_ite]
    rfl
  | cons b rest ih =>
    unfold file
    -- the module goes into the first bucket with its hash, or into a new one at the end
    by_cases hb : b.1 = hash
    · rw [if_pos hb, List.lookup_cons_ite, List.lookup_cons_ite, List.lookup_cons_ite,
        if_pos hb.symm, hb]
      split <;> rfl
    · rw [if_neg hb, List.lookup_cons_ite, List.lookup_cons_ite, List.lookup_cons_ite, ih,
        if_neg (Ne.symm hb)]
      by_cases hh : h = b.1
      · rw [if_pos hh, if_pos hh, if_neg (hh ▸ hb)]
      · rw [if_neg hh, if_neg hh]

private theorem mem_keys_file {k : UInt64} (hk : k ∈ (file hash id buckets).map (·.1)) :
    k = hash ∨ k ∈ buckets.map (·.1) := by
  induction buckets with
  | nil => exact .inl (by simpa [file] using hk)
  | cons b rest ih =>
    unfold file at hk
    split at hk
    · exact .inr (by simpa using hk)
    · rw [List.map_cons, List.mem_cons] at hk
      rcases hk with hk | hk
      · exact .inr (by simp [hk])
      · exact (ih hk).imp_right fun hk => by simp [List.mem_map.1 hk]

private theorem nodup_keys_file (hkeys : (buckets.map (·.1)).Nodup) :
    ((file hash id buckets).map (·.1)).Nodup := by
  induction buckets with
  | nil => simp [file]
  | cons b rest ih =>
    rw [List.map_cons, List.nodup_cons] at hkeys
    unfold file
    split
    · rw [List.map_cons, List.nodup_cons]
      exact hkeys
    · rename_i hne
      rw [List.map_cons, List.nodup_cons]
      -- a key of the filed rest is the hash, which this bucket does not have, or an old key
      refine ⟨fun hmem => ?_, ih hkeys.2⟩
      rcases mem_keys_file hmem with heq | hmem
      · exact hne heq
      · exact hkeys.1 hmem

private theorem filled_file (hfilled : ∀ b ∈ buckets, b.2 ≠ []) :
    ∀ b ∈ file hash id buckets, b.2 ≠ [] := by
  induction buckets with
  | nil => simp [file]
  | cons b rest ih =>
    rw [List.forall_mem_cons] at hfilled
    unfold file
    split
    · exact List.forall_mem_cons.2 ⟨by simp, hfilled.2⟩
    · exact List.forall_mem_cons.2 ⟨hfilled.1, ih hfilled.2⟩

private theorem lookup_unfile (hkeys : (buckets.map (·.1)).Nodup) :
    ((unfile hash id buckets).lookup h).getD [] =
      if h = hash then ((buckets.lookup hash).getD []).filter (· != id)
      else (buckets.lookup h).getD [] := by
  induction buckets with
  | nil => simp [unfile]
  | cons b rest ih =>
    rw [List.map_cons, List.nodup_cons] at hkeys
    unfold unfile
    rw [List.lookup_cons_ite, List.lookup_cons_ite]
    by_cases hb : b.1 = hash
    · -- The bucket may go as a whole: no other one has its hash.
      have hrest : rest.lookup hash = none := by
        refine List.lookup_eq_none_iff.2 fun x hx => bne_iff_ne.2 fun heq => ?_
        exact hkeys.1 (List.mem_map.2 ⟨x, hx, heq.symm.trans hb.symm⟩)
      rw [if_pos hb, if_pos hb.symm, hb]
      dsimp only
      by_cases hh : h = hash
      · subst hh
        by_cases hleft : (b.2.filter (· != id)).isEmpty = true
        · rw [if_pos hleft, hrest, if_pos rfl, Option.getD_some, List.isEmpty_iff.1 hleft]
          rfl
        · rw [if_neg hleft, List.lookup_cons_ite, if_pos rfl, if_pos rfl]
          rfl
      · rw [if_neg hh, if_neg hh]
        split
        · rfl
        · rw [List.lookup_cons_ite, if_neg hh]
    · rw [if_neg hb, if_neg (Ne.symm hb), List.lookup_cons_ite]
      -- another bucket stays as it is, and the rest is by induction
      by_cases hh : h = b.1
      · rw [if_pos hh, if_pos hh, if_neg (hh ▸ hb)]
      · rw [if_neg hh, if_neg hh, ih hkeys.2]

private theorem keys_unfile :
    ((unfile hash id buckets).map (·.1)).Sublist (buckets.map (·.1)) := by
  induction buckets with
  | nil => exact .slnil
  | cons b rest ih =>
    unfold unfile
    split
    · dsimp only
      split
      · exact List.sublist_cons_self ..
      · exact .refl _
    · exact ih.cons_cons _

private theorem filled_unfile (hfilled : ∀ b ∈ buckets, b.2 ≠ []) :
    ∀ b ∈ unfile hash id buckets, b.2 ≠ [] := by
  induction buckets with
  | nil => simp [unfile]
  | cons b rest ih =>
    rw [List.forall_mem_cons] at hfilled
    unfold unfile
    split
    · dsimp only
      split
      · exact hfilled.2
      · rename_i hleft
        exact List.forall_mem_cons.2 ⟨fun heq => hleft (List.isEmpty_iff.2 heq), hfilled.2⟩
    · exact List.forall_mem_cons.2 ⟨hfilled.1, ih hfilled.2⟩

/-- Filing adds one module. -/
private theorem entries_file :
    ((file hash id buckets).flatMap (·.2)).Perm (id :: buckets.flatMap (·.2)) := by
  induction buckets with
  | nil => exact .refl _
  | cons b rest ih =>
    unfold file
    split
    · rw [List.flatMap_cons, List.flatMap_cons, List.append_assoc, List.singleton_append]
      exact List.perm_middle
    · rw [List.flatMap_cons, List.flatMap_cons]
      exact (ih.append_left b.2).trans List.perm_middle

/-- Unfiling leaves the other modules of the bucket, and all other buckets. -/
private theorem entries_unfile_cons (b : UInt64 × List ModuleId) :
    (unfile hash id (b :: buckets)).flatMap (·.2) =
      if b.1 = hash then b.2.filter (· != id) ++ buckets.flatMap (·.2)
      else b.2 ++ (unfile hash id buckets).flatMap (·.2) := by
  rw [unfile]
  dsimp only
  split
  · split
    · rename_i hleft
      rw [List.isEmpty_iff.1 hleft, List.nil_append]
    · rw [List.flatMap_cons]
  · rw [List.flatMap_cons]

/-- Unfiling takes out the module, if its bucket has it. -/
private theorem entries_unfile_of_mem (h : id ∈ (buckets.lookup hash).getD [])
    (honce : ((buckets.lookup hash).getD []).Nodup) :
    (buckets.flatMap (·.2)).Perm (id :: (unfile hash id buckets).flatMap (·.2)) := by
  induction buckets with
  | nil => exact nomatch h
  | cons b rest ih =>
    rw [List.lookup_cons_ite] at h honce
    rw [entries_unfile_cons, List.flatMap_cons]
    by_cases hb : b.1 = hash
    · rw [if_pos hb.symm, Option.getD_some] at h honce
      -- without repetitions the filter takes out the module and nothing else
      have hbucket : b.2.Perm (id :: b.2.filter (· != id)) := by
        rw [← honce.erase_eq_filter]
        exact List.perm_cons_erase h
      rw [if_pos hb, ← List.cons_append]
      exact hbucket.append_right _
    · rw [if_neg (Ne.symm hb)] at h honce
      rw [if_neg hb]
      -- the module comes out of a later bucket and is moved to the front
      exact ((ih h honce).append_left b.2).trans List.perm_middle

/-- Unfiling a module that the bucket does not have leaves all as it was. -/
private theorem entries_unfile_of_notMem (h : id ∉ (buckets.lookup hash).getD []) :
    (unfile hash id buckets).flatMap (·.2) = buckets.flatMap (·.2) := by
  induction buckets with
  | nil => rfl
  | cons b rest ih =>
    rw [List.lookup_cons_ite] at h
    rw [entries_unfile_cons, List.flatMap_cons]
    by_cases hb : b.1 = hash
    · rw [if_pos hb.symm, Option.getD_some] at h
      have hbucket : b.2.filter (· != id) = b.2 :=
        List.filter_eq_self.2 fun i hi => bne_iff_ne.2 fun heq => h (heq ▸ hi)
      rw [if_pos hb, hbucket]
    · rw [if_neg (Ne.symm hb)] at h
      rw [if_neg hb, ih h]

end Buckets

/-! ## Operations of the cache -/

variable {c c' : ModuleCache} {hash : UInt64} {id : ModuleId}

/-- An insertion adds to the bucket of its hash. -/
theorem bucket_insert (c : ModuleCache) (hash : UInt64) (id : ModuleId) (h : UInt64) :
    (c.insert hash id).bucket h = if h = hash then c.bucket hash ++ [id] else c.bucket h := by
  simp only [bucket, insert, lookup_file]
  split <;> rfl

/-- A removal takes its module from the bucket of its hash. -/
theorem bucket_remove (hc : c.Tidy) (hash : UInt64) (id : ModuleId) (h : UInt64) :
    (c.remove hash id).bucket h =
      if h = hash then (c.bucket hash).filter (· != id) else c.bucket h :=
  lookup_unfile hc.keys

/-- A cache stays tidy when it gets a module that its bucket does not have. -/
theorem Tidy.insert (hc : c.Tidy) (hnew : id ∉ c.bucket hash) : (c.insert hash id).Tidy where
  keys := nodup_keys_file hc.keys
  filled := filled_file hc.filled
  once h := by
    rw [bucket_insert]
    split
    · have hnodup : (c.bucket hash ++ [id]).Nodup := by
        rw [List.nodup_append]
        refine ⟨hc.once hash, List.nodup_singleton id, fun a ha b hb => ?_⟩
        rw [List.mem_singleton.1 hb]
        rintro rfl
        exact hnew ha
      exact hnodup
    · exact hc.once h

/-- A cache stays tidy when a module goes. -/
theorem Tidy.remove (hc : c.Tidy) (hash : UInt64) (id : ModuleId) : (c.remove hash id).Tidy where
  keys := hc.keys.sublist keys_unfile
  filled := filled_unfile hc.filled
  once h := by
    rw [bucket_remove hc]
    split
    · exact (hc.once hash).filter _
    · exact hc.once h

/-- A bucket does not depend on the counters. -/
theorem bucket_of_buckets_eq (h : c'.buckets = c.buckets) (hash : UInt64) :
    c'.bucket hash = c.bucket hash := by
  rw [bucket, bucket, h]

theorem entries_of_buckets_eq (h : c'.buckets = c.buckets) : c'.entries = c.entries := by
  rw [entries, entries, h]

/-- Counting lookups keeps the cache tidy. -/
theorem Tidy.of_buckets_eq (hc : c.Tidy) (h : c'.buckets = c.buckets) : c'.Tidy where
  keys := by rw [h]; exact hc.keys
  filled := by rw [h]; exact hc.filled
  once hash := by rw [bucket_of_buckets_eq h]; exact hc.once hash

/-- The bucket that stands under a hash is the bucket of the hash. -/
theorem Tidy.bucket_eq (hc : c.Tidy) {ids : List ModuleId} (h : (hash, ids) ∈ c.buckets) :
    c.bucket hash = ids := by
  rw [bucket, (List.lookup_eq_some_iff_mem hc.keys).2 h, Option.getD_some]

/-- The modules of a cache are those of its buckets. -/
theorem Tidy.mem_entries_iff (hc : c.Tidy) : id ∈ c.entries ↔ ∃ hash, id ∈ c.bucket hash := by
  simp only [entries, List.mem_flatMap]
  constructor
  · rintro ⟨⟨hash, ids⟩, hb, hid⟩
    exact ⟨hash, by rw [hc.bucket_eq hb]; exact hid⟩
  · rintro ⟨hash, hid⟩
    unfold bucket at hid
    cases hlookup : c.buckets.lookup hash with
    | none =>
      rw [hlookup] at hid
      exact nomatch hid
    | some ids =>
      rw [hlookup] at hid
      exact ⟨(hash, ids), (List.lookup_eq_some_iff_mem hc.keys).1 hlookup, hid⟩

/-- Where no module is under two hashes, none is in the cache twice. -/
theorem Tidy.nodup_entries (hc : c.Tidy)
    (h : ∀ hash hash' id, id ∈ c.bucket hash → id ∈ c.bucket hash' → hash = hash') :
    c.entries.Nodup := by
  rw [entries, List.nodup_flatMap]
  constructor
  · rintro ⟨hash, ids⟩ hb
    rw [← hc.bucket_eq hb]
    exact hc.once hash
  -- two buckets have different hashes, so they share no module
  · have hpairs := List.pairwise_map.1 hc.keys
    refine hpairs.imp_of_mem fun {a b} ha hb hne id hida hidb => ?_
    have ha' : id ∈ c.bucket a.1 := by rw [hc.bucket_eq ha]; exact hida
    have hb' : id ∈ c.bucket b.1 := by rw [hc.bucket_eq hb]; exact hidb
    exact hne (h _ _ _ ha' hb')

variable {wordsOf : ModuleId → Option (List Word)} {words : List Word}

/-- A hit has the words that were looked for, and leaves the buckets alone. -/
theorem lookup_eq_some (h : c.lookup wordsOf hash words = (some id, c')) :
    id ∈ c.bucket hash ∧ wordsOf id = some words ∧ c'.buckets = c.buckets := by
  unfold lookup at h
  dsimp only at h
  split at h
  · rename_i id' w hfind
    cases h
    have hmem := List.mem_of_find?_eq_some hfind
    have hw := List.find?_some hfind
    simp only [beq_iff_eq] at hw
    subst hw
    -- what is found comes with the words that are stored, and these were compared
    obtain ⟨i, hi, hwords⟩ := List.mem_filterMap.1 hmem
    obtain ⟨w', hw', heq⟩ := Option.map_eq_some_iff.1 hwords
    cases heq
    exact ⟨hi, hw', rfl⟩
  · exact nomatch h

/-- After a miss no module of the bucket has the words that were looked for, and the buckets are the
same. -/
theorem lookup_eq_none (h : c.lookup wordsOf hash words = (none, c')) :
    (∀ id ∈ c.bucket hash, wordsOf id ≠ some words) ∧ c'.buckets = c.buckets := by
  unfold lookup at h
  dsimp only at h
  split at h
  · exact nomatch h
  · rename_i hfind
    cases h
    refine ⟨fun id hid hwords => ?_, rfl⟩
    -- a module with these words would be a live entry of the bucket, and found
    have hmem : (id, words) ∈ (c.bucket hash).filterMap fun id => (wordsOf id).map (id, ·) :=
      List.mem_filterMap.2 ⟨id, hid, by rw [hwords, Option.map_some]⟩
    have hnot := List.find?_eq_none.1 hfind _ hmem
    simp at hnot

/-! ## Counting modules and lookups -/

/-- An insertion adds one module. -/
theorem entries_insert (c : ModuleCache) (hash : UInt64) (id : ModuleId) :
    (c.insert hash id).entries.Perm (id :: c.entries) :=
  entries_file

theorem size_insert (c : ModuleCache) (hash : UInt64) (id : ModuleId) :
    (c.insert hash id).size = c.size + 1 :=
  (c.entries_insert hash id).length_eq

/-- A removal is counted exactly if it takes out a module. -/
theorem Tidy.size_remove (hc : c.Tidy) (hash : UInt64) (id : ModuleId) :
    (c.remove hash id).size + (c.remove hash id).stats.removals = c.size + c.stats.removals := by
  unfold ModuleCache.remove size entries
  -- the counter goes up exactly if the bucket has the module, and then one entry goes
  by_cases hid : id ∈ c.bucket hash
  · have hperm := entries_unfile_of_mem hid (hc.once hash)
    rw [hperm.length_eq, List.length_cons]
    simp only [List.contains_iff_mem.2 hid, if_true]
    omega
  · rw [entries_unfile_of_notMem hid]
    simp only [List.contains_iff_mem, hid, if_false]

/-- Nothing else comes in with a removal. -/
theorem Tidy.mem_of_mem_remove (hc : c.Tidy) {hash : UInt64} {id i : ModuleId}
    (hi : i ∈ (c.remove hash id).entries) : i ∈ c.entries := by
  by_cases hid : id ∈ c.bucket hash
  · exact (entries_unfile_of_mem hid (hc.once hash)).mem_iff.2 (List.mem_cons_of_mem id hi)
  · unfold ModuleCache.remove entries at hi
    rwa [entries_unfile_of_notMem hid] at hi

/-- A hit is counted as one. -/
theorem stats_of_lookup_eq_some (h : c.lookup wordsOf hash words = (some id, c')) :
    c'.stats = { c.stats with hits := c.stats.hits + 1 } := by
  unfold lookup at h
  dsimp only at h
  split at h
  · cases h
    rfl
  · exact nomatch h

/-- A miss is counted as one, and as a collision if the bucket has a live module. -/
theorem stats_of_lookup_eq_none (h : c.lookup wordsOf hash words = (none, c')) :
    (∀ id ∈ c.bucket hash, wordsOf id = none) ∧
        c'.stats = { c.stats with misses := c.stats.misses + 1 } ∨
      (∃ id ∈ c.bucket hash, ∃ other, wordsOf id = some other) ∧
        c'.stats = { c.stats with
          misses := c.stats.misses + 1, collisions := c.stats.collisions + 1 } := by
  unfold lookup at h
  dsimp only at h
  split at h
  · exact nomatch h
  cases h
  -- a bucket whose modules are all gone is no collision
  by_cases hlive : ∃ id ∈ c.bucket hash, ∃ other, wordsOf id = some other
  · refine .inr ⟨hlive, ?_⟩
    obtain ⟨id, hid, other, hother⟩ := hlive
    have hne : ((c.bucket hash).filterMap fun id => (wordsOf id).map (id, ·)).isEmpty = false := by
      rw [List.isEmpty_eq_false_iff_exists_mem]
      exact ⟨(id, other), List.mem_filterMap.2 ⟨id, hid, by rw [hother, Option.map_some]⟩⟩
    simp [hne]
  · have hnone : ∀ id ∈ c.bucket hash, wordsOf id = none := fun id hid =>
      Option.eq_none_iff_forall_ne_some.2 fun other hother => hlive ⟨id, hid, other, hother⟩
    have hempty : ((c.bucket hash).filterMap fun id => (wordsOf id).map (id, ·)) = [] :=
      List.filterMap_eq_nil_iff.2 fun id hid => by rw [hnone id hid, Option.map_none]
    exact .inl ⟨hnone, by simp [hempty]⟩

end ShaderKit.ModuleCache
