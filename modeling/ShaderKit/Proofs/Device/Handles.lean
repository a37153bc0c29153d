import ShaderKit.Device.Basic
import ShaderKit.Proofs.Device.Cache

/-!
# Handles of live modules

A device that gave out certain handles keeps one module alive for each number among them, counts its
handles, and files it in the cache if it is valid.

## Key results

- `Holds`: what a device that gave out a list of handles looks like
- `Holds.retain`, `Holds.release`, `Holds.createFailed`, `Holds.place`: each operation gives out or takes
  back one handle
- `Holds.place_words`: the module that is handed out has the words that were asked for
-/

namespace ShaderKit

/-- Keeping a source does not change the words. -/
theorem ShaderModule.words?_attach (m : ShaderModule) (source : String) :
    (m.attach source).words? = m.words? := by
  unfold attach words?
  cases hm : m.state with
  | valid v => rfl
  | failed reason => rw [hm]

namespace Device

open Spirv (Word)

/-- The live module with a number, and its handles. -/
def live? (d : Device) (id : ModuleId) : Option LiveModule := d.live.find? (·.id == id)

/-- The device gave out these handles, and nothing else is in it.  A valid module is filed under the hash
of its words, and no other one has the same words. -/
structure Holds (d : Device) (ids : List ModuleId) : Prop where
  fresh : ∀ m ∈ d.live, m.id < d.nextId
  live : ∀ id, (d.live? id).isSome = true ↔ id ∈ ids
  counts : ∀ id m, d.live? id = some m → m.handles = ids.count id
  tidy : d.cache.Tidy
  filed : ∀ hash id, id ∈ d.cache.bucket hash ↔
    ∃ words, d.wordsOf id = some words ∧ Digest.ofWords words = hash
  distinct : ∀ id id' words, d.wordsOf id = some words → d.wordsOf id' = some words → id = id'

variable {d : Device} {ids ids' : List ModuleId} {id : ModuleId}

/-! ## Live modules after each operation -/

theorem wordsOf_eq (d : Device) (id : ModuleId) :
    d.wordsOf id = (d.live? id).bind (·.module.words?) := by
  unfold wordsOf module? live?
  cases d.live.find? (·.id == id) <;> rfl

/-- A live module has the number that it is found under. -/
theorem id_of_live? {m : LiveModule} (h : d.live? id = some m) : m.id = id := by
  simpa using List.find?_some h

theorem live?_update {f : LiveModule → LiveModule} (hf : ∀ m, (f m).id = m.id) (d : Device)
    (id i : ModuleId) :
    (d.update id f).live? i = if i = id then (d.live? id).map f else d.live? i := by
  -- an update keeps numbers, so that looking one up commutes with it
  have hkeep : ((·.id == i) : LiveModule → Bool) ∘ (fun m => if m.id = id then f m else m) =
      (·.id == i) := by
    funext m
    simp only [Function.comp_apply]
    split
    · rw [hf]
    · rfl
  have hmap : (d.update id f).live? i =
      (d.live? i).map fun m => if m.id = id then f m else m := by
    simp only [live?, update, List.find?_map, hkeep]
  rw [hmap]
  cases hi : d.live? i with
  | none =>
    split
    · rename_i heq
      rw [← heq, hi]
      rfl
    · rfl
  | some m =>
    rw [Option.map_some, id_of_live? hi]
    split
    · rename_i heq
      rw [← heq, hi]
      rfl
    · rfl

theorem live?_add (hfresh : ∀ m ∈ d.live, m.id < d.nextId) (m : ShaderModule) (i : ModuleId) :
    (d.add m).2.live? i = if i = d.nextId then some ⟨d.nextId, m, 1⟩ else d.live? i := by
  simp only [live?, add, List.find?_append]
  by_cases hi : i = d.nextId
  -- the number is fresh, so what is found under it is the module at the end
  · have hnone : d.live.find? (·.id == i) = none := by
      refine List.find?_eq_none.2 fun m hm => ?_
      have hne : m.id ≠ i := hi ▸ Nat.ne_of_lt (hfresh m hm)
      simpa using hne
    rw [hnone, if_pos hi, hi]
    simp
  · have hne : (d.nextId == i) = false := beq_eq_false_iff_ne.2 (Ne.symm hi)
    simp [hi, hne]

private theorem release_of_none (h : d.live? id = none) : d.release id = d := by
  unfold release
  rw [show d.live.find? (·.id == id) = none from h]

private theorem release_of_last {m : LiveModule} (h : d.live? id = some m) (hlast : m.handles ≤ 1) :
    d.release id = { d with cache := d.uncache m, live := d.live.filter (·.id != id) } := by
  unfold release
  rw [show d.live.find? (·.id == id) = some m from h]
  exact if_pos hlast

private theorem release_of_more {m : LiveModule} (h : d.live? id = some m) (hmore : ¬ m.handles ≤ 1) :
    d.release id = d.update id fun m => { m with handles := m.handles - 1 } := by
  unfold release
  rw [show d.live.find? (·.id == id) = some m from h]
  exact if_neg hmore

theorem live?_release (d : Device) (id i : ModuleId) :
    (d.release id).live? i =
      if i = id then (d.live? id).bind fun m =>
        if m.handles ≤ 1 then none else some { m with handles := m.handles - 1 }
      else d.live? i := by
  cases hm : d.live? id with
  | none =>
    rw [release_of_none hm]
    split
    · rename_i hi
      rw [hi, hm]
      rfl
    · rfl
  | some m =>
    rw [Option.bind_some]
    -- the last handle takes the module out; any other one only lowers the count
    by_cases hlast : m.handles ≤ 1
    · rw [release_of_last hm hlast, if_pos hlast]
      simp only [live?, List.find?_filter]
      split
      · rename_i hi
        refine List.find?_eq_none.2 fun m _ => ?_
        simp [hi]
      · rename_i hi
        refine congrArg (List.find? · d.live) (funext fun m => ?_)
        by_cases heq : m.id = i
        · simp [heq, hi]
        · simp [heq]
    · rw [release_of_more hm hlast, if_neg hlast, live?_update (fun m => by rfl), hm,
        Option.map_some]

theorem cache_release (d : Device) (id : ModuleId) :
    (d.release id).cache = match d.live? id with
      | none => d.cache
      | some m => if m.handles ≤ 1 then d.uncache m else d.cache := by
  cases hm : d.live? id with
  | none => rw [release_of_none hm]
  | some m =>
    dsimp only
    split
    · rename_i hlast
      rw [release_of_last hm hlast]
    · rename_i hmore
      rw [release_of_more hm hmore]
      rfl

/-! ## One handle more, or one less -/

/-- A new device gave out nothing. -/
theorem holds_start (config : DeviceConfig) : ({ config } : Device).Holds [] where
  fresh m hm := nomatch hm
  live id := by simp [live?]
  counts id m hm := nomatch hm
  tidy := ⟨.nil, fun b hb => (nomatch hb), fun hash => .nil⟩
  filed hash id := by simp [ModuleCache.bucket, wordsOf_eq, live?]
  distinct id id' words h := nomatch h

namespace Holds

/-- Only the number of each handle matters. -/
theorem of_perm (h : d.Holds ids) (hperm : ids.Perm ids') : d.Holds ids' where
  fresh := h.fresh
  live id := by rw [h.live, hperm.mem_iff]
  counts id m hm := by rw [h.counts id m hm, hperm.count_eq]
  tidy := h.tidy
  filed := h.filed
  distinct := h.distinct

/-- The counters of the cache do not matter. -/
theorem of_buckets_eq {cache : ModuleCache} (h : d.Holds ids)
    (hbuckets : cache.buckets = d.cache.buckets) : ({ d with cache } : Device).Holds ids where
  fresh := h.fresh
  live := h.live
  counts := h.counts
  tidy := h.tidy.of_buckets_eq hbuckets
  filed hash id := by
    show id ∈ cache.bucket hash ↔ _
    rw [ModuleCache.bucket_of_buckets_eq hbuckets]
    exact h.filed hash id
  distinct := h.distinct

/-- A change of one module that keeps its words, where its handles are counted anew. -/
private theorem update {f : LiveModule → LiveModule} (h : d.Holds ids) (hf : ∀ m, (f m).id = m.id)
    (hwords : ∀ m, (f m).module.words? = m.module.words?)
    (hcount : ∀ m, d.live? id = some m → (f m).handles = ids'.count id)
    (hmem : ∀ i, i ∈ ids ↔ i ∈ ids') (hothers : ∀ i, i ≠ id → ids.count i = ids'.count i) :
    (d.update id f).Holds ids' := by
  -- neither the number nor the words of any module change
  have hsame : ∀ i, (d.update id f).wordsOf i = d.wordsOf i := by
    intro i
    rw [wordsOf_eq, wordsOf_eq, live?_update hf]
    split
    · rename_i hi
      rw [hi]
      cases d.live? id with
      | none => rfl
      | some m => exact hwords m
    · rfl
  refine ⟨fun m hm => ?_, fun i => ?_, fun i m hm => ?_, h.tidy, fun hash i => ?_, ?_⟩
  -- `fresh`
  · obtain ⟨m', hm', rfl⟩ := List.mem_map.1 hm
    have hlt := h.fresh m' hm'
    show _ < d.nextId
    split
    · rwa [hf]
    · exact hlt
  -- `live`
  · rw [← hmem, ← h.live, live?_update hf]
    split
    · rename_i hi
      rw [hi, Option.isSome_map]
    · rfl
  -- `counts`: only the count of the updated module is another one
  · rw [live?_update hf] at hm
    split at hm
    · rename_i hi
      obtain ⟨m', hm', rfl⟩ := Option.map_eq_some_iff.1 hm
      rw [hi, hcount m' hm']
    · rename_i hi
      rw [h.counts i m hm, hothers i hi]
  -- `filed` and `distinct` speak of words only
  · rw [hsame]
    exact h.filed hash i
  · intro i i' words
    rw [hsame, hsame]
    exact h.distinct i i' words

/-- One more handle of a module that has one. -/
theorem retain (h : d.Holds ids) (hid : id ∈ ids) : (d.retain id).Holds (id :: ids) := by
  refine h.update (fun m => by rfl) (fun m => by rfl) (fun m hm => ?_) (fun i => ?_) fun i hi => ?_
  · rw [List.count_cons_self, ← h.counts id m hm]
  · rw [List.mem_cons]
    exact ⟨.inr, fun hi => hi.elim (fun heq => heq ▸ hid) fun hmem => hmem⟩
  · rw [List.count_cons_of_ne (Ne.symm hi)]

/-- Keeping a source changes neither words nor handles. -/
theorem attach (h : d.Holds ids) (source : String) :
    (d.update id fun m => { m with module := m.module.attach source }).Holds ids := by
  exact h.update (fun m => by rfl) (fun m => m.module.words?_attach source)
    (fun m hm => h.counts id m hm) (fun i => .rfl) fun i hi => rfl

/-- The words of modules when one is added. -/
private theorem wordsOf_add (h : d.Holds ids) (m : ShaderModule) (i : ModuleId) :
    (d.add m).2.wordsOf i = if i = d.nextId then m.words? else d.wordsOf i := by
  rw [wordsOf_eq, wordsOf_eq, live?_add h.fresh]
  split <;> rfl

/-- A module that has words has a handle. -/
private theorem mem_of_wordsOf {words : List Word} (h : d.Holds ids)
    (hwords : d.wordsOf id = some words) : id ∈ ids := by
  rw [wordsOf_eq] at hwords
  obtain ⟨m, hm, _⟩ := Option.bind_eq_some_iff.1 hwords
  exact (h.live id).1 (by rw [hm]; rfl)

/-- A number that is not given out yet has no handle. -/
private theorem nextId_not_mem (h : d.Holds ids) : d.nextId ∉ ids := by
  intro hmem
  obtain ⟨m, hm⟩ := Option.isSome_iff_exists.1 ((h.live _).2 hmem)
  have hlt := h.fresh m (List.mem_of_find?_eq_some hm)
  rw [id_of_live? hm] at hlt
  exact Nat.lt_irrefl _ hlt

/-- A new module comes with one handle, if it is filed as it should be. -/
private theorem add {m : ShaderModule} {cache : ModuleCache} (h : d.Holds ids) (htidy : cache.Tidy)
    (hfiled : ∀ hash i, i ∈ cache.bucket hash ↔ i ∈ d.cache.bucket hash ∨
      i = d.nextId ∧ ∃ words, m.words? = some words ∧ Digest.ofWords words = hash)
    (hnew : ∀ words, m.words? = some words → ∀ i, d.wordsOf i ≠ some words) :
    ({ (d.add m).2 with cache } : Device).Holds (d.nextId :: ids) := by
  have hnot := h.nextId_not_mem
  -- the number of the new module is not in use, so no words are known for it yet
  have hnone : d.wordsOf d.nextId = none :=
    Option.eq_none_iff_forall_ne_some.2 fun words hwords => hnot (h.mem_of_wordsOf hwords)
  -- the cache plays no part in what is live, so `add` is looked at without it
  refine ⟨fun x hx => ?_, fun i => ?_, fun i x hx => ?_, htidy, fun hash i => ?_, fun i i' words => ?_⟩
  -- `fresh`
  · show _ < d.nextId + 1
    rcases List.mem_append.1 hx with hx | hx
    · exact Nat.lt_succ_of_lt (h.fresh x hx)
    · rw [List.mem_singleton.1 hx]
      exact Nat.lt_succ_self _
  -- `live`
  · show ((d.add m).2.live? i).isSome = true ↔ _
    rw [live?_add h.fresh, List.mem_cons, ← h.live]
    by_cases hi : i = d.nextId <;> simp [hi]
  -- `counts`: the new module has one handle, and the other counts are as before
  · replace hx : (d.add m).2.live? i = some x := hx
    rw [live?_add h.fresh] at hx
    split at hx
    · rename_i hi
      cases hx
      rw [hi, List.count_cons_self, List.count_eq_zero.2 hnot]
    · rename_i hi
      rw [h.counts i x hx, List.count_cons_of_ne (Ne.symm hi)]
  -- `filed`
  · show i ∈ cache.bucket hash ↔ ∃ words, (d.add m).2.wordsOf i = some words ∧ _
    rw [hfiled, h.filed, h.wordsOf_add]
    by_cases hi : i = d.nextId
    · simp [hi, hnone]
    · simp [hi]
  -- `distinct`: no old module has the words of the new one
  · show (d.add m).2.wordsOf i = _ → (d.add m).2.wordsOf i' = _ → _
    rw [h.wordsOf_add, h.wordsOf_add]
    intro hi hi'
    split at hi
    · rename_i heq
      split at hi'
      · rename_i heq'
        rw [heq, heq']
      · exact absurd hi' (hnew words hi i')
    · split at hi'
      · exact absurd hi (hnew words hi' i)
      · exact h.distinct i i' words hi hi'

/-- The module of a failed creation has one handle, and is not in the cache. -/
theorem createFailed (h : d.Holds ids) (label : Option String) (reason : String) :
    (d.createFailed label reason).2.Holds ((d.createFailed label reason).1 :: ids) := by
  -- a failed module has no words, so there is nothing to file
  refine h.add h.tidy (fun hash i => ?_) fun words hwords => nomatch hwords
  constructor
  · exact .inl
  · rintro (hmem | ⟨_, _, hwords, _⟩)
    · exact hmem
    · exact nomatch hwords

/-- The module of a failed creation does not touch the entries of others. -/
theorem cache_release_createFailed (h : d.Holds ids) (label : Option String) (reason : String)
    (hid : id ∈ ids) :
    ((d.createFailed label reason).2.release id).cache = (d.release id).cache := by
  have hlive : (d.createFailed label reason).2.live? id = d.live? id := by
    have hne : id ≠ d.nextId := fun heq => h.nextId_not_mem (heq ▸ hid)
    rw [Device.createFailed, live?_add h.fresh, if_neg hne]
  rw [cache_release, cache_release, hlive]
  rfl

/-- A candidate gets one handle, of a live module with its words or of a new one. -/
theorem place (h : d.Holds ids) (label : Option String) (c : Candidate) :
    (d.place label c).2.Holds ((d.place label c).1 :: ids) := by
  unfold Device.place
  dsimp only
  split
  · rename_i id cache hlookup
    -- a hit: the module that was found gets one more handle, and perhaps a source
    obtain ⟨hbucket, _, hsame⟩ := ModuleCache.lookup_eq_some hlookup
    obtain ⟨words, hwords, _⟩ := (h.filed _ id).1 hbucket
    have hretain := (h.of_buckets_eq hsame).retain (h.mem_of_wordsOf hwords)
    cases c.wgsl with
    | none => exact hretain
    | some source => exact hretain.attach source
  · rename_i cache hlookup
    -- a miss: a new module is added and filed under the hash of its words
    obtain ⟨hmiss, hsame⟩ := ModuleCache.lookup_eq_none hlookup
    have hcache := h.of_buckets_eq hsame
    have hnone : ∀ hash, d.nextId ∉ cache.bucket hash := by
      intro hash hmem
      obtain ⟨words, hwords, _⟩ := (hcache.filed hash d.nextId).1 hmem
      exact hcache.nextId_not_mem (hcache.mem_of_wordsOf hwords)
    -- the bucket has nothing with these words, so no live module has them
    refine hcache.add (hcache.tidy.insert (hnone _)) (fun hash i => ?_) fun words hwords i hi => ?_
    · rw [ModuleCache.bucket_insert]
      by_cases hhash : hash = Digest.ofWords c.words
      · rw [if_pos hhash, List.mem_append, List.mem_singleton, hhash]
        exact or_congr_right ⟨fun hi => ⟨hi, _, rfl, rfl⟩, fun hi => hi.1⟩
      · rw [if_neg hhash]
        refine ⟨.inl, fun hi => hi.resolve_right ?_⟩
        rintro ⟨_, words, hwords, heq⟩
        obtain rfl : c.words = words := Option.some.inj hwords
        exact hhash heq.symm
    · obtain rfl : c.words = words := Option.some.inj hwords
      exact hmiss i ((h.filed _ i).2 ⟨_, hi, rfl⟩) hi

/-- The module that a candidate gets has the words of the candidate. -/
theorem place_words (h : d.Holds ids) (label : Option String) (c : Candidate) :
    (d.place label c).2.wordsOf (d.place label c).1 = some c.words := by
  unfold Device.place
  dsimp only
  split
  · rename_i id cache hlookup
    obtain ⟨_, hwords, _⟩ := ModuleCache.lookup_eq_some hlookup
    rw [wordsOf_eq] at hwords
    obtain ⟨m, hm, hmwords⟩ := Option.bind_eq_some_iff.1 hwords
    -- neither the handle nor the source that a hit adds touches the words
    have hretain : (({ d with cache } : Device).retain id).live? id =
        some { m with handles := m.handles + 1 } := by
      unfold Device.retain
      rw [live?_update (fun m => by rfl), if_pos rfl, show ({ d with cache } : Device).live? id =
        some m from hm]
      rfl
    cases c.wgsl with
    | none => rw [wordsOf_eq, hretain, Option.bind_some, hmwords]
    | some source =>
      rw [wordsOf_eq, live?_update (fun m => by rfl), if_pos rfl, hretain, Option.map_some,
        Option.bind_some, ShaderModule.words?_attach, hmwords]
  · rename_i cache hlookup
    obtain ⟨_, hsame⟩ := ModuleCache.lookup_eq_none hlookup
    show (({ d with cache } : Device).add _).2.wordsOf d.nextId = _
    rw [(h.of_buckets_eq hsame).wordsOf_add, if_pos rfl]
    rfl

/-- A module that goes takes its own entry along. -/
private theorem mem_bucket_uncache {m : LiveModule} (h : d.Holds ids) (hm : d.live? id = some m)
    (hash : UInt64) (i : ModuleId) :
    i ∈ (d.uncache m).bucket hash ↔ i ≠ id ∧ i ∈ d.cache.bucket hash := by
  have hwords : d.wordsOf id = m.module.words? := by
    rw [wordsOf_eq, hm]
    rfl
  unfold uncache
  -- a valid module is filed under the hash of its words, a failed one nowhere
  cases hstate : m.module.state with
  | valid v =>
    have hv : d.wordsOf id = some v.words := by
      rw [hwords, ShaderModule.words?, hstate]
    dsimp only
    rw [ModuleCache.bucket_remove h.tidy, id_of_live? hm]
    split
    · rename_i hhash
      rw [List.mem_filter, hhash, bne_iff_ne, and_comm]
    · rename_i hhash
      -- in a bucket of another hash the module is not filed anyway
      refine ⟨fun hi => ⟨?_, hi⟩, fun hi => hi.2⟩
      rintro rfl
      obtain ⟨words, hi, heq⟩ := (h.filed hash i).1 hi
      obtain rfl : v.words = words := Option.some.inj (hv.symm.trans hi)
      exact hhash heq.symm
  | failed reason =>
    refine ⟨fun hi => ⟨?_, hi⟩, fun hi => hi.2⟩
    rintro rfl
    obtain ⟨words, hi, _⟩ := (h.filed hash i).1 hi
    rw [hwords, ShaderModule.words?, hstate] at hi
    exact nomatch hi

private theorem tidy_uncache (h : d.Holds ids) (m : LiveModule) : (d.uncache m).Tidy := by
  unfold uncache
  split
  · exact h.tidy.remove _ _
  · exact h.tidy

/-- With its last handle a module goes. -/
private theorem release_last {m : LiveModule} (h : d.Holds ids) (hm : d.live? id = some m)
    (hlast : ids.count id = 1) : (d.release id).Holds (ids.erase id) := by
  have hhandles : m.handles ≤ 1 := Nat.le_of_eq ((h.counts id m hm).trans hlast)
  -- without the module its number stands for nothing; all else is as it was
  have hlive : ∀ i, (d.release id).live? i = if i = id then none else d.live? i := by
    intro i
    rw [live?_release, hm, Option.bind_some, if_pos hhandles]
  have hwords : ∀ i, (d.release id).wordsOf i = if i = id then none else d.wordsOf i := by
    intro i
    rw [wordsOf_eq, wordsOf_eq, hlive]
    split <;> rfl
  have hcache : (d.release id).cache = d.uncache m := by
    rw [cache_release, hm]
    exact if_pos hhandles
  have hgone : id ∉ ids.erase id := by
    rw [← List.count_eq_zero, List.count_erase_self, hlast]
  refine ⟨fun x hx => ?_, fun i => ?_, fun i x hx => ?_, ?_, fun hash i => ?_, fun i i' words => ?_⟩
  -- `fresh`
  · rw [release_of_last hm hhandles] at hx ⊢
    exact h.fresh x (List.mem_filter.1 hx).1
  -- `live`
  · rw [hlive]
    split
    · rename_i hi
      rw [hi]
      simpa using hgone
    · rename_i hi
      rw [h.live, List.mem_erase_of_ne hi]
  -- `counts`
  · rw [hlive] at hx
    split at hx
    · exact nomatch hx
    · rename_i hi
      rw [h.counts i x hx, List.count_erase_of_ne hi]
  -- `tidy`
  · rw [hcache]
    exact h.tidy_uncache m
  -- `filed`
  · rw [hcache, h.mem_bucket_uncache hm, h.filed, hwords]
    by_cases hi : i = id <;> simp [hi]
  -- `distinct`
  · rw [hwords, hwords]
    intro hi hi'
    split at hi
    · exact nomatch hi
    · split at hi'
      · exact nomatch hi'
      · exact h.distinct i i' words hi hi'

/-- One handle less of a module. -/
theorem release (h : d.Holds ids) (hid : id ∈ ids) : (d.release id).Holds (ids.erase id) := by
  obtain ⟨m, hm⟩ := Option.isSome_iff_exists.1 ((h.live id).2 hid)
  have hpos : 0 < ids.count id := List.count_pos_iff.2 hid
  by_cases hlast : ids.count id = 1
  · exact h.release_last hm hlast
  · -- other handles are left: only their number changes
    have hmore : ¬ m.handles ≤ 1 := by
      rw [h.counts id m hm]
      omega
    rw [release_of_more hm hmore]
    refine h.update (fun m => by rfl) (fun m => by rfl) (fun m hm => ?_) (fun i => ?_) fun i hi => ?_
    · rw [List.count_erase_self, ← h.counts id m hm]
    · by_cases hi : i = id
      · rw [hi, ← List.count_pos_iff, ← List.count_pos_iff, List.count_erase_self]
        omega
      · rw [List.mem_erase_of_ne hi]
    · rw [List.count_erase_of_ne hi]

/-- A module that keeps a handle keeps its words. -/
theorem wordsOf_release {i : ModuleId} (h : d.Holds ids) (hid : id ∈ ids) (hi : i ∈ ids.erase id) :
    (d.release id).wordsOf i = d.wordsOf i := by
  rw [wordsOf_eq, wordsOf_eq, live?_release]
  split
  · rename_i heq
    subst heq
    obtain ⟨m, hm⟩ := Option.isSome_iff_exists.1 ((h.live i).2 hid)
    -- a handle is left, so the module stays, with its count lowered
    have hmore : ¬ m.handles ≤ 1 := by
      have hpos := List.count_pos_iff.2 hi
      rw [List.count_erase_self] at hpos
      rw [h.counts i m hm]
      omega
    rw [hm, Option.bind_some, if_neg hmore]
    rfl
  · rfl

end Holds

end Device

end ShaderKit
