import Mathlib.Data.Set.Card
import ShaderKit.Proofs.Device.Transparency

/-!
# What the cache counts

The counters of the cache tell what names had handles of in the course of a session.  Each creation that
comes as far as the cache is a hit or a miss: a hit exactly if a name has a handle of a module with the same
words, and a miss is a collision exactly if a name has a handle of another module under the same hash.
Every miss makes a module, and every removal is the end of one.

## Key results

- `ModuleCache.Sheds`: what a step takes out of the cache
- `Session.Asks`: what a step looks up, counts and files
- `Session.Coherent.step_asks`: each step asks the cache, and then sheds one module at most
- `Session.everHeld_step`: the modules that there ever were, after one more step
- `Session.run_accounted`: the counters after any run, and what one more step does to them
-/

namespace ShaderKit

open Spirv (Word)

/-! ## Modules that leave the cache -/

namespace ModuleCache

variable {c c' : ModuleCache}

/-- The cache is left as it is, or a module is removed. -/
inductive Sheds (c : ModuleCache) : ModuleCache → Prop
  | nothing : Sheds c c
  | module (hash : UInt64) (id : ModuleId) : Sheds c (c.remove hash id)

/-- Each module that is shed is counted. -/
theorem Sheds.size (h : c.Sheds c') (hc : c.Tidy) :
    c'.size + c'.stats.removals = c.size + c.stats.removals := by
  cases h with
  | nothing => rfl
  | module hash id => exact hc.size_remove hash id

/-- No other counter changes. -/
theorem Sheds.stats (h : c.Sheds c') : c'.stats = { c.stats with removals := c'.stats.removals } := by
  cases h with
  | nothing => rfl
  | module hash id => rfl

theorem Sheds.mem_entries (h : c.Sheds c') (hc : c.Tidy) {id : ModuleId} (hid : id ∈ c'.entries) :
    id ∈ c.entries := by
  cases h with
  | nothing => exact hid
  | module hash id' => exact hc.mem_of_mem_remove hid

end ModuleCache

namespace Device

theorem sheds_release (d : Device) (id : ModuleId) : d.cache.Sheds (d.release id).cache := by
  rw [cache_release]
  split
  · exact .nothing
  · split
    · unfold uncache
      split
      · exact .module _ _
      · exact .nothing
    · exact .nothing

variable {d : Device} {c : Candidate} {id : ModuleId} {cache : ModuleCache}

/-- After a hit the cache is as the lookup leaves it. -/
theorem place_of_hit (h : d.cache.lookup d.wordsOf (Digest.ofWords c.words) c.words = (some id, cache))
    (label : Option String) : (d.place label c).2.cache = cache := by
  unfold place
  dsimp only
  rw [h]
  cases c.wgsl <;> rfl

/-- After a miss a new module is filed. -/
theorem place_of_miss (h : d.cache.lookup d.wordsOf (Digest.ofWords c.words) c.words = (none, cache))
    (label : Option String) : (d.place label c).1 = d.nextId ∧
      (d.place label c).2.cache = cache.insert (Digest.ofWords c.words) d.nextId := by
  unfold place
  dsimp only
  rw [h]
  exact ⟨rfl, rfl⟩

end Device

/-! ## What a step asks the cache -/

/-- The candidate of a step that creates a module, unless its descriptor, the module check or the compiler
fails. -/
def SessionStep.candidate? (compiler : Wgsl.Compiler) (config : DeviceConfig) :
    SessionStep → Option Candidate
  | .create _ d | .createOrFailed _ d => (Candidate.ofDescriptor compiler config d).toOption
  | .createFailed .. | .clone .. | .drop _ => none

namespace Session

variable {compiler : Wgsl.Compiler} {config : DeviceConfig} {s : Session}

/-- A name has a handle of a module with these words. -/
def Has (s : Session) (words : List Word) : Prop :=
  ∃ name id, s.id? name = some id ∧ s.device.wordsOf id = some words

/-- The valid modules that names have handles of. -/
def held (s : Session) : Set ModuleId :=
  {id | ∃ name m, s.id? name = some id ∧ s.device.module? id = some m ∧ m.isValid = true}

/-- What the counters are after a lookup for a candidate, or without one. -/
inductive Counts (s : Session) : Option Candidate → CacheStats → Prop
  | nothing : Counts s none s.device.cache.stats
  | hit {c : Candidate} (hold : s.Has c.words) :
    Counts s (some c) { s.device.cache.stats with hits := s.device.cache.stats.hits + 1 }
  | miss {c : Candidate} (hnew : ¬ s.Has c.words)
      (hfree : ∀ words, s.Has words → Digest.ofWords words ≠ Digest.ofWords c.words) :
    Counts s (some c) { s.device.cache.stats with misses := s.device.cache.stats.misses + 1 }
  | collision {c : Candidate} {words : List Word} (hnew : ¬ s.Has c.words) (hother : s.Has words)
      (hsame : Digest.ofWords words = Digest.ofWords c.words) :
    Counts s (some c) { s.device.cache.stats with
      misses := s.device.cache.stats.misses + 1
      collisions := s.device.cache.stats.collisions + 1 }

/-- The cache after a lookup for a candidate, where a miss files one module. -/
structure Asks (s : Session) (candidate : Option Candidate) (cache : ModuleCache) : Prop where
  tidy : cache.Tidy
  counts : s.Counts candidate cache.stats
  size : cache.size + s.device.cache.stats.misses = s.device.cache.size + cache.stats.misses
  entries : ∀ id ∈ cache.entries, id ∈ s.device.cache.entries ∨
    s.device.cache.stats.misses < cache.stats.misses ∧ id = s.device.nextId

/-- A module with words is live exactly if a name has a handle of it. -/
theorem Coherent.has_iff (h : s.Coherent []) (words : List Word) :
    s.Has words ↔ ∃ id, s.device.wordsOf id = some words := by
  constructor
  · rintro ⟨_, id, _, hwords⟩
    exact ⟨id, hwords⟩
  · rintro ⟨id, hwords⟩
    obtain ⟨m, hm, _⟩ := Option.bind_eq_some_iff.1 hwords
    obtain ⟨name, hname⟩ := (h.cacheExact.live id).1 ⟨m, hm⟩
    exact ⟨name, id, hname, hwords⟩

/-- The modules that names have handles of are those of the cache. -/
theorem Coherent.mem_held_iff (h : s.Coherent []) (id : ModuleId) :
    id ∈ s.held ↔ id ∈ s.device.cache.entries := by
  rw [h.cacheExact.entries]
  constructor
  · rintro ⟨_, m, _, hm, hvalid⟩
    exact ⟨m, hm, hvalid⟩
  · rintro ⟨m, hm, hvalid⟩
    obtain ⟨name, hname⟩ := (h.cacheExact.live id).1 ⟨m, hm⟩
    exact ⟨name, m, hname, hm, hvalid⟩

/-- Without a candidate the cache is not asked. -/
theorem Coherent.asks_nothing (h : s.Coherent []) : s.Asks none s.device.cache where
  tidy := h.holds.tidy
  counts := .nothing
  size := rfl
  entries _ hid := .inl hid

/-- A lookup that finds a module. -/
private theorem Coherent.asks_of_hit (h : s.Coherent []) {c : Candidate} {id : ModuleId}
    {cache : ModuleCache} (hlookup : s.device.cache.lookup s.device.wordsOf (Digest.ofWords c.words)
      c.words = (some id, cache)) :
    s.Asks (some c) cache ∧ cache.stats.misses = s.device.cache.stats.misses := by
  obtain ⟨_, hwords, hbuckets⟩ := ModuleCache.lookup_eq_some hlookup
  have hstats := ModuleCache.stats_of_lookup_eq_some hlookup
  have hentries := ModuleCache.entries_of_buckets_eq hbuckets
  have hmisses : cache.stats.misses = s.device.cache.stats.misses := by rw [hstats]
  refine ⟨⟨h.holds.tidy.of_buckets_eq hbuckets, ?_, ?_, ?_⟩, hmisses⟩
  · rw [hstats]
    exact .hit ((h.has_iff _).2 ⟨_, hwords⟩)
  · rw [hmisses, ModuleCache.size, hentries, ModuleCache.size]
  · rw [hentries]
    exact fun _ hid => .inl hid

/-- A lookup that finds nothing, and the new module that is filed then. -/
private theorem Coherent.asks_of_miss (h : s.Coherent []) {c : Candidate} {cache : ModuleCache}
    (hlookup : s.device.cache.lookup s.device.wordsOf (Digest.ofWords c.words) c.words =
      (none, cache))
    (htidy : (cache.insert (Digest.ofWords c.words) s.device.nextId).Tidy) :
    s.Asks (some c) (cache.insert (Digest.ofWords c.words) s.device.nextId) := by
  obtain ⟨hmiss, hbuckets⟩ := ModuleCache.lookup_eq_none hlookup
  have hentries := ModuleCache.entries_of_buckets_eq hbuckets
  have hnew : ¬ s.Has c.words := by
    rw [h.has_iff]
    rintro ⟨id, hwords⟩
    exact hmiss id ((h.holds.filed _ id).2 ⟨_, hwords, rfl⟩) hwords
  -- the bucket of the hash has just the modules whose words have it, so it is empty or there is a collision
  have hcounts : s.Counts (some c) cache.stats := by
    rcases ModuleCache.stats_of_lookup_eq_none hlookup with ⟨hnone, hstats⟩ | ⟨⟨id, hid, _⟩, hstats⟩
    · rw [hstats]
      refine .miss hnew fun words hhas hsame => ?_
      obtain ⟨id, hwords⟩ := (h.has_iff words).1 hhas
      exact nomatch (hnone id ((h.holds.filed _ id).2 ⟨_, hwords, hsame⟩)).symm.trans hwords
    · rw [hstats]
      obtain ⟨words, hwords, hsame⟩ := (h.holds.filed _ id).1 hid
      exact .collision hnew ((h.has_iff words).2 ⟨id, hwords⟩) hsame
  have hmisses : cache.stats.misses = s.device.cache.stats.misses + 1 := by
    rcases ModuleCache.stats_of_lookup_eq_none hlookup with ⟨_, hstats⟩ | ⟨_, hstats⟩ <;> rw [hstats]
  refine ⟨htidy, hcounts, ?_, fun id hid => ?_⟩
  · show _ = s.device.cache.size + cache.stats.misses
    rw [ModuleCache.size_insert, hmisses, ModuleCache.size, hentries, ModuleCache.size]
    omega
  · rw [(ModuleCache.entries_insert ..).mem_iff, List.mem_cons, hentries] at hid
    rcases hid with rfl | hold
    · have hlt : s.device.cache.stats.misses < cache.stats.misses := by omega
      exact .inr ⟨hlt, rfl⟩
    · exact .inl hold

/-- A candidate is placed by asking the cache.  After a miss the name gets the module that was filed. -/
theorem Coherent.asks_place (h : s.Coherent []) (label : Option String) (c : Candidate) :
    s.Asks (some c) (s.device.place label c).2.cache ∧
      (s.device.cache.stats.misses < (s.device.place label c).2.cache.stats.misses →
        (s.device.place label c).1 = s.device.nextId) := by
  have htidy := (h.holds.place label c).tidy
  cases hlookup : s.device.cache.lookup s.device.wordsOf (Digest.ofWords c.words) c.words with
  | mk found cache =>
    -- a hit gives a number that is old, a miss the next number
    cases found with
    | some id =>
      obtain ⟨hasks, hmisses⟩ := h.asks_of_hit hlookup
      rw [Device.place_of_hit hlookup]
      exact ⟨hasks, fun hlt => absurd hlt (by omega)⟩
    | none =>
      obtain ⟨hid, hcache⟩ := Device.place_of_miss hlookup label
      rw [hcache] at htidy ⊢
      exact ⟨h.asks_of_miss hlookup htidy, fun _ => hid⟩

theorem sheds_drop (s : Session) (name : String) :
    s.device.cache.Sheds (s.drop name).device.cache := by
  unfold Session.drop
  split
  · exact .nothing
  · exact s.device.sheds_release _

/-- A name that takes a handle lets another one go. -/
theorem sheds_put (s : Session) (name : String) (created : ModuleId × Device) :
    created.2.cache.Sheds (s.put name created).device.cache :=
  sheds_drop { s with device := created.2 } name

/-- A name takes the handle of a candidate. -/
private theorem Coherent.asks_put (h : s.Coherent []) (name : String) (label : Option String)
    (c : Candidate) : ∃ cache, s.Asks (some c) cache ∧
      cache.Sheds (s.put name (s.device.place label c)).device.cache ∧
      (s.device.cache.stats.misses < cache.stats.misses →
        s.device.nextId ∈ (s.put name (s.device.place label c)).held) := by
  obtain ⟨hasks, hfiled⟩ := h.asks_place label c
  refine ⟨_, hasks, sheds_put .., fun hlt => ?_⟩
  obtain ⟨hname, hwords⟩ := h.words_put name (h.holds.place label c) (h.holds.place_words label c)
  obtain ⟨m, hm, hvalid⟩ := (wordsOf_iff _ _).1 ⟨_, hwords⟩
  rw [hfiled hlt] at hname hm
  exact ⟨name, m, hname, hm, hvalid⟩

/-- A step asks the cache, which then sheds one module at most.  After a miss a name has a handle of the
module that was filed. -/
theorem Coherent.step_asks (h : s.Coherent []) (compiler : Wgsl.Compiler) (step : SessionStep) :
    ∃ cache, s.Asks (step.candidate? compiler s.device.config) cache ∧
      cache.Sheds (s.step compiler step).device.cache ∧
      (s.device.cache.stats.misses < cache.stats.misses →
        s.device.nextId ∈ (s.step compiler step).held) := by
  -- without a candidate nothing is looked up, whatever happens to handles
  have hnothing (next : Session) (hsheds : s.device.cache.Sheds next.device.cache) :
      ∃ cache, s.Asks none cache ∧ cache.Sheds next.device.cache ∧
        (s.device.cache.stats.misses < cache.stats.misses → s.device.nextId ∈ next.held) :=
    ⟨_, h.asks_nothing, hsheds, fun hlt => absurd hlt (Nat.lt_irrefl _)⟩
  cases step with
  | create name d =>
    rw [step_create, SessionStep.candidate?]
    cases Candidate.ofDescriptor compiler s.device.config d with
    | ok c => exact h.asks_put name d.label c
    | error e => exact hnothing s .nothing
  | createOrFailed name d =>
    rw [step_createOrFailed, SessionStep.candidate?]
    cases Candidate.ofDescriptor compiler s.device.config d with
    | ok c => exact h.asks_put name d.label c
    | error e => exact hnothing _ (sheds_put s name (s.device.createFailed d.label e.message))
  | createFailed name label reason =>
    exact hnothing _ (sheds_put s name (s.device.createFailed label reason))
  | clone source name =>
    unfold Session.step Session.clone
    dsimp only
    split
    · exact hnothing s .nothing
    · rename_i id _
      exact hnothing _ (sheds_put s name (id, s.device.retain id))
  | drop name => exact hnothing _ (sheds_drop s name)

/-! ## The counters after a run -/

variable {candidate : Option Candidate} {stats : CacheStats}

/-- Nothing is removed by a lookup. -/
theorem Counts.removals (h : s.Counts candidate stats) :
    stats.removals = s.device.cache.stats.removals := by
  cases h <;> rfl

/-- A candidate is a hit or a miss. -/
theorem Counts.lookups (h : s.Counts candidate stats) :
    stats.hits + stats.misses = s.device.cache.stats.hits + s.device.cache.stats.misses +
      if candidate.isSome then 1 else 0 := by
  cases h with
  | nothing => rfl
  | hit => exact Nat.add_right_comm ..
  | miss | collision => rfl

/-- One miss at most. -/
theorem Counts.misses (h : s.Counts candidate stats) :
    stats.misses = s.device.cache.stats.misses ∨ stats.misses = s.device.cache.stats.misses + 1 := by
  cases h with
  | nothing | hit => exact .inl rfl
  | miss | collision => exact .inr rfl

/-- The modules in the cache, and those that were removed, are as many as there were misses. -/
def Balanced (s : Session) : Prop :=
  s.device.cache.size + s.device.cache.stats.removals = s.device.cache.stats.misses

theorem Coherent.balanced_step (h : s.Coherent []) (hbalanced : s.Balanced) (step : SessionStep) :
    (s.step compiler step).Balanced := by
  obtain ⟨cache, hasks, hsheds, -⟩ := h.step_asks compiler step
  have hsize := hsheds.size hasks.tidy
  have hmisses : (s.step compiler step).device.cache.stats.misses = cache.stats.misses := by
    rw [hsheds.stats]
  have hremovals := hasks.counts.removals
  have hfiled := hasks.size
  unfold Balanced at hbalanced ⊢
  omega

theorem Coherent.balanced_run (h : s.Coherent []) (hbalanced : s.Balanced) (steps : List SessionStep) :
    (s.run compiler steps).Balanced := by
  unfold Session.run
  induction steps generalizing s with
  | nil => exact hbalanced
  | cons step rest ih => exact ih (h.step step) (h.balanced_step hbalanced step)

/-- The valid modules that names had handles of at some point of a run. -/
def everHeld (compiler : Wgsl.Compiler) (config : DeviceConfig) (steps : List SessionStep) :
    Set ModuleId :=
  {id | ∃ before, before <+: steps ∧ id ∈ ((start config).run compiler before).held}

theorem run_append (s : Session) (before after : List SessionStep) :
    s.run compiler (before ++ after) = (s.run compiler before).run compiler after :=
  List.foldl_append

theorem run_concat (s : Session) (steps : List SessionStep) (step : SessionStep) :
    s.run compiler (steps ++ [step]) = (s.run compiler steps).step compiler step :=
  run_append s steps [step]

theorem held_subset_everHeld (steps : List SessionStep) :
    ((start config).run compiler steps).held ⊆ everHeld compiler config steps :=
  fun _ hid => ⟨steps, List.prefix_rfl, hid⟩

/-- One step adds what names have handles of then. -/
theorem everHeld_concat (steps : List SessionStep) (step : SessionStep) :
    everHeld compiler config (steps ++ [step]) = everHeld compiler config steps ∪
      (((start config).run compiler steps).step compiler step).held := by
  ext id
  simp only [everHeld, Set.mem_ofPred_eq, Set.mem_union, List.prefix_concat_iff, or_and_right, exists_or,
    exists_eq_left, run_concat, or_comm]

/-- A number that was given out is below those to come. -/
theorem lt_nextId_of_everHeld {steps : List SessionStep} {id : ModuleId}
    (h : id ∈ everHeld compiler config steps) :
    id < ((start config).run compiler steps).device.nextId := by
  obtain ⟨before, ⟨after, rfl⟩, name, _, hname, _⟩ := h
  have hcoherent : ((start config).run compiler before).Coherent [] := (coherent_start config).run before
  have hmem : id ∈ ((start config).run compiler before).handles.map (·.2) :=
    List.mem_map.2 ⟨_, (hcoherent.id?_eq_some_iff name).1 hname, rfl⟩
  rw [run_append]
  exact (hcoherent.holds.lt_nextId hmem).trans_le (later_run _ after).nextId

theorem finite_everHeld (steps : List SessionStep) : (everHeld compiler config steps).Finite :=
  (Set.finite_lt_nat _).subset fun _ hid => lt_nextId_of_everHeld hid

/-- Without a miss names only lose handles.  With one, a name gets a handle of a module with a new number. -/
theorem Coherent.held_step (h : s.Coherent []) (compiler : Wgsl.Compiler) (step : SessionStep) :
    let next := s.step compiler step
    next.device.cache.stats.misses = s.device.cache.stats.misses ∧ next.held ⊆ s.held ∨
      next.device.cache.stats.misses = s.device.cache.stats.misses + 1 ∧
        s.device.nextId ∈ next.held ∧ next.held ⊆ insert s.device.nextId s.held := by
  intro next
  obtain ⟨cache, hasks, hsheds, hfiled⟩ := h.step_asks compiler step
  have hmisses : next.device.cache.stats.misses = cache.stats.misses := by rw [hsheds.stats]
  have hheld : ∀ id ∈ next.held, id ∈ s.held ∨
      s.device.cache.stats.misses < cache.stats.misses ∧ id = s.device.nextId := by
    intro id hid
    rw [h.mem_held_iff]
    exact hasks.entries id (hsheds.mem_entries hasks.tidy (((h.step step).mem_held_iff id).1 hid))
  -- the new number comes in with a miss only
  rw [hmisses]
  rcases hasks.counts.misses with hsame | hnew
  · refine .inl ⟨hsame, fun id hid => (hheld id hid).resolve_right fun hlt => ?_⟩
    omega
  · refine .inr ⟨hnew, hfiled (by omega), fun id hid => ?_⟩
    rcases hheld id hid with hold | ⟨_, hid⟩
    · exact .inr hold
    · exact .inl hid

/-- Every miss makes a module that there was not before. -/
theorem everHeld_step (compiler : Wgsl.Compiler) (config : DeviceConfig) (steps : List SessionStep)
    (step : SessionStep) :
    let s := (start config).run compiler steps
    let next := s.step compiler step
    next.device.cache.stats.misses = s.device.cache.stats.misses ∧
        everHeld compiler config (steps ++ [step]) = everHeld compiler config steps ∨
      next.device.cache.stats.misses = s.device.cache.stats.misses + 1 ∧
        everHeld compiler config (steps ++ [step]) =
          insert s.device.nextId (everHeld compiler config steps) := by
  intro s next
  have h : s.Coherent [] := (coherent_start config).run steps
  have hheld : s.held ⊆ everHeld compiler config steps := held_subset_everHeld steps
  -- what names hold after the step was held before, or has the number that came with a miss
  rw [everHeld_concat]
  rcases h.held_step compiler step with ⟨hsame, hless⟩ | ⟨hnew, hnext, hmore⟩
  · exact .inl ⟨hsame, Set.union_eq_self_of_subset_right (hless.trans hheld)⟩
  · refine .inr ⟨hnew, Set.Subset.antisymm (Set.union_subset (Set.subset_insert ..) ?_) ?_⟩
    · exact hmore.trans (Set.insert_subset_insert hheld)
    · exact Set.insert_subset (.inr hnext) Set.subset_union_left

theorem everHeld_nil : everHeld compiler config [] = ∅ := by
  refine Set.eq_empty_iff_forall_notMem.2 ?_
  rintro id ⟨before, hbefore, name, m, hname, -⟩
  rw [List.prefix_nil.1 hbefore] at hname
  exact nomatch hname

/-- There were as many misses as there ever were modules. -/
theorem misses_eq_ncard (steps : List SessionStep) :
    ((start config).run compiler steps).device.cache.stats.misses =
      (everHeld compiler config steps).ncard := by
  -- from step to step the misses grow by one exactly when the set gets a new member
  induction steps using List.reverseRecOn with
  | nil =>
    rw [everHeld_nil, Set.ncard_empty]
    rfl
  | append_singleton steps step ih =>
    rw [run_concat]
    rcases everHeld_step compiler config steps step with
      ⟨hsame, hever⟩ | ⟨hnew, hever⟩
    · rw [hsame, hever, ih]
    · -- no number is used twice
      have hfresh : ((start config).run compiler steps).device.nextId ∉ everHeld compiler config steps :=
        fun hid => Nat.lt_irrefl _ (lt_nextId_of_everHeld hid)
      rw [hnew, hever, Set.ncard_insert_of_notMem hfresh (finite_everHeld steps), ih]

/-- Every creation that comes as far as the cache is a hit or a miss. -/
theorem lookups_eq_countP (steps : List SessionStep) :
    ((start config).run compiler steps).device.cache.stats.hits +
        ((start config).run compiler steps).device.cache.stats.misses =
      steps.countP fun step => (step.candidate? compiler config).isSome := by
  induction steps using List.reverseRecOn with
  | nil => rfl
  | append_singleton steps step ih =>
    have hcoherent : ((start config).run compiler steps).Coherent [] := (coherent_start config).run steps
    obtain ⟨cache, hasks, hsheds, -⟩ := hcoherent.step_asks compiler step
    -- one step asks the cache once, if it comes as far as that
    have hlookups := hasks.counts.lookups
    rw [config_run] at hlookups
    rw [run_concat, hsheds.stats, List.countP_append, ← ih, List.countP_singleton]
    exact hlookups

/-- The modules that names have handles of are as many as the cache has. -/
theorem Coherent.size_eq_ncard (h : s.Coherent []) : s.device.cache.size = s.held.ncard := by
  have hheld : s.held = ↑s.device.cache.entries.toFinset := by
    ext id
    rw [h.mem_held_iff, Finset.mem_coe, List.mem_toFinset]
  rw [hheld, Set.ncard_coe_finset, List.toFinset_card_of_nodup h.cacheExact.once]
  rfl

/-- After any run of a session, the hits and misses are as many as the creations that came as far as the
cache, the misses as many as the valid modules that there ever were, and the removals as many as those of
them that lost their last handle; the cache has the others.  And every further step counts a hit, a miss or
a collision as it should, or nothing. -/
theorem run_accounted (compiler : Wgsl.Compiler) (config : DeviceConfig) (steps : List SessionStep) :
    let s := (start config).run compiler steps
    let stats := s.device.cache.stats
    let ever := everHeld compiler config steps
    (stats.hits + stats.misses = steps.countP fun step => (step.candidate? compiler config).isSome) ∧
    ever.Finite ∧ s.held ⊆ ever ∧
    stats.misses = ever.ncard ∧ stats.removals = (ever \ s.held).ncard ∧
    s.device.cache.size = s.held.ncard ∧
    s.device.cache.size + stats.removals = stats.misses ∧
    ∀ step, ∃ counted, s.Counts (step.candidate? compiler config) counted ∧
      (s.step compiler step).device.cache.stats =
        { counted with removals := (s.step compiler step).device.cache.stats.removals } := by
  intro s stats ever
  have h : s.Coherent [] := (coherent_start config).run steps
  have hfinite : ever.Finite := finite_everHeld steps
  have hheld : s.held ⊆ ever := held_subset_everHeld steps
  have hmisses : stats.misses = ever.ncard := misses_eq_ncard steps
  have hbalanced : s.device.cache.size + stats.removals = stats.misses :=
    (coherent_start config).balanced_run rfl steps
  -- what is not in the cache any more was removed from it
  have hremovals : stats.removals = (ever \ s.held).ncard := by
    have hsplit := Set.ncard_sdiff_add_ncard_of_subset hheld hfinite
    rw [← h.size_eq_ncard, ← hmisses, ← hbalanced] at hsplit
    omega
  refine ⟨lookups_eq_countP steps, hfinite, hheld, hmisses, hremovals, h.size_eq_ncard,
    hbalanced, fun step => ?_⟩
  obtain ⟨cache, hasks, hsheds, -⟩ := h.step_asks compiler step
  rw [show s.device.config = config from config_run config steps] at hasks
  exact ⟨cache.stats, hasks.counts, hsheds.stats⟩

-- The first two word sequences have the same hash.  The third creation finds the first module, and the
-- second module goes with its only handle.
example : ((start { validate := false }).run ⟨fun _ _ => .ok [], fun _ _ _ _ _ => .ok []⟩
      [.create "a" { chain := [.source (.spirv [0, 0, 36068190])] },
       .create "b" { chain := [.source (.spirv [0, 1, 36068127])] },
       .create "c" { chain := [.source (.spirv [0, 0, 36068190])] },
       .drop "b"]).device.cache.stats = { hits := 1, misses := 2, collisions := 1, removals := 1 } := by
  decide +kernel

end Session

end ShaderKit
