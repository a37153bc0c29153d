import ShaderKit.Device.Session
import ShaderKit.Proofs.Device.Handles

/-!
# The module cache over whole sessions

At every point of a session the cache has exactly the valid modules that names have handles of, each of
them once, under the hash of its words.  So two names have handles of the same module exactly if their
modules have the same words, whatever the hashes are.

## Key results

- `Coherent`: the device holds the handles that the names have
- `Coherent.step`: each step keeps this, and `Coherent.run`: so does a run
- `run_cacheExact`: the cache after any run, and what one more creation does to it
-/

namespace ShaderKit.Session

variable {compiler : Wgsl.Compiler} {s : Session} {pending : List ModuleId} {id : ModuleId}

/-- No name has two handles, and the device gave out the handles of the names and the pending ones, which
no name has yet. -/
structure Coherent (s : Session) (pending : List ModuleId) : Prop where
  names : (s.handles.map (·.1)).Nodup
  holds : s.device.Holds (pending ++ s.handles.map (·.2))

/-- A session with nothing in it. -/
theorem coherent_start (config : DeviceConfig) : (start config).Coherent [] :=
  ⟨.nil, Device.holds_start config⟩

/-- A name that has a handle is among the names. -/
theorem Coherent.id?_eq_some_iff (h : s.Coherent pending) (name : String) :
    s.id? name = some id ↔ (name, id) ∈ s.handles :=
  List.lookup_eq_some_iff_mem h.names

/-- A handle that a name has was given out. -/
private theorem Coherent.mem_of_id? (h : s.Coherent pending) {name : String}
    (hid : s.id? name = some id) : id ∈ pending ++ s.handles.map (·.2) :=
  List.mem_append_right _ (List.mem_map.2 ⟨_, (h.id?_eq_some_iff name).1 hid, rfl⟩)

/-- What is given out when a name loses its handle. -/
private theorem Coherent.perm_of_id? (h : s.Coherent pending) {name : String}
    (hid : s.id? name = some id) : ((pending ++ s.handles.map (·.2)).erase id).Perm
      (pending ++ (s.handles.filter (·.1 != name)).map (·.2)) := by
  have hsplit := (List.perm_cons_filter_key h.names ((h.id?_eq_some_iff name).1 hid)).map (·.2)
  rw [List.map_cons] at hsplit
  have hperm := (hsplit.append_left pending).trans List.perm_middle
  have herase := hperm.erase id
  rwa [List.erase_cons_head] at herase

/-- A name that is dropped has no handle. -/
theorem not_mem_names_drop (s : Session) (name : String) :
    name ∉ (s.drop name).handles.map (·.1) := by
  unfold drop
  split
  · rename_i hnone
    intro hmem
    obtain ⟨x, hx, rfl⟩ := List.mem_map.1 hmem
    simpa using List.lookup_eq_none_iff.1 hnone x hx
  · simp

/-- Dropping a name releases its handle and no other one. -/
theorem Coherent.drop (h : s.Coherent pending) (name : String) : (s.drop name).Coherent pending := by
  unfold Session.drop
  split
  · exact h
  · rename_i id hid
    refine ⟨h.names.sublist (List.filter_sublist.map _), ?_⟩
    exact (h.holds.release (h.mem_of_id? hid)).of_perm (h.perm_of_id? hid)

/-- A name takes a pending handle, in place of the one that it had. -/
theorem Coherent.assign (h : s.Coherent (id :: pending)) (name : String) :
    (s.assign name id).Coherent pending where
  names := List.nodup_cons.2 ⟨not_mem_names_drop s name, (h.drop name).names⟩
  holds := (h.drop name).holds.of_perm List.perm_middle.symm

/-- A name takes a handle that the device just gave out. -/
theorem Coherent.put {created : ModuleId × Device} (h : s.Coherent []) (name : String)
    (hcreated : created.2.Holds (created.1 :: s.handles.map (·.2))) :
    (s.put name created).Coherent [] := by
  have hpending : ({ s with device := created.2 } : Session).Coherent [created.1] :=
    ⟨h.names, hcreated⟩
  exact hpending.assign name

/-- A creation places its candidate; without one, nothing happens. -/
theorem step_create (compiler : Wgsl.Compiler) (s : Session) (name : String) (d : ModuleDescriptor) :
    s.step compiler (.create name d) = match Candidate.ofDescriptor compiler s.device.config d with
      | .ok c => s.put name (s.device.place d.label c)
      | .error _ => s := by
  simp only [Session.step, Session.create, Device.create]
  cases Candidate.ofDescriptor compiler s.device.config d <;> rfl

/-- A creation places its candidate; without one, a failed module stands in. -/
theorem step_createOrFailed (compiler : Wgsl.Compiler) (s : Session) (name : String)
    (d : ModuleDescriptor) : s.step compiler (.createOrFailed name d) =
      match Candidate.ofDescriptor compiler s.device.config d with
      | .ok c => s.put name (s.device.place d.label c)
      | .error e => s.put name (s.device.createFailed d.label e.message) := by
  simp only [Session.step, Session.createOrFailed, Device.createOrFailed, Device.create]
  cases Candidate.ofDescriptor compiler s.device.config d <;> rfl

/-- One step of a session. -/
theorem Coherent.step (h : s.Coherent []) (step : SessionStep) :
    (s.step compiler step).Coherent [] := by
  cases step with
  | create name d =>
    -- a creation without a candidate leaves the session as it was
    rw [step_create]
    split
    · exact h.put name (h.holds.place d.label _)
    · exact h
  | createOrFailed name d =>
    rw [step_createOrFailed]
    split
    · exact h.put name (h.holds.place d.label _)
    · exact h.put name (h.holds.createFailed d.label _)
  | createFailed name label reason => exact h.put name (h.holds.createFailed label reason)
  | clone source name =>
    unfold Session.step Session.clone
    dsimp only
    split
    · exact h
    · rename_i id hid
      -- the clone of a handle that a name has
      exact h.put name (h.holds.retain (h.mem_of_id? hid))
  | drop name => exact h.drop name

/-- A run of a session. -/
theorem Coherent.run (h : s.Coherent []) (steps : List SessionStep) :
    (s.run compiler steps).Coherent [] := by
  unfold Session.run
  -- each step ends with no handle pending, so the next one can begin
  induction steps generalizing s with
  | nil => exact h
  | cons step rest ih => exact ih (h.step step)

/-! ## The cache at every point -/

/-- What the cache has, and what handles tell of it. -/
structure CacheExact (s : Session) : Prop where
  /-- The live modules are those that names have handles of. -/
  live : ∀ id, (∃ m, s.device.module? id = some m) ↔ ∃ name, s.id? name = some id
  /-- The entries are the live modules that are valid. -/
  entries : ∀ id, id ∈ s.device.cache.entries ↔
    ∃ m, s.device.module? id = some m ∧ m.isValid = true
  /-- No module is in the cache twice. -/
  once : s.device.cache.entries.Nodup
  /-- Each hash has one bucket at most, of modules whose words have this hash. -/
  keys : (s.device.cache.buckets.map (·.1)).Nodup
  filed : ∀ b ∈ s.device.cache.buckets, ∀ id ∈ b.2,
    ∃ words, s.device.wordsOf id = some words ∧ Digest.ofWords words = b.1
  filled : ∀ b ∈ s.device.cache.buckets, b.2 ≠ []
  /-- No module of a failed creation is in the cache. -/
  failed : ∀ id m, s.device.module? id = some m → m.isValid = false → id ∉ s.device.cache.entries
  /-- Handles of valid modules are of the same module exactly if the words are the same. -/
  same : ∀ name name' id id' words words', s.id? name = some id → s.id? name' = some id' →
    s.device.wordsOf id = some words → s.device.wordsOf id' = some words' →
    (id = id' ↔ words = words')

/-- A module with words is a valid live module. -/
theorem wordsOf_iff (d : Device) (id : ModuleId) : (∃ words, d.wordsOf id = some words) ↔
    ∃ m, d.module? id = some m ∧ m.isValid = true := by
  unfold Device.wordsOf
  cases d.module? id with
  | none => simp
  | some m =>
    simp only [Option.bind_some, Option.some.injEq, exists_eq_left', ShaderModule.words?,
      ShaderModule.isValid]
    cases m.state <;> simp

/-- A module is in the cache exactly if it is valid and live. -/
private theorem Coherent.mem_entries_iff (h : s.Coherent pending) (id : ModuleId) :
    id ∈ s.device.cache.entries ↔ ∃ m, s.device.module? id = some m ∧ m.isValid = true := by
  rw [h.holds.tidy.mem_entries_iff, ← wordsOf_iff]
  -- the bucket of a module is that of the hash of its words
  constructor
  · rintro ⟨hash, hid⟩
    obtain ⟨words, hwords, _⟩ := (h.holds.filed hash id).1 hid
    exact ⟨words, hwords⟩
  · rintro ⟨words, hwords⟩
    exact ⟨_, (h.holds.filed _ id).2 ⟨words, hwords, rfl⟩⟩

/-- A module is live exactly if a name has a handle of it. -/
private theorem Coherent.live_iff (h : s.Coherent []) (id : ModuleId) :
    (∃ m, s.device.module? id = some m) ↔ ∃ name, s.id? name = some id := by
  -- no handle is pending, so all of them belong to names
  have hlive : (∃ m, s.device.module? id = some m) ↔ id ∈ s.handles.map (·.2) := by
    rw [← Option.isSome_iff_exists, Device.module?, Option.isSome_map]
    exact h.holds.live id
  rw [hlive, List.mem_map]
  constructor
  · rintro ⟨⟨name, id⟩, hmem, rfl⟩
    exact ⟨name, (h.id?_eq_some_iff name).2 hmem⟩
  · rintro ⟨name, hid⟩
    exact ⟨_, (h.id?_eq_some_iff name).1 hid, rfl⟩

/-- Where the device holds the handles of the names, its cache is exact. -/
theorem Coherent.cacheExact (h : s.Coherent []) : s.CacheExact := by
  have htidy := h.holds.tidy
  refine {
    live := h.live_iff
    entries := h.mem_entries_iff
    once := htidy.nodup_entries fun hash hash' id hid hid' => ?_
    keys := htidy.keys
    filed := fun b hb id hid => ?_
    filled := htidy.filled
    failed := fun id m hm hfailed hid => ?_
    same := fun name name' id id' words words' _ _ hwords hwords' => ⟨fun heq => ?_, fun heq => ?_⟩ }
  · -- No module is under two hashes: its words have one.
    obtain ⟨words, hwords, rfl⟩ := (h.holds.filed hash id).1 hid
    obtain ⟨words', hwords', rfl⟩ := (h.holds.filed hash' id).1 hid'
    rw [Option.some.inj (hwords.symm.trans hwords')]
  -- what is filed under a hash has words with this hash
  · rw [← htidy.bucket_eq hb] at hid
    exact (h.holds.filed b.1 id).1 hid
  -- what is in the cache is valid
  · obtain ⟨m', hm', hvalid⟩ := (h.mem_entries_iff id).1 hid
    rw [hm] at hm'
    cases hm'
    exact nomatch hfailed.symm.trans hvalid
  -- one module has one word sequence, and no two live modules have the same
  · rw [heq] at hwords
    exact Option.some.inj (hwords.symm.trans hwords')
  · rw [heq] at hwords
    exact h.holds.distinct id id' words' hwords hwords'

/-- A name that takes a handle has a module with its words. -/
theorem Coherent.words_put {created : ModuleId × Device} {words : List Spirv.Word}
    (h : s.Coherent []) (name : String)
    (hcreated : created.2.Holds (created.1 :: s.handles.map (·.2)))
    (hwords : created.2.wordsOf created.1 = some words) :
    (s.put name created).id? name = some created.1 ∧
      (s.put name created).device.wordsOf created.1 = some words := by
  refine ⟨by simp [Session.put, Session.assign, Session.id?], ?_⟩
  -- the name lets its old handle go after it took the new one
  show (({ s with device := created.2 } : Session).drop name).device.wordsOf created.1 = some words
  unfold Session.drop
  split
  · exact hwords
  · rename_i old hold
    have hmem : old ∈ s.handles.map (·.2) := h.mem_of_id? hold
    -- the name may have had a handle of the same module, which then has two
    have hkept : created.1 ∈ (created.1 :: s.handles.map (·.2)).erase old := by
      by_cases heq : created.1 = old
      · rw [heq, List.erase_cons_head]
        exact hmem
      · rw [List.mem_erase_of_ne heq]
        exact List.mem_cons_self
    rw [hcreated.wordsOf_release (List.mem_cons_of_mem _ hmem) hkept, hwords]

/-- The module of a failed creation changes the cache as the loss of the name's handle does. -/
private theorem Coherent.cache_put_createFailed (h : s.Coherent []) (name : String)
    (label : Option String) (reason : String) :
    (s.put name (s.device.createFailed label reason)).device.cache = (s.drop name).device.cache := by
  let failed := (s.device.createFailed label reason).2
  show (({ s with device := failed } : Session).drop name).device.cache = (s.drop name).device.cache
  have hsame : ({ s with device := failed } : Session).id? name = s.id? name := rfl
  unfold Session.drop
  rw [hsame]
  -- the module of a failed creation is in no bucket, so only the old handle of the name counts
  cases hid : s.id? name with
  | none => rfl
  | some old => exact h.holds.cache_release_createFailed label reason (h.mem_of_id? hid)

/-- After any run of a session the cache is exact, and so it is when one more creation follows.  If that
fails, nothing changes in the cache, except that a module which takes the place of another one lets it
go.  If it succeeds, its name has a handle of a module with the words that were asked for. -/
theorem run_cacheExact (compiler : Wgsl.Compiler) (config : DeviceConfig)
    (steps : List SessionStep) :
    let s := (start config).run compiler steps
    s.CacheExact ∧
    (∀ name d e, s.device.create compiler d = .error e →
      s.step compiler (.create name d) = s ∧
      (s.device.createOrFailed compiler d).2.cache = s.device.cache ∧
      (s.step compiler (.createOrFailed name d)).device.cache = (s.drop name).device.cache) ∧
    ∀ name d c, Candidate.ofDescriptor compiler s.device.config d = .ok c →
      s.step compiler (.createOrFailed name d) = s.step compiler (.create name d) ∧
      ∃ id, (s.step compiler (.create name d)).id? name = some id ∧
        (s.step compiler (.create name d)).device.wordsOf id = some c.words := by
  intro s
  have h : s.Coherent [] := (coherent_start config).run steps
  refine ⟨h.cacheExact, fun name d e hfails => ?_, fun name d c hc => ?_⟩
  -- without a candidate the device is not touched, except for a failed module in its place
  · have hcandidate : Candidate.ofDescriptor compiler s.device.config d = .error e := by
      unfold Device.create at hfails
      cases hc : Candidate.ofDescriptor compiler s.device.config d with
      | error e' =>
        rw [hc] at hfails
        cases hfails
        rfl
      | ok c =>
        rw [hc] at hfails
        exact nomatch hfails
    rw [step_create, step_createOrFailed, hcandidate, Device.createOrFailed, hfails]
    exact ⟨rfl, rfl, h.cache_put_createFailed name d.label e.message⟩
  -- with one both creations place it
  · rw [step_create, step_createOrFailed, hc]
    exact ⟨rfl, _, h.words_put name (h.holds.place d.label c) (h.holds.place_words d.label c)⟩

-- The two word sequences have the same hash.
example : ((start { validate := false }).run compiler
      [.create "a" { chain := [.source (.spirv [0, 0, 36068190])] },
       .create "b" { chain := [.source (.spirv [0, 1, 36068127])] },
       .clone "b" "c", .drop "b"]).device.cache.buckets = [(18111443614374511974, [0, 1])] := by
  rfl

end ShaderKit.Session
