import ShaderKit.Proofs.Device.Accounting

/-!
# Sources for vertex pulling

A module keeps the source of the first creation from a source that handed it out, whatever the module was
made from.  So vertex pulling is there for all of its handles from that creation on, starts from that source
for as long as the module lives, and changes nothing else about it.

## Key results

- `Device.Sourced`: what one step gives to modules; `Holds.sourced_place`, `Coherent.sourced_step`
- `Session.source?_run`: after any run, a module keeps the source of the first creation that gave it one
- `Session.run_pulled`: what vertex pulling answers after any run, and after more steps
-/

namespace ShaderKit

open Spirv (Word)

variable {compiler : Wgsl.Compiler} {config : DeviceConfig}

namespace ShaderModule

/-- The source that a module keeps, if it is valid and has one. -/
def source? (m : ShaderModule) : Option String :=
  match m.state with
  | .valid v => v.wgsl
  | .failed _ => none

theorem source?_of_valid {m : ShaderModule} {v : ValidModule} (h : m.valid = .ok v) :
    m.source? = v.wgsl := by
  rw [source?, valid_eq_ok_iff.1 h]

/-- The source that was there first stays. -/
theorem source?_attach {m : ShaderModule} {words : List Word} (h : m.words? = some words)
    (source : String) : (m.attach source).source? = m.source?.or (some source) := by
  obtain ⟨v, hv, _⟩ := words?_eq_some_iff.1 h
  unfold attach source?
  rw [hv]
  cases hsource : v.wgsl <;> simp [ValidModule.attach, hsource]

@[simp] theorem label_sourceless (m : ShaderModule) : m.sourceless.label = m.label := by
  unfold sourceless
  cases m.state <;> rfl

end ShaderModule

/-- A candidate has the source of its descriptor. -/
theorem Candidate.wgsl_of_descriptor {d : ModuleDescriptor} {c : Candidate}
    (h : Candidate.ofDescriptor compiler config d = .ok c) :
    c.wgsl = match d.source with
      | .ok (.wgsl source) => some source
      | _ => none := by
  -- whatever else is found out, the candidate records the text that it was compiled from
  obtain ⟨source, hsource, h⟩ := Except.bind_eq_ok_iff.1 h
  rw [Except.mapError_eq_ok_iff.1 hsource]
  cases source with
  | spirv words =>
    dsimp only at h ⊢
    split at h
    all_goals
      obtain ⟨info, _, h⟩ := Except.bind_eq_ok_iff.1 h
      cases h
      rfl
  | wgsl source =>
    obtain ⟨words, _, h⟩ := Except.bind_eq_ok_iff.1 h
    cases h
    rfl

namespace Device

variable {d : Device} {ids : List ModuleId} {id i : ModuleId} {m : ShaderModule}

/-! ## Live modules after each operation -/

theorem module?_of_release (h : (d.release id).module? i = some m) : d.module? i = some m := by
  rw [module?_eq, live?_release] at h
  split at h
  · rename_i hi
    obtain ⟨left, hleft, rfl⟩ := Option.map_eq_some_iff.1 h
    obtain ⟨m, hm, hleft⟩ := Option.bind_eq_some_iff.1 hleft
    split at hleft
    · exact nomatch hleft
    · cases hleft
      rw [hi, module?_eq, hm]
      rfl
  · exact h

theorem module?_retain (d : Device) (id i : ModuleId) : (d.retain id).module? i = d.module? i := by
  rw [module?_eq, Device.retain, live?_update (fun m => by rfl), module?_eq]
  split
  · rename_i hi
    rw [hi, Option.map_map]
    rfl
  · rfl

theorem module?_attach (d : Device) (id i : ModuleId) (source : String) :
    (d.update id fun m => { m with module := m.module.attach source }).module? i =
      if i = id then (d.module? id).map (·.attach source) else d.module? i := by
  rw [module?_eq, live?_update (fun m => by rfl), module?_eq, module?_eq]
  split
  · rw [Option.map_map, Option.map_map]
    rfl
  · rfl

/-! ## What modules are given -/

/-- What is given to modules, by number, on the way from one device to another: a module that was there keeps
the source that it had, or else takes what it is given, and a new one has what it is given. -/
def Sourced (given : ModuleId → Option String) (d d' : Device) : Prop :=
  ∀ i m, d'.module? i = some m →
    (∃ m₀, d.module? i = some m₀ ∧ m.source? = m₀.source?.or (given i)) ∨
      d.nextId ≤ i ∧ m.source? = given i

variable {given : ModuleId → Option String} {d' : Device}

theorem Sourced.refl (d : Device) : Sourced (fun _ => none) d d :=
  fun _ m hm => .inl ⟨m, hm, by simp⟩

theorem Sourced.retain (d : Device) (id : ModuleId) : Sourced (fun _ => none) d (d.retain id) :=
  fun i m hm => .inl ⟨m, (module?_retain d id i).symm.trans hm, by simp⟩

/-- A handle that is released gives and takes nothing. -/
theorem Sourced.release (h : Sourced given d d') (id : ModuleId) : Sourced given d (d'.release id) :=
  fun i m hm => h i m (module?_of_release hm)

/-- A new module has the source that it is made with. -/
theorem Holds.module?_add (h : d.Holds ids) (made : ShaderModule) (i : ModuleId) :
    (d.add made).2.module? i = if i = d.nextId then some made else d.module? i := by
  rw [module?_eq, live?_add h.fresh, module?_eq]
  split <;> rfl

theorem Holds.sourced_createFailed (h : d.Holds ids) (label : Option String) (reason : String) :
    Sourced (fun _ => none) d (d.createFailed label reason).2 := by
  intro i m hm
  rw [Device.createFailed, h.module?_add] at hm
  split at hm
  · rename_i hi
    cases hm
    exact .inr ⟨Nat.le_of_eq hi.symm, rfl⟩
  · exact .inl ⟨m, hm, by simp⟩

variable {c : Candidate} {cache : ModuleCache}

/-- After a hit there is one more handle of the module, which is given the source of the candidate. -/
theorem place_eq_of_hit
    (h : d.cache.lookup d.wordsOf (Digest.ofWords c.words) c.words = (some id, cache))
    (label : Option String) : d.place label c =
      (id, c.wgsl.elim (({ d with cache } : Device).retain id) fun source =>
        (({ d with cache } : Device).retain id).update id fun m =>
          { m with module := m.module.attach source }) := by
  simp only [place, h]
  cases c.wgsl <;> rfl

/-- After a miss there is a new module, made of the candidate. -/
theorem place_eq_of_miss
    (h : d.cache.lookup d.wordsOf (Digest.ofWords c.words) c.words = (none, cache))
    (label : Option String) : d.place label c =
      (d.nextId, { (({ d with cache } : Device).add (c.module d.config label)).2 with
        cache := cache.insert (Digest.ofWords c.words) d.nextId }) := by
  simp only [place, h]
  rfl

/-- The module that a candidate gets is given the source of the candidate. -/
theorem Holds.sourced_place (h : d.Holds ids) (label : Option String) (c : Candidate) :
    Sourced (fun i => if (d.place label c).1 = i then c.wgsl else none) d (d.place label c).2 := by
  intro i m
  cases hlookup : d.cache.lookup d.wordsOf (Digest.ofWords c.words) c.words with
  | mk found cache =>
    cases found with
    | some id =>
      -- what is found has words, so it is valid and can keep a source
      obtain ⟨_, hwords, _⟩ := ModuleCache.lookup_eq_some hlookup
      obtain ⟨m₀, hm₀, hmwords⟩ := Option.bind_eq_some_iff.1 hwords
      have hretain (i : ModuleId) :
          (({ d with cache } : Device).retain id).module? i = d.module? i :=
        module?_retain _ id i
      rw [place_eq_of_hit hlookup]
      cases c.wgsl with
      | none =>
        dsimp only [Option.elim]
        rw [hretain]
        exact fun hm => .inl ⟨m, hm, by simp⟩
      | some source =>
        dsimp only [Option.elim]
        rw [module?_attach, hretain, hretain]
        by_cases hi : i = id
        · rw [if_pos hi, if_pos hi.symm, hm₀]
          rintro ⟨⟩
          exact .inl ⟨m₀, hi ▸ hm₀, ShaderModule.source?_attach hmwords source⟩
        · rw [if_neg hi, if_neg (Ne.symm hi)]
          exact fun hm => .inl ⟨m, hm, by simp⟩
    | none =>
      obtain ⟨_, hsame⟩ := ModuleCache.lookup_eq_none hlookup
      have hadd (i : ModuleId) := (h.of_buckets_eq hsame).module?_add (c.module d.config label) i
      rw [place_eq_of_miss hlookup]
      intro hm
      replace hm := (hadd i).symm.trans hm
      by_cases hi : i = d.nextId
      · rw [if_pos hi] at hm
        cases hm
        exact .inr ⟨Nat.le_of_eq hi.symm, (if_pos hi.symm).symm⟩
      · rw [if_neg hi] at hm
        exact .inl ⟨m, hm, by simp [Ne.symm hi]⟩

/-- A candidate with the words of a live module gets a handle of that. -/
theorem Holds.place_eq (h : d.Holds ids) (label : Option String)
    (hwords : d.wordsOf id = some c.words) : (d.place label c).1 = id := by
  cases hlookup : d.cache.lookup d.wordsOf (Digest.ofWords c.words) c.words with
  | mk found cache =>
    cases found with
    | some found =>
      -- no two live modules have the same words
      obtain ⟨_, hfound, _⟩ := ModuleCache.lookup_eq_some hlookup
      rw [place_eq_of_hit hlookup]
      exact h.distinct found id c.words hfound hwords
    | none =>
      -- the module is filed under the hash of its words
      obtain ⟨hmiss, _⟩ := ModuleCache.lookup_eq_none hlookup
      exact absurd hwords (hmiss id ((h.filed _ id).2 ⟨c.words, hwords, rfl⟩))

end Device

/-! ## Sources over whole sessions -/

/-- The source of a creation that hands out this module, if it is one from a source. -/
def Device.sourceGiven? (compiler : Wgsl.Compiler) (d : Device) (id : ModuleId)
    (descriptor : ModuleDescriptor) : Option String :=
  match descriptor.source, d.create compiler descriptor with
  | .ok (.wgsl source), .ok (given, _) => if given = id then some source else none
  | _, _ => none

namespace Session

open Device (Sourced)

variable {s : Session} {id : ModuleId} {m : ShaderModule} {given : ModuleId → Option String}

/-- The source with which a step asks for this module. -/
def sourceFor? (compiler : Wgsl.Compiler) (s : Session) (id : ModuleId) : SessionStep → Option String
  | .create _ d | .createOrFailed _ d => s.device.sourceGiven? compiler id d
  | .createFailed .. | .clone .. | .drop _ => none

/-- The sources of the creations that hand out this module during a run, in their order. -/
def sourcesFor (compiler : Wgsl.Compiler) (id : ModuleId) : Session → List SessionStep → List String
  | _, [] => []
  | s, step :: rest =>
    (s.sourceFor? compiler id step).toList ++ sourcesFor compiler id (s.step compiler step) rest

theorem sourcesFor_append (s : Session) (before after : List SessionStep) :
    sourcesFor compiler id s (before ++ after) =
      sourcesFor compiler id s before ++ sourcesFor compiler id (s.run compiler before) after := by
  induction before generalizing s with
  | nil => rfl
  | cons step rest ih =>
    rw [List.cons_append, sourcesFor, ih, sourcesFor, List.append_assoc]
    rfl

theorem sourcesFor_concat (s : Session) (steps : List SessionStep) (step : SessionStep) :
    sourcesFor compiler id s (steps ++ [step]) =
      sourcesFor compiler id s steps ++ ((s.run compiler steps).sourceFor? compiler id step).toList := by
  rw [sourcesFor_append, sourcesFor, sourcesFor, List.append_nil]

/-- A creation that comes to a candidate gives its source to the module that it hands out. -/
theorem sourceGiven?_of_candidate {d : Device} {descriptor : ModuleDescriptor} {c : Candidate}
    (hc : Candidate.ofDescriptor compiler d.config descriptor = .ok c) :
    d.sourceGiven? compiler id descriptor =
      if (d.place descriptor.label c).1 = id then c.wgsl else none := by
  rw [Device.sourceGiven?, Device.create_eq_ok_iff.2 ⟨c, hc, rfl⟩, c.wgsl_of_descriptor hc]
  cases descriptor.source with
  | error e => simp
  | ok source => cases source <;> simp

/-- A creation that fails gives nothing. -/
theorem sourceGiven?_of_error {d : Device} {descriptor : ModuleDescriptor} {e : CreationError}
    (he : Candidate.ofDescriptor compiler d.config descriptor = .error e) :
    d.sourceGiven? compiler id descriptor = none := by
  rw [Device.sourceGiven?, Device.create_eq_error_iff.2 he]
  split
  · rename_i heq
    exact nomatch heq
  · rfl

/-- Taking a handle and losing another one gives nothing. -/
theorem sourced_put {created : ModuleId × Device} (h : Sourced given s.device created.2)
    (name : String) : Sourced given s.device (s.put name created).device := by
  show Sourced given s.device (({ s with device := created.2 } : Session).drop name).device
  unfold Session.drop
  split
  · exact h
  · exact h.release _

/-- One step gives the source that it asks with to the module that it hands out. -/
theorem Coherent.sourced_step (h : s.Coherent []) (step : SessionStep) :
    Sourced (fun id => s.sourceFor? compiler id step) s.device (s.step compiler step).device := by
  cases step with
  | create name d =>
    rw [step_create]
    cases hc : Candidate.ofDescriptor compiler s.device.config d with
    | ok c =>
      simp only [sourceFor?, sourceGiven?_of_candidate hc]
      exact sourced_put (h.holds.sourced_place d.label c) name
    | error e =>
      -- without a candidate nobody gets a source
      simp only [sourceFor?, sourceGiven?_of_error hc]
      exact .refl _
  | createOrFailed name d =>
    rw [step_createOrFailed]
    cases hc : Candidate.ofDescriptor compiler s.device.config d with
    | ok c =>
      simp only [sourceFor?, sourceGiven?_of_candidate hc]
      exact sourced_put (h.holds.sourced_place d.label c) name
    | error e =>
      simp only [sourceFor?, sourceGiven?_of_error hc]
      exact sourced_put (h.holds.sourced_createFailed d.label _) name
  -- these steps have no source: what they hand out keeps its own
  | createFailed name label reason => exact sourced_put (h.holds.sourced_createFailed label reason) name
  | clone source name =>
    unfold Session.step Session.clone
    dsimp only
    split
    · exact .refl _
    · exact sourced_put (.retain _ _) name
  | drop name =>
    show Sourced _ s.device (s.drop name).device
    unfold Session.drop
    split
    · exact .refl _
    · exact (Sourced.refl _).release _

/-- A module that is handed out has its number by then. -/
private theorem lt_nextId_put (compiler : Wgsl.Compiler) {created : ModuleId × Device}
    {ids : List ModuleId} (h : created.2.Holds (created.1 :: ids)) (s : Session) (name : String) :
    created.1 < (s.put name created).device.nextId := by
  have hlater : Device.Later compiler created.2 (s.put name created).device :=
    later_drop { s with device := created.2 } name
  exact (h.lt_nextId List.mem_cons_self).trans_le hlater.nextId

/-- Only a module that has its number by then is given a source. -/
theorem Coherent.lt_nextId_of_sourceFor? (h : s.Coherent []) {step : SessionStep} {source : String}
    (hsource : s.sourceFor? compiler id step = some source) :
    id < (s.step compiler step).device.nextId := by
  -- the step has a candidate, which is placed under this number
  have hplaced {d : ModuleDescriptor} (hgiven : s.device.sourceGiven? compiler id d = some source) :
      ∃ c, Candidate.ofDescriptor compiler s.device.config d = .ok c ∧
        (s.device.place d.label c).1 = id := by
    cases hc : Candidate.ofDescriptor compiler s.device.config d with
    | error e => exact nomatch (sourceGiven?_of_error hc).symm.trans hgiven
    | ok c =>
      rw [sourceGiven?_of_candidate hc] at hgiven
      exact ⟨c, rfl, (Option.ite_none_right_eq_some.1 hgiven).1⟩
  cases step with
  | create name d =>
    obtain ⟨c, hc, rfl⟩ := hplaced hsource
    rw [step_create, hc]
    exact lt_nextId_put compiler (h.holds.place d.label c) s name
  | createOrFailed name d =>
    obtain ⟨c, hc, rfl⟩ := hplaced hsource
    rw [step_createOrFailed, hc]
    exact lt_nextId_put compiler (h.holds.place d.label c) s name
  | createFailed name label reason => exact nomatch hsource
  | clone source name => exact nomatch hsource
  | drop name => exact nomatch hsource

/-- A number that is not given out yet stands for no creation. -/
theorem sourcesFor_eq_nil {steps : List SessionStep}
    (hid : ((start config).run compiler steps).device.nextId ≤ id) :
    sourcesFor compiler id (start config) steps = [] := by
  -- from the last step on: its device says which numbers were given out
  induction steps using List.reverseRecOn with
  | nil => rfl
  | append_singleton steps step ih =>
    have hcoherent : ((start config).run compiler steps).Coherent [] := (coherent_start config).run steps
    rw [run_concat] at hid
    rw [sourcesFor_concat, ih ((later_step _ step).nextId.trans hid)]
    cases hsource : ((start config).run compiler steps).sourceFor? compiler id step with
    | none => rfl
    | some source => exact absurd hid (Nat.not_le.2 (hcoherent.lt_nextId_of_sourceFor? hsource))

/-- After any run, a module keeps the source of the first creation from a source that handed it out. -/
theorem source?_run {steps : List SessionStep}
    (hm : ((start config).run compiler steps).device.module? id = some m) :
    m.source? = (sourcesFor compiler id (start config) steps).head? := by
  induction steps using List.reverseRecOn generalizing m with
  | nil => exact nomatch hm
  | append_singleton steps step ih =>
    have hcoherent : ((start config).run compiler steps).Coherent [] := (coherent_start config).run steps
    rw [run_concat] at hm
    rw [sourcesFor_concat, List.head?_append, Option.head?_toList]
    -- an old module keeps the first of its sources, and gets one if it had none
    rcases hcoherent.sourced_step step id m hm with ⟨m₀, hm₀, hsource⟩ | ⟨hnew, hsource⟩
    · rw [hsource, ih hm₀]
    · -- a new module has a new number, for which there was no creation before
      rw [hsource, sourcesFor_eq_nil hnew, List.head?_nil, Option.none_or]

/-- Names that have a handle of a module still have one when one more is given out. -/
theorem Coherent.id?_put (h : s.Coherent []) {name name' : String} {created : ModuleId × Device}
    (hput : (s.put name created).Coherent []) (hcreated : created.1 = id)
    (hid : s.id? name' = some id) : (s.put name created).id? name' = some id := by
  rw [hput.id?_eq_some_iff]
  rw [h.id?_eq_some_iff] at hid
  show (name', id) ∈ (name, created.1) :: (({ s with device := created.2 } : Session).drop name).handles
  -- the name that is assigned has the module anew; any other one was not touched
  by_cases hname : name' = name
  · rw [hname, hcreated]
    exact List.mem_cons_self
  · refine List.mem_cons_of_mem _ ?_
    unfold Session.drop
    split
    · exact hid
    · exact List.mem_filter.2 ⟨hid, bne_iff_ne.2 hname⟩

end Session

/-! ## What vertex pulling answers -/

namespace ValidModule

variable {v : ValidModule}

/-- Vertex pulling is refused for want of a source exactly if there is none. -/
theorem pulled_eq_requiresWgsl_iff {state : Vertex.State} {entryPoint : String} {group : Nat} :
    v.pulled compiler state entryPoint group = .error .requiresWgsl ↔ v.wgsl = none := by
  unfold pulled
  cases v.wgsl with
  | none => simp
  | some source =>
    cases hpulled : compiler.compilePulled source state entryPoint group v.robust <;>
      simp [hpulled, Except.mapError]

/-- Vertex pulling compiles the source that is kept. -/
theorem pulled_of_wgsl {source : String} (h : v.wgsl = some source) (state : Vertex.State)
    (entryPoint : String) (group : Nat) : v.pulled compiler state entryPoint group =
      (compiler.compilePulled source state entryPoint group v.robust).mapError .compilation := by
  unfold pulled
  rw [h]

end ValidModule

namespace Session

variable {id : ModuleId} {m : ShaderModule} {v : ValidModule}

/-- What a valid module is like after more steps, if it is still there: it has the source that it had, or else
that of the first creation since then that handed it out, and is the same otherwise. -/
theorem kept_run {steps : List SessionStep} (later : List SessionStep) {m' : ShaderModule}
    (hm : ((start config).run compiler steps).device.module? id = some m) (hv : m.valid = .ok v)
    (hm' : (((start config).run compiler steps).run compiler later).device.module? id = some m') :
    ∃ v', m'.valid = .ok v' ∧ m'.label = m.label ∧ v'.kind = v.kind ∧ v'.words = v.words ∧
      v'.robust = v.robust ∧ v'.wgsl =
        v.wgsl.or (sourcesFor compiler id ((start config).run compiler steps) later).head? := by
  have hcoherent : ((start config).run compiler steps).Coherent [] := (coherent_start config).run steps
  -- the number was given out, so it goes on to stand for this module
  obtain ⟨name, hname⟩ := (hcoherent.cacheExact.live id).1 ⟨m, hm⟩
  have hid := hcoherent.holds.lt_nextId
    (List.mem_map.2 ⟨(name, id), (hcoherent.id?_eq_some_iff name).1 hname, rfl⟩)
  have hlater : Device.Later compiler ((start config).run compiler steps).device _ :=
    later_run _ later
  have hsame := hlater.sourceless_eq hid hm hm'
  obtain ⟨v', hv', hkind, hwords, _, hrobust⟩ :=
    ShaderModule.state_of_sourceless_eq hsame.symm (ShaderModule.valid_eq_ok_iff.1 hv)
  have hvalid := ShaderModule.valid_eq_ok_iff.2 hv'
  have hlabel : m'.label = m.label := by
    rw [← m'.label_sourceless, hsame, m.label_sourceless]
  refine ⟨v', hvalid, hlabel, hkind, hwords, hrobust, ?_⟩
  -- both sources are the first of a list, and one list goes on where the other ends
  rw [← run_append] at hm'
  rw [← ShaderModule.source?_of_valid hvalid, ← ShaderModule.source?_of_valid hv, source?_run hm',
    source?_run hm, sourcesFor_append, List.head?_append]

/-- A step that creates a module from a source which compiles to these words places that candidate. -/
private theorem step_of_source {s : Session} (id : ModuleId) {words : List Word} {name : String}
    {d : ModuleDescriptor} {source : String} (hd : d.source = .ok (.wgsl source))
    (hcompile : compiler.compile source s.device.config.robust = .ok words) {step : SessionStep}
    (hstep : step ∈ [SessionStep.create name d, SessionStep.createOrFailed name d]) :
    s.step compiler step = s.put name (s.device.place d.label ⟨.wgsl, some source, words, {}⟩) ∧
      s.sourceFor? compiler id step =
        if (s.device.place d.label ⟨.wgsl, some source, words, {}⟩).1 = id then some source else none := by
  have hc : Candidate.ofDescriptor compiler s.device.config d =
      .ok ⟨.wgsl, some source, words, {}⟩ := by
    simp [Candidate.ofDescriptor, hd, hcompile, bind, Except.bind, Except.mapError, pure, Except.pure]
  simp only [List.mem_cons, List.not_mem_nil, or_false] at hstep
  rcases hstep with rfl | rfl
  · exact ⟨by rw [step_create, hc], sourceGiven?_of_candidate hc⟩
  · exact ⟨by rw [step_createOrFailed, hc], sourceGiven?_of_candidate hc⟩

/-- A creation from a source that compiles to the words of a live module hands out that module, which has a
source from then on.  All names that had a handle of it still have one. -/
theorem gains_source {steps : List SessionStep} {name : String} {d : ModuleDescriptor} {source : String}
    (hm : ((start config).run compiler steps).device.module? id = some m) (hv : m.valid = .ok v)
    (hd : d.source = .ok (.wgsl source)) (hcompile : compiler.compile source config.robust = .ok v.words)
    {step : SessionStep}
    (hstep : step ∈ [SessionStep.create name d, SessionStep.createOrFailed name d]) :
    let s := (start config).run compiler steps
    (s.step compiler step).id? name = some id ∧
    ∀ name', s.id? name' = some id → (s.step compiler step).id? name' = some id ∧
      ∃ m' v', (s.step compiler step).module? name' = some m' ∧ m'.valid = .ok v' ∧
        v'.robust = v.robust ∧ v'.wgsl = some (v.wgsl.getD source) := by
  intro s
  have hcoherent : s.Coherent [] := (coherent_start config).run steps
  have hafter : (s.step compiler step).Coherent [] := hcoherent.step step
  have hwords : s.device.wordsOf id = some v.words :=
    Option.bind_eq_some_iff.2 ⟨m, hm, ShaderModule.words?_eq_some_iff.2
      ⟨v, ShaderModule.valid_eq_ok_iff.1 hv, rfl⟩⟩
  -- the cache has the module under the hash of its words, so the lookup cannot miss it
  have hplace : (s.device.place d.label ⟨.wgsl, some source, v.words, {}⟩).1 = id :=
    hcoherent.holds.place_eq d.label hwords
  rw [← show s.device.config = config from config_run config steps] at hcompile
  obtain ⟨hput, hfor⟩ := step_of_source id hd hcompile hstep
  rw [hplace, if_pos rfl] at hfor
  refine ⟨?taken, fun name' hname' => ?kept⟩
  case taken =>
    rw [hput]
    simpa [Session.put, Session.assign, Session.id?] using hplace
  case kept =>
    have hkept : (s.step compiler step).id? name' = some id := by
      rw [hput] at hafter ⊢
      exact hcoherent.id?_put hafter hplace hname'
    obtain ⟨m', hm'⟩ := (hafter.cacheExact.live id).2 ⟨name', hkept⟩
    obtain ⟨v', hv', _, _, _, hrobust, hwgsl⟩ := kept_run [step] hm hv hm'
    refine ⟨hkept, m', v', Option.bind_eq_some_iff.2 ⟨id, hkept, hm'⟩, hv', hrobust, ?_⟩
    rw [hwgsl, sourcesFor, hfor]
    cases v.wgsl <;> rfl

/-- Vertex pulling after any run of a session, for any valid module that is live then.  It is refused for want
of a source exactly if no creation from a source handed out the module, and otherwise compiles the source of
the first one that did.  As long as the module lives, that source stays, as do its label, its kind and its
words.  A creation from a source that compiles to the same words hands out the module, and from then on
vertex pulling is there for all names that have a handle of it. -/
theorem run_pulled (compiler : Wgsl.Compiler) (config : DeviceConfig) (steps : List SessionStep)
    {id : ModuleId} {m : ShaderModule} {v : ValidModule}
    (hm : ((start config).run compiler steps).device.module? id = some m) (hv : m.valid = .ok v) :
    let s := (start config).run compiler steps
    let sources := sourcesFor compiler id (start config) steps
    (∀ state entryPoint group,
      v.pulled compiler state entryPoint group = .error .requiresWgsl ↔ sources = []) ∧
    (∀ source, sources.head? = some source → ∀ state entryPoint group,
      v.pulled compiler state entryPoint group =
        (compiler.compilePulled source state entryPoint group config.robust).mapError .compilation) ∧
    (∀ later m', (s.run compiler later).device.module? id = some m' →
      ∃ v', m'.valid = .ok v' ∧ m'.label = m.label ∧ v'.kind = v.kind ∧ v'.words = v.words ∧
        ∀ source, v.wgsl = some source → v'.wgsl = some source) ∧
    ∀ name d source, d.source = .ok (.wgsl source) →
      compiler.compile source config.robust = .ok v.words →
      ∀ step ∈ [SessionStep.create name d, SessionStep.createOrFailed name d],
        (s.step compiler step).id? name = some id ∧
        ∀ name', s.id? name' = some id → (s.step compiler step).id? name' = some id ∧
          ∃ m' v', (s.step compiler step).module? name' = some m' ∧ m'.valid = .ok v' ∧
            ∀ state entryPoint group, v'.pulled compiler state entryPoint group =
              (compiler.compilePulled (v.wgsl.getD source) state entryPoint group
                config.robust).mapError .compilation := by
  intro s sources
  -- the source that is kept is the first of those that the module was asked for with
  have hsource : v.wgsl = sources.head? := by
    rw [← ShaderModule.source?_of_valid hv]
    exact source?_run hm
  have hrobust : v.robust = config.robust :=
    ((later_run (start config) steps).of_valid hm (ShaderModule.valid_eq_ok_iff.1 hv)).2.1
  refine ⟨fun state entryPoint group => ?_, fun source hfirst state entryPoint group => ?_,
    fun later m' hm' => ?_, fun name d source hd hcompile step hstep => ?_⟩
  · rw [ValidModule.pulled_eq_requiresWgsl_iff, hsource, List.head?_eq_none_iff]
  · rw [ValidModule.pulled_of_wgsl (hsource.trans hfirst), hrobust]
  -- a source that is there is the first one later too
  · obtain ⟨v', hv', hlabel, hkind, hwords, _, hwgsl⟩ := kept_run later hm hv hm'
    exact ⟨v', hv', hlabel, hkind, hwords, fun source hhas => by rw [hwgsl, hhas, Option.some_or]⟩
  -- all names see the one module, so all of them see its source
  · obtain ⟨htaken, hclones⟩ := gains_source hm hv hd hcompile hstep
    refine ⟨htaken, fun name' hname' => ?_⟩
    obtain ⟨hkept, m', v', hm', hv', hsame, hwgsl⟩ := hclones name' hname'
    refine ⟨hkept, m', v', hm', hv', fun state entryPoint group => ?_⟩
    rw [ValidModule.pulled_of_wgsl hwgsl, hsame, hrobust]

/-- A module from SPIR-V has two handles when a source that compiles to its words is asked for. -/
theorem run_pulled_spirv :
    let compiler : Wgsl.Compiler :=
      ⟨fun _ _ => .ok [7], fun source _ _ _ _ => .ok [if source = "f" then 1 else 2]⟩
    let s := (start { validate := false }).run compiler
      [.create "a" { chain := [.source (.spirv [7])] }, .clone "a" "b"]
    let t := s.step compiler (.create "c" { chain := [.source (.wgsl "f")] })
    ∃ m v m' v', s.device.module? 0 = some m ∧ m.valid = .ok v ∧ v.kind = .spirv ∧
      (∀ state, v.pulled compiler state "main" 3 = .error .requiresWgsl) ∧
      t.module? "b" = some m' ∧ m'.valid = .ok v' ∧
      ∀ state, v'.pulled compiler state "main" 3 = .ok [1] := by
  intro compiler s t
  -- the first module came from words, so there is no source until the third creation
  obtain ⟨hnone, -, -, hgains⟩ := run_pulled compiler { validate := false }
    [.create "a" { chain := [.source (.spirv [7])] }, .clone "a" "b"]
    (show s.device.module? 0 = some _ from rfl) rfl
  obtain ⟨-, hclones⟩ := hgains "c" { chain := [.source (.wgsl "f")] } "f" rfl rfl _ List.mem_cons_self
  obtain ⟨-, m', v', hm', hv', hpulled⟩ := hclones "b" rfl
  exact ⟨_, _, m', v', rfl, rfl, rfl, fun state => (hnone state "main" 3).2 rfl, hm', hv',
    fun state => hpulled state "main" 3⟩

end Session

end ShaderKit
