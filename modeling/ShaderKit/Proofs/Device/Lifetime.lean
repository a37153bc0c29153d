import ShaderKit.Proofs.Device.Session
import ShaderKit.Proofs.Std.Except
import ShaderKit.Proofs.Validation.Stages

/-!
# What live modules keep

Steps of a session come and go, and the modules that stay alive hardly change: a module that a device
still has under a number is the one it had there before, except for the source that it may have been given
in the meantime.  And since no number is used twice, a number that was given out never comes to stand for
another module.

## Key results

- `Makes`: what modules a device makes, and `Makes.of_valid`: what the valid ones are like
- `Later`: a device at a later point; `Session.later_run`: what a run leads to
- `Later.module?`: a live module is one that was live before, up to its source, or a new one
- `Later.of_valid`: what every valid module is like on a device that was new once
- `Session.kind_ne_error`: nothing that was found out about a valid module is an error
-/

namespace ShaderKit

open Spirv (Word)

/-! ## Modules up to their source -/

namespace ShaderModule

theorem valid_eq_ok_iff {m : ShaderModule} {v : ValidModule} :
    m.valid = .ok v ↔ m.state = .valid v := by
  unfold valid
  cases m.state <;> simp

theorem words?_eq_some_iff {m : ShaderModule} {words : List Word} :
    m.words? = some words ↔ ∃ v, m.state = .valid v ∧ v.words = words := by
  unfold words?
  cases m.state <;> simp

/-- The module without the source that it keeps for vertex pulling. -/
def sourceless (m : ShaderModule) : ShaderModule :=
  match m.state with
  | .valid v => { m with state := .valid { v with wgsl := none } }
  | .failed _ => m

@[simp] theorem sourceless_attach (m : ShaderModule) (source : String) :
    (m.attach source).sourceless = m.sourceless := by
  unfold attach sourceless
  cases hm : m.state with
  | valid v => rfl
  | failed reason => rw [hm]

@[simp] theorem info_sourceless (m : ShaderModule) : m.sourceless.info = m.info := by
  unfold sourceless
  cases m.state <;> rfl

/-- What modules that differ in their source have in common. -/
theorem state_of_sourceless_eq {m m' : ShaderModule} {v : ValidModule}
    (h : m.sourceless = m'.sourceless) (hm : m.state = .valid v) :
    ∃ v', m'.state = .valid v' ∧ v'.kind = v.kind ∧ v'.words = v.words ∧ v'.backend = v.backend ∧
      v'.robust = v.robust := by
  unfold sourceless at h
  rw [hm] at h
  -- without their sources the two modules are equal, so both are valid, and agree in all other
  -- fields
  cases hm' : m'.state with
  | valid v' =>
    rw [hm'] at h
    simp only [mk.injEq, ModuleState.valid.injEq, ValidModule.mk.injEq] at h
    obtain ⟨-, ⟨hkind, -, hwords, hbackend, hrobust⟩, -⟩ := h
    exact ⟨v', rfl, hkind.symm, hwords.symm, hbackend.symm, hrobust.symm⟩
  | failed reason =>
    rw [hm'] at h
    have hstate := congrArg ShaderModule.state h
    rw [hm'] at hstate
    exact nomatch hstate

end ShaderModule

/-! ## Made modules -/

/-- A device with this configuration makes the module: of a descriptor, or to stand for a failed
creation. -/
inductive Makes (compiler : Wgsl.Compiler) (config : DeviceConfig) : ShaderModule → Prop
  | candidate {d : ModuleDescriptor} {c : Candidate} (label : Option String)
      (h : Candidate.ofDescriptor compiler config d = .ok c) :
      Makes compiler config (c.module config label)
  | failure (label : Option String) (reason : String) :
      Makes compiler config (.ofReason label reason)

/-- What is found out about a module depends on its kind, its words and the configuration. -/
def FoundOut (config : DeviceConfig) (kind : SourceKind) (words : List Word)
    (info : CompilationInfo) : Prop :=
  match kind with
  | .wgsl => info = {}
  | .spirv =>
    if config.validate then ∃ r, Validation.check words = .ok r ∧ info = .ofReport r else info = {}

theorem FoundOut.unique {config : DeviceConfig} {kind : SourceKind} {words : List Word}
    {a b : CompilationInfo} (ha : FoundOut config kind words a) (hb : FoundOut config kind words b) :
    a = b := by
  unfold FoundOut at ha hb
  cases kind with
  | wgsl => exact ha.trans hb.symm
  | spirv =>
    -- with validation the info is that of the one report on these words, without it there is none
    cases hvalidate : config.validate with
    | true =>
      simp only [hvalidate, if_true] at ha hb
      obtain ⟨r, hr, rfl⟩ := ha
      obtain ⟨r', hr', rfl⟩ := hb
      obtain rfl : r = r' := Except.ok.inj (hr.symm.trans hr')
      rfl
    | false =>
      simp only [hvalidate, Bool.false_eq_true, if_false] at ha hb
      exact ha.trans hb.symm

variable {compiler : Wgsl.Compiler} {config : DeviceConfig}

/-- A candidate has the kind of its descriptor's source, and the info that goes with its words. -/
theorem Candidate.of_descriptor {d : ModuleDescriptor} {c : Candidate}
    (h : Candidate.ofDescriptor compiler config d = .ok c) :
    (∃ source, d.source = .ok source ∧ c.kind = source.kind) ∧
      FoundOut config c.kind c.words c.info := by
  unfold Candidate.ofDescriptor at h
  cases hsource : d.source with
  | error e =>
    rw [hsource] at h
    exact nomatch h
  | ok source =>
    rw [hsource] at h
    -- words are validated if the configuration says so; a text is compiled, and nothing is said of
    -- it
    cases source with
    | spirv words =>
      cases hvalidate : config.validate with
      | true =>
        cases hcheck : Validation.check words with
        | error failure =>
          simp [hvalidate, hcheck, bind, Except.bind, Except.mapError, Except.map] at h
        | ok r =>
          simp only [hvalidate, hcheck, bind, Except.bind, Except.mapError, Except.map, if_true, pure,
            Except.pure, Except.ok.injEq] at h
          subst h
          exact ⟨⟨_, rfl, rfl⟩, by simp [FoundOut, hvalidate, hcheck]⟩
      | false =>
        simp only [hvalidate, bind, Except.bind, Except.mapError, pure, Except.pure, Except.ok.injEq,
          Bool.false_eq_true, if_false] at h
        subst h
        exact ⟨⟨_, rfl, rfl⟩, by simp [FoundOut, hvalidate]⟩
    | wgsl source =>
      cases hcompile : compiler.compile source config.robust with
      | error e => simp [hcompile, bind, Except.bind, Except.mapError] at h
      | ok words =>
        simp only [hcompile, bind, Except.bind, Except.mapError, pure, Except.pure,
          Except.ok.injEq] at h
        subst h
        exact ⟨⟨_, rfl, rfl⟩, rfl⟩

/-- What there is to say of a valid module that a device makes. -/
theorem Makes.of_valid {m : ShaderModule} {v : ValidModule} (h : Makes compiler config m)
    (hm : m.state = .valid v) :
    v.backend = config.backend ∧ v.robust = config.robust ∧
      FoundOut config v.kind v.words m.info := by
  cases h with
  | candidate label hc =>
    cases hm
    exact ⟨rfl, rfl, (Candidate.of_descriptor hc).2⟩
  | failure label reason => exact nomatch hm

/-! ## Devices at a later point -/

namespace Device

/-- What a device may have become at a later point: a module that it has then under a number is the one
that it had before, except for the source, or the number was not given out yet and the module was made
since. -/
structure Later (compiler : Wgsl.Compiler) (d d' : Device) : Prop where
  config : d'.config = d.config
  nextId : d.nextId ≤ d'.nextId
  module? : ∀ id m, d'.module? id = some m →
    (∃ m₀, d.module? id = some m₀ ∧ m₀.sourceless = m.sourceless) ∨
      d.nextId ≤ id ∧ ∃ made, Makes compiler d.config made ∧ made.sourceless = m.sourceless

variable {d d' d'' : Device} {id : ModuleId}

theorem module?_eq (d : Device) (id : ModuleId) : d.module? id = (d.live? id).map (·.module) := rfl

namespace Later

theorem refl (d : Device) : Later compiler d d :=
  ⟨rfl, Nat.le_refl _, fun _ m hm => .inl ⟨m, hm, rfl⟩⟩

theorem trans (h : Later compiler d d') (h' : Later compiler d' d'') : Later compiler d d'' where
  config := h'.config.trans h.config
  nextId := Nat.le_trans h.nextId h'.nextId
  module? id m hm := by
    -- a module that was there in between is followed further back; one that was made since has a
    -- number from then
    rcases h'.module? id m hm with ⟨m', hm', hsame'⟩ | ⟨hid, made, hmade, hsame⟩
    · rcases h.module? id m' hm' with ⟨m₀, hm₀, hsame⟩ | ⟨hid, made, hmade, hsame⟩
      · exact .inl ⟨m₀, hm₀, hsame.trans hsame'⟩
      · exact .inr ⟨hid, made, hmade, hsame.trans hsame'⟩
    · rw [h.config] at hmade
      exact .inr ⟨Nat.le_trans h.nextId hid, made, hmade, hsame⟩

/-- Only live modules matter, not the cache. -/
theorem cache (d : Device) (cache : ModuleCache) : Later compiler d { d with cache } :=
  ⟨rfl, Nat.le_refl _, fun _ m hm => .inl ⟨m, hm, rfl⟩⟩

theorem update {f : LiveModule → LiveModule} (hf : ∀ m, (f m).id = m.id)
    (hsame : ∀ m, (f m).module.sourceless = m.module.sourceless) (d : Device) (id : ModuleId) :
    Later compiler d (d.update id f) where
  config := rfl
  nextId := Nat.le_refl _
  module? i m hm := by
    rw [module?_eq, live?_update hf] at hm
    split at hm
    · rename_i hi
      rw [Option.map_map] at hm
      obtain ⟨lm, hlm, rfl⟩ := Option.map_eq_some_iff.1 hm
      exact .inl ⟨lm.module, by rw [hi, module?_eq, hlm]; rfl, (hsame lm).symm⟩
    · exact .inl ⟨m, hm, rfl⟩

theorem retain (d : Device) (id : ModuleId) : Later compiler d (d.retain id) :=
  .update (fun m => by rfl) (fun m => by rfl) d id

theorem release (d : Device) (id : ModuleId) : Later compiler d (d.release id) where
  config := by
    unfold Device.release
    split
    · rfl
    · split <;> rfl
  nextId := by
    unfold Device.release
    split
    · exact Nat.le_refl _
    · split <;> exact Nat.le_refl _
  module? i m hm := by
    rw [module?_eq, live?_release] at hm
    split at hm
    · rename_i hi
      obtain ⟨lm', hlm', rfl⟩ := Option.map_eq_some_iff.1 hm
      obtain ⟨lm, hlm, hleft⟩ := Option.bind_eq_some_iff.1 hlm'
      -- only the number of handles is another one
      have hmodule : lm'.module = lm.module := by
        split at hleft
        · exact nomatch hleft
        · rw [← Option.some.inj hleft]
      exact .inl ⟨lm.module, by rw [hi, module?_eq, hlm]; rfl, by rw [hmodule]⟩
    · exact .inl ⟨m, hm, rfl⟩

/-- A module that was made gets a new number. -/
theorem add {made : ShaderModule} (hmade : Makes compiler d.config made) :
    Later compiler d (d.add made).2 where
  config := rfl
  nextId := Nat.le_succ _
  module? i m hm := by
    -- what is found under the number is an old module, or the one at the end
    simp only [Device.module?, Device.add, List.find?_append] at hm
    cases hold : d.live.find? (·.id == i) with
    | some lm =>
      rw [hold] at hm
      exact .inl ⟨m, by rw [Device.module?, hold]; exact hm, rfl⟩
    | none =>
      rw [hold, Option.none_or] at hm
      obtain ⟨lm, hlm, rfl⟩ := Option.map_eq_some_iff.1 hm
      have hmem := List.mem_singleton.1 (List.mem_of_find?_eq_some hlm)
      have hid : lm.id = i := by simpa using List.find?_some hlm
      subst hmem
      exact .inr ⟨Nat.le_of_eq hid, made, hmade, rfl⟩

theorem createFailed (d : Device) (label : Option String) (reason : String) :
    Later compiler d (d.createFailed label reason).2 :=
  add (.failure label reason)

theorem place {descriptor : ModuleDescriptor} {c : Candidate} (label : Option String)
    (hc : Candidate.ofDescriptor compiler d.config descriptor = .ok c) :
    Later compiler d (d.place label c).2 := by
  unfold Device.place
  dsimp only
  split
  · rename_i id cache _
    -- a hit changes handles and the source only
    have hretain : Later compiler d (({ d with cache } : Device).retain id) :=
      (Later.cache d cache).trans (.retain _ id)
    cases c.wgsl with
    | none => exact hretain
    | some source =>
      exact hretain.trans
        (.update (fun m => by rfl) (fun m => m.module.sourceless_attach source) _ id)
  · rename_i cache _
    -- a miss makes a module of the descriptor
    have hadd : Later compiler d (({ d with cache } : Device).add (c.module d.config label)).2 :=
      (Later.cache d cache).trans (.add (.candidate label hc))
    exact hadd.trans (.cache _ _)

/-- A module that is still there is the one that was there. -/
theorem sourceless_eq {m m' : ShaderModule} (h : Later compiler d d') (hid : id < d.nextId)
    (hm : d.module? id = some m) (hm' : d'.module? id = some m') :
    m'.sourceless = m.sourceless := by
  rcases h.module? id m' hm' with ⟨m₀, hm₀, hsame⟩ | ⟨hnew, -⟩
  · rw [← hsame, Option.some.inj (hm₀.symm.trans hm)]
  · exact absurd hid (Nat.not_lt.2 hnew)

/-- Nothing is live on a new device, so every module that is live later was made since, under the same
configuration. -/
theorem of_valid {m : ShaderModule} {v : ValidModule} (h : Later compiler { config } d)
    (hm : d.module? id = some m) (hv : m.state = .valid v) :
    v.backend = config.backend ∧ v.robust = config.robust ∧
      FoundOut config v.kind v.words m.info := by
  -- the module is not one of the start, so it was made, and made modules have all this
  rcases h.module? id m hm with ⟨_, hnone, -⟩ | ⟨-, made, hmade, hsame⟩
  · exact nomatch hnone
  · obtain ⟨v', hv', hkind, hwords, hbackend, hrobust⟩ :=
      ShaderModule.state_of_sourceless_eq hsame.symm hv
    have hinfo : made.info = m.info := by
      rw [← made.info_sourceless, hsame, m.info_sourceless]
    rw [← hkind, ← hwords, ← hbackend, ← hrobust, ← hinfo]
    exact hmade.of_valid hv'

end Later

end Device

/-! ## Runs of a session -/

namespace Session

open Device (Later)

variable {s : Session}

theorem later_drop (s : Session) (name : String) :
    Later compiler s.device (s.drop name).device := by
  unfold Session.drop
  split
  · exact .refl _
  · exact .release _ _

theorem later_put {created : ModuleId × Device} (h : Later compiler s.device created.2)
    (name : String) : Later compiler s.device (s.put name created).device :=
  h.trans (later_drop { s with device := created.2 } name)

theorem later_step (s : Session) (step : SessionStep) :
    Later compiler s.device (s.step compiler step).device := by
  -- every step that gives a handle a name first makes a module or retains one, then drops what had
  -- the name
  cases step with
  | create name d =>
    rw [step_create]
    split
    · rename_i c hc
      exact later_put (.place d.label hc) name
    · exact .refl _
  | createOrFailed name d =>
    rw [step_createOrFailed]
    split
    · rename_i c hc
      exact later_put (.place d.label hc) name
    · exact later_put (.createFailed ..) name
  | createFailed name label reason => exact later_put (.createFailed ..) name
  | clone source name =>
    unfold Session.step Session.clone
    dsimp only
    split
    · exact .refl _
    · exact later_put (.retain ..) name
  | drop name => exact later_drop s name

theorem later_run (s : Session) (steps : List SessionStep) :
    Later compiler s.device (s.run compiler steps).device := by
  unfold Session.run
  induction steps generalizing s with
  | nil => exact .refl _
  | cons step rest ih => exact (later_step s step).trans (ih _)

/-- The configuration is that of the start. -/
theorem config_run (config : DeviceConfig) (steps : List SessionStep) :
    ((start config).run compiler steps).device.config = config :=
  (later_run (start config) steps).config

end Session

/-! ## What is said of valid modules -/

/-- A report without errors makes messages that are not errors. -/
theorem CompilationInfo.kind_ne_error_of_report {r : Validation.Report} (hr : r.hasErrors = false) :
    ∀ m ∈ (ofReport r).messages, m.kind ≠ .error := by
  intro m hm herror
  obtain ⟨d, hd, rfl⟩ := List.mem_map.1 hm
  have hlevel : d.level = .error := by
    cases h : d.level <;> simp [CompilationMessage.ofDiagnostic, CompilationMessageKind.ofLevel, h] at herror ⊢
  have hnone := List.any_eq_false.1 hr d hd
  exact hnone (by simp [hlevel])

/-- Nothing that was found out about a valid module is an error. -/
theorem FoundOut.kind_ne_error {config : DeviceConfig} {kind : SourceKind} {words : List Spirv.Word}
    {info : CompilationInfo} (h : FoundOut config kind words info) :
    ∀ m ∈ info.messages, m.kind ≠ .error := by
  unfold FoundOut at h
  cases kind with
  | wgsl =>
    subst h
    exact fun m hm => nomatch hm
  | spirv =>
    cases hvalidate : config.validate with
    | true =>
      simp only [hvalidate, if_true] at h
      -- a check that succeeds has a report without errors
      obtain ⟨r, hcheck, rfl⟩ := h
      exact CompilationInfo.kind_ne_error_of_report (Validation.check_eq_ok_iff.1 hcheck).2.2
    | false =>
      simp only [hvalidate, Bool.false_eq_true, if_false] at h
      subst h
      exact fun m hm => nomatch hm

/-- The valid modules of a session have no error to tell of. -/
theorem Session.kind_ne_error {compiler : Wgsl.Compiler} {config : DeviceConfig}
    {steps : List SessionStep} {name : String} {m : ShaderModule}
    (hm : ((start config).run compiler steps).module? name = some m) (hvalid : m.isValid = true) :
    ∀ message ∈ m.info.messages, message.kind ≠ .error := by
  obtain ⟨id, -, hid⟩ := Option.bind_eq_some_iff.1 hm
  cases hstate : m.state with
  | valid v => exact ((later_run (start config) steps).of_valid hid hstate).2.2.kind_ne_error
  | failed reason => simp [ShaderModule.isValid, hstate] at hvalid

end ShaderKit
