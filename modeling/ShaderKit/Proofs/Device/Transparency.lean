import ShaderKit.Proofs.Device.Lifetime

/-!
# The module cache does not show

Whatever happened on a device before, creating a module succeeds there exactly if it does on a new device,
and fails the same way.  The module is the same to everyone who asks for its words, or for what follows from
them, for as long as there is a handle of it; what is found out at the creation is the same too, unless the
module was there before and came from another kind of source.

## Key results

- `ShowsLike`: a device's module is, to all appearances, a given one
- `ShowsLike.of_later`: it stays so for as long as it lives
- `create_transparent`: a creation after any run of a session, next to one on a new device
-/

namespace ShaderKit

open Spirv (Word)

variable {compiler : Wgsl.Compiler} {config : DeviceConfig}

/-- Two valid modules give the same answers, whatever is asked about their code. -/
structure ValidModule.SameCode (v w : ValidModule) : Prop where
  words : v.words = w.words
  hash : v.hash = w.hash
  metadata : v.metadata = w.metadata
  checkPipeline : ∀ layout, v.checkPipeline layout = w.checkPipeline layout
  requiredSizes : ∀ layout, v.requiredSizes layout = w.requiredSizes layout

/-- The words and the reflection backend decide every answer. -/
theorem ValidModule.SameCode.of_words {v w : ValidModule} (hwords : v.words = w.words)
    (hbackend : v.backend = w.backend) : v.SameCode w := by
  have hmetadata : v.metadata = w.metadata := by
    unfold ValidModule.metadata
    rw [hwords, hbackend]
  refine ⟨hwords, ?_, hmetadata, fun layout => ?_, fun layout => ?_⟩
  · unfold ValidModule.hash
    rw [hwords]
  · unfold ValidModule.checkPipeline
    rw [hmetadata]
  · unfold ValidModule.requiredSizes
    rw [hmetadata]

theorem ValidModule.SameCode.trans {u v w : ValidModule} (h : u.SameCode v) (h' : v.SameCode w) :
    u.SameCode w where
  words := h.words.trans h'.words
  hash := h.hash.trans h'.hash
  metadata := h.metadata.trans h'.metadata
  checkPipeline layout := (h.checkPipeline layout).trans (h'.checkPipeline layout)
  requiredSizes layout := (h.requiredSizes layout).trans (h'.requiredSizes layout)

/-- The device's module with this number is valid, and shows what the given module shows: all that follows
from its words and, where it comes from this kind of source, what was found out at its creation. -/
def Device.ShowsLike (d : Device) (id : ModuleId) (kind : SourceKind) (m₀ : ShaderModule) : Prop :=
  ∃ m v v₀, d.module? id = some m ∧ m.valid = .ok v ∧ m₀.valid = .ok v₀ ∧ v.SameCode v₀ ∧
    (v.kind = kind → m.info = m₀.info)

namespace Device

variable {d d' : Device} {id : ModuleId} {kind : SourceKind} {m₀ : ShaderModule}

/-- A number that has a handle was given out. -/
theorem Holds.lt_nextId {ids : List ModuleId} (h : d.Holds ids) (hid : id ∈ ids) :
    id < d.nextId := by
  obtain ⟨m, hm⟩ := Option.isSome_iff_exists.1 ((h.live id).2 hid)
  have hlt := h.fresh m (List.mem_of_find?_eq_some hm)
  rwa [id_of_live? hm] at hlt

/-- A module goes on to show what it showed. -/
theorem ShowsLike.of_later {m' : ShaderModule} (h : d.ShowsLike id kind m₀)
    (hlater : Later compiler d d') (hid : id < d.nextId) (hm' : d'.module? id = some m') :
    d'.ShowsLike id kind m₀ := by
  obtain ⟨m, v, v₀, hm, hv, hv₀, hcode, hinfo⟩ := h
  have hsame : m.sourceless = m'.sourceless := (hlater.sourceless_eq hid hm hm').symm
  obtain ⟨v', hv', hkind, hwords, hbackend, -⟩ :=
    ShaderModule.state_of_sourceless_eq hsame (ShaderModule.valid_eq_ok_iff.1 hv)
  have hinfo' : m'.info = m.info := by
    rw [← m'.info_sourceless, ← hsame, m.info_sourceless]
  refine ⟨m', v', v₀, hm', ShaderModule.valid_eq_ok_iff.2 hv', hv₀,
    (ValidModule.SameCode.of_words hwords hbackend).trans hcode, fun hk => ?_⟩
  rw [hinfo', hinfo (hkind.symm.trans hk)]

theorem create_eq_error_iff {descriptor : ModuleDescriptor} {e : CreationError} :
    d.create compiler descriptor = .error e ↔
      Candidate.ofDescriptor compiler d.config descriptor = .error e := by
  unfold Device.create
  cases Candidate.ofDescriptor compiler d.config descriptor <;> simp [bind, Except.bind, pure,
    Except.pure]

theorem create_eq_ok_iff {descriptor : ModuleDescriptor} {created : ModuleId × Device} :
    d.create compiler descriptor = .ok created ↔
      ∃ c, Candidate.ofDescriptor compiler d.config descriptor = .ok c ∧
        d.place descriptor.label c = created := by
  unfold Device.create
  rw [Except.bind_eq_ok_iff]
  simp [pure, Except.pure]

/-- A new device has nothing to find, so it makes the module of the candidate. -/
theorem module?_place_fresh (config : DeviceConfig) (label : Option String) (c : Candidate) :
    (({ config } : Device).place label c).2.module? (({ config } : Device).place label c).1 =
      some (c.module config label) :=
  rfl

end Device

namespace Session

/-- The module that a candidate gets, be it an old or a new one, shows what a module made of the candidate
shows. -/
theorem showsLike_place {s : Session} {d : ModuleDescriptor} {c : Candidate}
    (h : s.Coherent []) (hlater : Device.Later compiler { config } s.device)
    (hc : Candidate.ofDescriptor compiler config d = .ok c) (label : Option String) :
    (s.device.place label c).2.ShowsLike (s.device.place label c).1 c.kind
      (c.module config label) := by
  -- the module has the words of the candidate
  have hwords := h.holds.place_words label c
  obtain ⟨m, hm, hmwords⟩ := Option.bind_eq_some_iff.1 hwords
  obtain ⟨v, hv, hvwords⟩ := ShaderModule.words?_eq_some_iff.1 hmwords
  -- and whenever it was made, the configuration was the same
  have hplaced : Device.Later compiler { config } (s.device.place label c).2 := by
    rw [← show s.device.config = config from hlater.config] at hc
    exact hlater.trans (.place label hc)
  obtain ⟨hbackend, -, hfound⟩ := hplaced.of_valid hm hv
  have hfound₀ : FoundOut config c.kind c.words c.info := (Candidate.of_descriptor hc).2
  refine ⟨m, v, _, hm, ShaderModule.valid_eq_ok_iff.2 hv, rfl, .of_words hvwords hbackend,
    fun hkind => ?_⟩
  rw [hkind, hvwords] at hfound
  exact hfound.unique hfound₀

/-- After any run of a session, and on a new device of the same configuration, a creation fails with the
same error or succeeds.  If it succeeds, the module that is handed out shows what the new device's module
shows, now and after everything that the session may do next, for as long as a name has a handle of it. -/
theorem create_transparent (compiler : Wgsl.Compiler) (config : DeviceConfig)
    (steps : List SessionStep) (d : ModuleDescriptor) :
    let s := (start config).run compiler steps
    let fresh : Device := { config }
    (∀ e, s.device.create compiler d = .error e ↔ fresh.create compiler d = .error e) ∧
    ((∃ created, s.device.create compiler d = .ok created) ↔
      ∃ created, fresh.create compiler d = .ok created) ∧
    ∀ id device id₀ device₀, s.device.create compiler d = .ok (id, device) →
      fresh.create compiler d = .ok (id₀, device₀) →
      ∃ source m₀, d.source = .ok source ∧ device₀.module? id₀ = some m₀ ∧
        device.ShowsLike id source.kind m₀ ∧
        ∀ name later, (s.put name (id, device)).id? name = some id ∧
          let t := (s.put name (id, device)).run compiler later
          ∀ name', t.id? name' = some id → t.device.ShowsLike id source.kind m₀ := by
  intro s fresh
  have hcoherent : s.Coherent [] := (coherent_start config).run steps
  have hconfig : s.device.config = config := config_run config steps
  simp only [Device.create_eq_error_iff, Device.create_eq_ok_iff]
  rw [hconfig]
  refine ⟨fun e => Iff.rfl, ⟨fun ⟨_, c, hc, _⟩ => ⟨_, c, hc, rfl⟩, fun ⟨_, c, hc, _⟩ => ⟨_, c, hc, rfl⟩⟩, ?_⟩
  rintro id device id₀ device₀ ⟨c, hc, hplace⟩ ⟨c₀, hc₀, hplace₀⟩
  obtain rfl : c = c₀ := Except.ok.inj (hc.symm.trans hc₀)
  obtain ⟨⟨source, hsource, hkind⟩, -⟩ := Candidate.of_descriptor hc
  have hshows : device.ShowsLike id source.kind (c.module config d.label) := by
    have h := showsLike_place hcoherent (later_run (start config) steps) hc d.label
    rwa [hplace, hkind] at h
  have hholds : device.Holds (id :: s.handles.map (·.2)) := by
    have h := hcoherent.holds.place d.label c
    rwa [hplace] at h
  have hfresh := Device.module?_place_fresh config d.label c
  rw [show fresh.place d.label c = (id₀, device₀) from hplace₀] at hfresh
  refine ⟨source, _, hsource, hfresh, hshows, fun name later => ⟨by
    simp [Session.put, Session.assign, Session.id?], fun name' hname' => ?_⟩⟩
  -- the name that has the handle keeps the module alive
  have hput : (s.put name (id, device)).Coherent [] := hcoherent.put name hholds
  obtain ⟨m, hm⟩ := ((hput.run later).cacheExact.live id).2 ⟨name', hname'⟩
  have hdrop : Device.Later compiler device (s.put name (id, device)).device :=
    later_drop { s with device } name
  exact hshows.of_later (hdrop.trans (later_run _ later)) (hholds.lt_nextId List.mem_cons_self) hm

/-- A source that compiles to the words of a module that is there already. -/
theorem create_transparent_otherKind :
    let compiler : Wgsl.Compiler := ⟨fun _ _ => .ok [7], fun _ _ _ _ _ => .ok [7]⟩
    let config : DeviceConfig := { validate := false }
    let s := (start config).run compiler [.create "a" { chain := [.source (.spirv [7])] }]
    let d : ModuleDescriptor := { chain := [.source (.wgsl "f")] }
    ∃ device device₀ m₀, s.device.create compiler d = .ok (0, device) ∧
      ({ config } : Device).create compiler d = .ok (0, device₀) ∧
      device₀.module? 0 = some m₀ ∧ device.ShowsLike 0 .wgsl m₀ := by
  intro compiler config s d
  have htransparent := create_transparent compiler config
    [.create "a" { chain := [.source (.spirv [7])] }] d
  obtain ⟨source, m₀, hsource, hm₀, hshows, -⟩ := htransparent.2.2 0 _ 0 _ rfl rfl
  cases hsource
  exact ⟨_, _, m₀, rfl, rfl, hm₀, hshows⟩

end Session

end ShaderKit
