import ShaderKit.Proofs.Std.Except
import ShaderKit.Resource.Extraction

/-!
# Defects of an inventory

Every rule of extraction that an inventory breaks, in the order in which extraction comes to it.
Extraction stops at the first one; this module lists them all and shows that for the declarations the
first of the list is the one that is reported.

## Key results

- `foldlM_addTo_of_defects`: adding declarations reports the first defect among them
- `foldlM_addTo_of_no_defects`: without defects every declaration fills its slot, and only those do
-/

namespace ShaderKit.Resource

namespace Declaration

/-- The group and binding number of a declaration that gives both. -/
def slot? (d : Declaration) : Option (Nat × Nat) :=
  match d.set, d.binding with
  | some group, some binding => some (group, binding)
  | _, _ => none

/-- The rule that a declaration of class `cls` breaks where the slots `taken` are taken. -/
def defect? (d : Declaration) (cls : BindingKind) (taken : List (Nat × Nat)) :
    Option ExtractionError :=
  match d.binding, d.set with
  | none, _ => some (.missingBinding d.name)
  | some _, none => some (.missingSet d.name)
  | some binding, some group =>
    if Limits.bindGroups ≤ group then some (.groupOverLimit group)
    else if Limits.bindingNumber < binding then some (.bindingOverLimit group binding)
    else if (group, binding) ∈ taken then some (.duplicateBinding group binding)
    else match d.requirement cls with
      | .error e => some e
      | .ok _ => none

/-- A declaration without a defect names a slot within the limits that is not taken, and its
requirement is known. -/
theorem of_defect?_eq_none {d : Declaration} {cls : BindingKind} {taken : List (Nat × Nat)}
    (h : d.defect? cls taken = none) :
    ∃ binding group x, d.binding = some binding ∧ d.set = some group ∧ d.requirement cls = .ok x ∧
      group < Limits.bindGroups ∧ binding ≤ Limits.bindingNumber ∧ (group, binding) ∉ taken := by
  unfold defect? at h
  split at h
  · exact nomatch h
  · exact nomatch h
  · rename_i binding group hbinding hset
    split at h
    · exact nomatch h
    · split at h
      · exact nomatch h
      · split at h
        · exact nomatch h
        · rename_i hg hb hfree
          split at h
          · exact nomatch h
          · rename_i x hx
            exact ⟨binding, group, x, hbinding, hset, hx, by omega, by omega, hfree⟩

/-- A declaration of class `cls` puts the requirement `x` on a slot. -/
def Requires (d : Declaration) (cls : BindingKind) (group binding : Nat) (x : ShaderBinding) : Prop :=
  d.set = some group ∧ d.binding = some binding ∧ d.requirement cls = .ok x

end Declaration

/-- The defects of declarations that stand after others which take the slots `taken`. -/
def declarationDefects (taken : List (Nat × Nat)) :
    List (BindingKind × Declaration) → List ExtractionError
  | [] => []
  | (cls, d) :: rest =>
    (d.defect? cls taken).toList ++ declarationDefects (d.slot?.toList ++ taken) rest

/-- The bindings of `m` are the requirements of the declarations `ds`, which take the slots `taken`. -/
structure Filled (m : EntryPointMetadata) (taken : List (Nat × Nat))
    (ds : List (BindingKind × Declaration)) : Prop where
  contains_iff : ∀ group binding,
    (m.group group).contains binding = true ↔ (group, binding) ∈ taken
  find?_eq_some_iff : ∀ group binding x,
    (m.group group).find? binding = some x ↔ ∃ c ∈ ds, c.2.Requires c.1 group binding x

/-- Metadata in which nothing is declared. -/
theorem filled_nil (stage : Stage) : Filled { stage } [] [] := by
  have hgroup : ∀ g, ({ stage } : EntryPointMetadata).group g = .empty := by
    intro g
    unfold EntryPointMetadata.group
    by_cases hg : g < Limits.bindGroups
    · simp [hg]
    · simp [hg]
  constructor
  · intro g b
    simp [hgroup, NumberMap.contains]
  · intro g b x
    simp [hgroup]

/-- The groups of metadata in which one group is replaced. -/
theorem group_set (m : EntryPointMetadata) {i : Nat} (hi : i < Limits.bindGroups)
    (b : GroupBindings) (g : Nat) :
    ({ m with bindings := m.bindings.set i b } : EntryPointMetadata).group g =
      if g = i then b else m.group g := by
  unfold EntryPointMetadata.group
  split
  · rename_i heq
    subst heq
    simp [hi]
  · rename_i hne
    simp [Ne.symm hne]

/-- A declaration with a defect is refused for it. -/
theorem addTo_of_defect? {m : EntryPointMetadata} {taken : List (Nat × Nat)}
    {ds : List (BindingKind × Declaration)} (hf : Filled m taken ds) {d : Declaration}
    {cls : BindingKind} {e : ExtractionError} (h : d.defect? cls taken = some e) :
    d.addTo cls m = .error e := by
  unfold Declaration.defect? at h
  unfold Declaration.addTo
  cases hbinding : d.binding with
  | none => simpa [hbinding] using h
  | some binding =>
    cases hset : d.set with
    | none => simpa [hbinding, hset] using h
    | some group =>
      simp only [hbinding, hset] at h
      -- the slot is named; the group, the number, the slot and the requirement are checked in this
      -- order
      by_cases hg : Limits.bindGroups ≤ group
      · simpa [hg, Nat.not_lt.2 hg] using h
      · have hlt : group < Limits.bindGroups := by omega
        have hgroup : m.bindings[group] = m.group group := by simp [EntryPointMetadata.group, hlt]
        have hcontains := hf.contains_iff group binding
        simp only [hg, if_false, ← hcontains] at h
        simp only [dif_pos hlt, hgroup]
        split at h
        · rename_i hb
          simpa [hb] using h
        · rename_i hb
          rw [if_neg hb]
          split at h
          · rename_i htaken
            simpa [htaken] using h
          · split at h
            · rename_i e' he
              cases h
              simp [*, bind, Except.bind]
            · exact nomatch h

/-- A declaration without a defect fills its slot, and leaves everything else as it was. -/
theorem addTo_of_no_defect {m : EntryPointMetadata} {taken : List (Nat × Nat)}
    {ds : List (BindingKind × Declaration)} (hf : Filled m taken ds) {d : Declaration}
    {cls : BindingKind} (h : d.defect? cls taken = none) :
    ∃ m', d.addTo cls m = .ok m' ∧ Filled m' (d.slot?.toList ++ taken) (ds ++ [(cls, d)]) ∧
      m' = { m with bindings := m'.bindings } := by
  obtain ⟨binding, group, x, hbinding, hset, hx, hlt, hle, hfree⟩ := Declaration.of_defect?_eq_none h
  have hnew : (m.group group).find? binding = none := by
    simpa [NumberMap.contains] using mt (hf.contains_iff group binding).1 hfree
  have hadd : d.addTo cls m = .ok { m with
      bindings := m.bindings.set group ((m.group group).insert binding x) } := by
    have hgroup : m.bindings[group] = m.group group := by simp [EntryPointMetadata.group, hlt]
    unfold Declaration.addTo
    simp only [hbinding, hset, dif_pos hlt, hgroup, hx]
    rw [if_neg (by omega), if_neg (by simp [NumberMap.contains, hnew])]
    rfl
  refine ⟨_, hadd, ⟨fun g b => ?_, fun g b y => ?_⟩, rfl⟩
  -- only the slot of the declaration changes: other groups and other numbers are as before
  · rw [group_set m hlt]
    simp only [Declaration.slot?, hbinding, hset, Option.toList_some, List.cons_append,
      List.nil_append, List.mem_cons, Prod.mk.injEq, ← hf.contains_iff g b]
    split
    · rename_i hg
      subst hg
      by_cases hb : b = binding
      · simp [NumberMap.contains, hb]
      · simp [NumberMap.contains, NumberMap.find?_insert_of_ne _ _ hb, hb]
    · rename_i hg
      simp [hg]
  · rw [group_set m hlt]
    simp only [List.mem_append, List.mem_singleton, or_and_right, exists_or, exists_eq_left]
    rw [← hf.find?_eq_some_iff g b y]
    simp only [Declaration.Requires, hbinding, hset, hx, Option.some.injEq, Except.ok.injEq]
    split
    · rename_i hg
      subst hg
      by_cases hb : b = binding
      · subst hb
        simp [hnew]
      · simp [NumberMap.find?_insert_of_ne _ _ hb, Ne.symm hb]
    · rename_i hg
      simp [Ne.symm hg]

/-- Adding declarations reports the first defect among them. -/
theorem foldlM_addTo_of_defects {ds before : List (BindingKind × Declaration)}
    {m : EntryPointMetadata} {taken : List (Nat × Nat)} (hf : Filled m taken before)
    {e : ExtractionError} (h : (declarationDefects taken ds).head? = some e) :
    ds.foldlM (fun m (cls, d) => d.addTo cls m) m = .error e := by
  -- the slots that are taken so far decide which declaration has a defect
  induction ds generalizing m taken before with
  | nil => simp [declarationDefects] at h
  | cons c rest ih =>
    obtain ⟨cls, d⟩ := c
    simp only [List.foldlM_cons]
    cases hd : d.defect? cls taken with
    | some e' =>
      simp only [declarationDefects, hd, Option.toList_some, List.cons_append, List.head?_cons,
        Option.some.injEq] at h
      subst h
      rw [addTo_of_defect? hf hd]
      rfl
    | none =>
      simp only [declarationDefects, hd, Option.toList_none, List.nil_append] at h
      obtain ⟨m', hm', hf', _⟩ := addTo_of_no_defect hf hd
      rw [hm']
      exact ih hf' h

/-- Without defects every declaration fills its slot, and only those do. -/
theorem foldlM_addTo_of_no_defects {ds before : List (BindingKind × Declaration)}
    {m : EntryPointMetadata} {taken : List (Nat × Nat)} (hf : Filled m taken before)
    (h : declarationDefects taken ds = []) :
    ∃ m' taken', ds.foldlM (fun m (cls, d) => d.addTo cls m) m = .ok m' ∧
      Filled m' taken' (before ++ ds) ∧ m' = { m with bindings := m'.bindings } := by
  induction ds generalizing m taken before with
  | nil => exact ⟨m, taken, rfl, by simpa using hf, rfl⟩
  | cons c rest ih =>
    obtain ⟨cls, d⟩ := c
    simp only [List.foldlM_cons]
    simp only [declarationDefects, List.append_eq_nil_iff, Option.toList_eq_nil_iff] at h
    -- each declaration takes its slot, and only the bindings change
    obtain ⟨m₁, hm₁, hf₁, heq₁⟩ := addTo_of_no_defect hf h.1
    obtain ⟨m₂, taken₂, hm₂, hf₂, heq₂⟩ := ih hf₁ h.2
    refine ⟨m₂, taken₂, ?_, by simpa using hf₂, ?_⟩
    · rw [hm₁]
      exact hm₂
    · rw [heq₂, heq₁]

end ShaderKit.Resource
