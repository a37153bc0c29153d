import ShaderKit.Binding.NumberMap

/-!
# Looking up in number maps

Two maps with the same look-ups are the same map, and one in which nothing is found is empty.  What is
put under a key above all others goes last.
-/

namespace ShaderKit.NumberMap

universe u

variable {α : Type u}

/-- Two ascending lists with the same members are the same list. -/
private theorem eq_of_ascending {l k : List (Nat × α)} (hl : l.Pairwise fun a b => a.1 < b.1)
    (hk : k.Pairwise fun a b => a.1 < b.1) (h : ∀ x, x ∈ l ↔ x ∈ k) : l = k := by
  induction l generalizing k with
  | nil =>
    cases k with
    | nil => rfl
    | cons b k => exact absurd ((h b).2 (by simp)) (by simp)
  | cons a l ih =>
    cases k with
    | nil => exact absurd ((h a).1 (by simp)) (by simp)
    | cons b k =>
      -- the heads are the least members of their lists
      obtain ⟨hal, hl'⟩ := List.pairwise_cons.1 hl
      obtain ⟨hbk, hk'⟩ := List.pairwise_cons.1 hk
      have hab : a = b := by
        rcases List.mem_cons.1 ((h a).1 (by simp)) with hab | hak
        · exact hab
        · rcases List.mem_cons.1 ((h b).2 (by simp)) with hba | hbl
          · exact hba.symm
          · have h₁ := hbk a hak
            have h₂ := hal b hbl
            omega
      subst hab
      -- what is left of either list has members above the head only, so the head is none of them
      refine congrArg (a :: ·) (ih hl' hk' fun x => ⟨fun hx => ?_, fun hx => ?_⟩)
      · rcases List.mem_cons.1 ((h x).1 (List.mem_cons_of_mem _ hx)) with rfl | hx'
        · have := hal x hx
          omega
        · exact hx'
      · rcases List.mem_cons.1 ((h x).2 (List.mem_cons_of_mem _ hx)) with rfl | hx'
        · have := hbk x hx
          omega
        · exact hx'

/-- Two maps with the same look-ups are equal. -/
theorem ext_find? {m n : NumberMap α} (h : ∀ k v, m.find? k = some v ↔ n.find? k = some v) :
    m = n := by
  apply ext
  apply eq_of_ascending m.ascending n.ascending
  rintro ⟨k, v⟩
  rw [← find?_eq_some_iff, ← find?_eq_some_iff]
  exact h k v

/-- A map is empty exactly if nothing is found in it. -/
theorem isEmpty_iff {m : NumberMap α} : m.isEmpty = true ↔ ∀ k v, m.find? k ≠ some v := by
  rw [isEmpty, List.isEmpty_iff, List.eq_nil_iff_forall_not_mem, Prod.forall]
  exact forall₂_congr fun k v => not_congr (find?_eq_some_iff m).symm

/-- A key above all others goes last. -/
theorem entries_insert_of_lt {m : NumberMap α} {k : Nat} (v : α) (hk : ∀ e ∈ m.entries, e.1 < k) :
    (m.insert k v).entries = m.entries ++ [(k, v)] := by
  obtain ⟨l, h⟩ := m
  show place k v l = l ++ [(k, v)]
  induction l with
  | nil => rfl
  | cons e rest ih =>
    have he := hk e List.mem_cons_self
    rw [place, if_neg (Nat.lt_asymm he), if_neg (Nat.ne_of_gt he), List.cons_append,
      ih (List.pairwise_cons.1 h).2 fun x hx => hk x (List.mem_cons_of_mem e hx)]

/-- Nothing is taken out under a key that is not there. -/
theorem erase_of_find?_eq_none {m : NumberMap α} {k : Nat} (hk : m.find? k = none) :
    m.erase k = m := by
  refine ext (List.filter_eq_self.2 fun e he => bne_iff_ne.2 fun heq => ?_)
  have hsome := (find?_eq_some_iff m).2 he
  rw [heq, hk] at hsome
  exact nomatch hsome

/-- Only what is under the key is taken out. -/
theorem find?_erase (m : NumberMap α) (k j : Nat) :
    (m.erase k).find? j = if j = k then none else m.find? j := by
  refine Option.ext fun v => ?_
  have herase : (m.erase k).find? j = some v ↔ (j, v) ∈ m.entries ∧ j ≠ k := by
    rw [find?_eq_some_iff]
    show (j, v) ∈ m.entries.filter _ ↔ _
    rw [List.mem_filter, bne_iff_ne]
  rw [herase, ← find?_eq_some_iff]
  by_cases hj : j = k <;> simp [hj]

/-- One entry at most is under a key. -/
theorem filterMap_entries {β : Type u} (m : NumberMap α) (k : Nat) (f : α → β) :
    (m.entries.filterMap fun e => if k = e.1 then some (f e.2) else none) =
      (m.find? k).toList.map f := by
  obtain ⟨l, h⟩ := m
  show _ = ((l.find? (·.1 == k)).map (·.2)).toList.map f
  induction l with
  | nil => rfl
  | cons e rest ih =>
    obtain ⟨he, hrest⟩ := List.pairwise_cons.1 h
    by_cases hk : k = e.1
    -- the keys of the rest are above this one
    · have hnone : (rest.filterMap fun e => if k = e.1 then some (f e.2) else none) = [] := by
        refine List.filterMap_eq_nil_iff.2 fun x hx => if_neg ?_
        rw [hk]
        exact Nat.ne_of_lt (he x hx)
      rw [List.filterMap_cons, if_pos hk, List.find?_cons_of_pos (by simp [hk]), hnone]
      rfl
    · rw [List.filterMap_cons, if_neg hk, List.find?_cons_of_neg (by simpa using Ne.symm hk)]
      exact ih hrest

end ShaderKit.NumberMap
