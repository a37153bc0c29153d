import Mathlib.Data.List.Forall2

/-!
# List lemmas for the standard library

Sorting by a key, elements that come first, lists with one element changed, actions on each element, lists
that are related element by element, and lists of values under keys.  Candidates for upstreaming to Lean's
standard library.
-/

namespace List

universe u v

variable {α : Type u}

/-- Sorting by a key does not touch the order among elements of one key. -/
theorem filter_mergeSort_key (key : α → Nat) (l : List α) (k : Nat) :
    (l.mergeSort fun a b => key a ≤ key b).filter (key · == k) = l.filter (key · == k) := by
  have hpair : (l.filter (key · == k)).Pairwise fun a b => (key a ≤ key b) = true := by
    refine pairwise_iff_forall_sublist.2 fun {a b} hab => ?_
    have ha := (mem_filter.1 (hab.subset (by simp : a ∈ [a, b]))).2
    have hb := (mem_filter.1 (hab.subset (by simp : b ∈ [a, b]))).2
    simp only [beq_iff_eq] at ha hb
    simp [ha, hb]
  have hsub : l.filter (key · == k) <+ l.mergeSort fun a b => key a ≤ key b :=
    sublist_mergeSort (fun a b c hab hbc => by simp at *; omega) (fun a b => by simp; omega)
      (by simpa using hpair) filter_sublist
  have hfilter := hsub.filter (key · == k)
  simp only [filter_filter, Bool.and_self] at hfilter
  refine (hfilter.eq_of_length ?_).symm
  exact ((mergeSort_perm l _).filter _).length_eq.symm

/-- Only the element that is taken out is missing then. -/
theorem mem_eraseIdx_or_eq {l : List α} {i : Nat} {a b : α} (hb : l[i]? = some b) (ha : a ∈ l) :
    a ∈ l.eraseIdx i ∨ a = b := by
  obtain ⟨j, hj⟩ := mem_iff_getElem?.1 ha
  by_cases heq : j = i
  · exact .inr (Option.some.inj (hj.symm.trans (heq ▸ hb)))
  · exact .inl (mem_eraseIdx_iff_getElem?.2 ⟨j, heq, hj⟩)

/-- Only the element that is replaced is missing then. -/
theorem mem_set_or_eq {l : List α} {i : Nat} {a b : α} (d : α) (hb : l[i]? = some b) (ha : a ∈ l) :
    a ∈ l.set i d ∨ a = b := by
  obtain ⟨j, hj⟩ := mem_iff_getElem?.1 ha
  by_cases heq : j = i
  · exact .inr (Option.some.inj (hj.symm.trans (heq ▸ hb)))
  · refine .inl (mem_iff_getElem?.2 ⟨j, ?_⟩)
    rw [getElem?_set_ne (Ne.symm heq), hj]

/-- Numbering what is made of a list two at a time. -/
theorem map_range_two_mul {β : Type u} {f : Nat → β} {g : α → List β} {l : List α}
    (h : ∀ q (hq : q < l.length), g l[q] = [f (2 * q), f (2 * q + 1)]) :
    (range (2 * l.length)).map f = l.flatMap g := by
  induction l generalizing f with
  | nil => rfl
  | cons a l ih =>
    have hrest : (range (2 * l.length)).map (fun i => f (i + 2)) = l.flatMap g :=
      ih fun q hq => h (q + 1) (by simpa using hq)
    rw [length_cons, Nat.mul_succ, range_succ_eq_map, range_succ_eq_map, flatMap_cons, ← hrest]
    have hfirst : g a = [f 0, f 1] := h 0 (by simp)
    simp [hfirst]

/-- A filter whose tests all have answers has a result. -/
theorem filterM_pure {m : Type → Type v} [Monad m] [LawfulMonad m] {α : Type} (p : α → Bool)
    (l : List α) : l.filterM (fun a => (pure (p a) : m Bool)) = pure (l.filter p) := by
  -- the accumulator holds the elements so far in reverse
  have haux (acc : List α) :
      filterAuxM (fun a => (pure (p a) : m Bool)) l acc = pure ((l.filter p).reverse ++ acc) := by
    induction l generalizing acc with
    | nil => rfl
    | cons a rest ih =>
      rw [filterAuxM, pure_bind, ih]
      cases h : p a <;> simp [h]
  rw [filterM, haux, pure_bind, append_nil, reverse_reverse]

/-- Actions one after another depend on what each of them does. -/
theorem mapM_congr {m : Type u → Type v} [Monad m] [LawfulMonad m] {β : Type u} {f g : α → m β}
    {l : List α} (h : ∀ a ∈ l, f a = g a) : l.mapM f = l.mapM g := by
  induction l with
  | nil => rfl
  | cons a l ih =>
    rw [mapM_cons, mapM_cons, h a mem_cons_self, ih fun b hb => h b (mem_cons_of_mem _ hb)]

/-- Where the elements with a property come first, they are as many first elements as there are. -/
theorem take_countP {p : α → Bool} {l : List α}
    (h : l.Pairwise fun a b => p b = true → p a = true) : l.take (l.countP p) = l.filter p := by
  induction l with
  | nil => rfl
  | cons a l ih =>
    obtain ⟨ha, hl⟩ := pairwise_cons.1 h
    by_cases hpa : p a = true
    · rw [countP_cons_of_pos hpa, filter_cons_of_pos hpa, take_succ_cons, ih hl]
    -- an element without the property is followed by none with it
    · have hnone : ∀ b ∈ l, ¬ p b = true := fun b hb hpb => hpa (ha b hb hpb)
      rw [countP_cons_of_neg hpa, filter_cons_of_neg hpa, countP_eq_zero.2 hnone,
        filter_eq_nil_iff.2 hnone]
      rfl

/-- Where the elements with a property come first, they are at the indices below their number. -/
theorem lt_countP_iff {p : α → Bool} {l : List α} (h : l.Pairwise fun a b => p b = true → p a = true)
    (i : Nat) : i < l.countP p ↔ ∃ a, l[i]? = some a ∧ p a = true := by
  induction l generalizing i with
  | nil => simp
  | cons a l ih =>
    obtain ⟨ha, hl⟩ := pairwise_cons.1 h
    by_cases hpa : p a = true
    · rw [countP_cons_of_pos hpa]
      cases i with
      | zero => simp [hpa]
      | succ i => rw [Nat.succ_lt_succ_iff, ih hl, getElem?_cons_succ]
    · -- then no element after `a` has the property either
      have hnone : ∀ b ∈ l, ¬ p b = true := fun b hb hpb => hpa (ha b hb hpb)
      rw [countP_cons_of_neg hpa, countP_eq_zero.2 hnone]
      refine iff_of_false (Nat.not_lt_zero i) ?_
      rintro ⟨b, hb, hpb⟩
      rcases mem_cons.1 (mem_of_getElem? hb) with rfl | hmem
      · exact hpa hpb
      · exact hnone b hmem hpb

/-- Among the elements with a property, one stands behind those that stood before it. -/
theorem filter_getElem?_countP {p : α → Bool} (before after : List α) {a : α} (ha : p a = true) :
    ((before ++ a :: after).filter p)[before.countP p]? = some a := by
  rw [filter_append, filter_cons_of_pos ha, countP_eq_length_filter,
    getElem?_append_right (Nat.le_refl _), Nat.sub_self]
  rfl

/-- Elements stay where they are in a list that goes on. -/
theorem IsPrefix.getElem?_eq_some {l l' : List α} (h : l <+: l') {i : Nat} {a : α}
    (ha : l[i]? = some a) : l'[i]? = some a := by
  obtain ⟨rest, rfl⟩ := h
  rw [getElem?_append_left (getElem?_eq_some_iff.1 ha).1, ha]

section Related

variable {β : Type v} {R : α → β → Prop} {l : List α} {l' : List β}

/-- What an element is related to stands in its place. -/
theorem Forall₂.exists_getElem? (h : Forall₂ R l l') {i : Nat} {a : α} (ha : l[i]? = some a) :
    ∃ b, l'[i]? = some b ∧ R a b := by
  obtain ⟨hlt, rfl⟩ := getElem?_eq_some_iff.1 ha
  have hlt' : i < l'.length := h.length_eq ▸ hlt
  exact ⟨l'[i], getElem?_eq_getElem hlt', h.get hlt hlt'⟩

/-- Each element on the right is related to one on the left. -/
theorem Forall₂.exists_mem_left (h : Forall₂ R l l') {b : β} (hb : b ∈ l') : ∃ a ∈ l, R a b := by
  obtain ⟨i, hlt, rfl⟩ := mem_iff_getElem.1 hb
  have hlt' : i < l.length := h.length_eq ▸ hlt
  exact ⟨l[i], getElem_mem hlt', h.get hlt' hlt⟩

/-- Each element on the left is related to one on the right. -/
theorem Forall₂.exists_mem_right (h : Forall₂ R l l') {a : α} (ha : a ∈ l) : ∃ b ∈ l', R a b := by
  obtain ⟨i, hlt, rfl⟩ := mem_iff_getElem.1 ha
  have hlt' : i < l'.length := h.length_eq ▸ hlt
  exact ⟨l'[i], getElem_mem hlt', h.get hlt hlt'⟩

end Related

/-- Where no two elements have a property, finding one does not depend on the order. -/
theorem Perm.find?_eq {p : α → Bool} {l l' : List α} (h : l'.Perm l)
    (hunique : ∀ a ∈ l, ∀ b ∈ l, p a = true → p b = true → a = b) : l'.find? p = l.find? p := by
  cases hfind : l.find? p with
  | none =>
    rw [find?_eq_none] at hfind ⊢
    exact fun a ha => hfind a (h.mem_iff.1 ha)
  | some a =>
    have ha := mem_of_find?_eq_some hfind
    obtain ⟨b, hb⟩ := Option.isSome_iff_exists.1
      (find?_isSome.2 ⟨a, h.mem_iff.2 ha, find?_some hfind⟩)
    -- what the other order finds has the property too, so it is the same element
    have hmem := h.mem_iff.1 (mem_of_find?_eq_some hb)
    rw [hb, hunique b hmem a ha (find?_some hb) (find?_some hfind)]

section Lookup

variable {κ : Type u} {β : Type v} [DecidableEq κ] {k : κ} {v : β} {l : List (κ × β)}

/-- The first value under a key is that of the head, or of the tail. -/
theorem lookup_cons_ite (k : κ) (x : κ × β) (l : List (κ × β)) :
    (x :: l).lookup k = if k = x.1 then some x.2 else l.lookup k := by
  rw [lookup_cons]
  by_cases hk : k = x.1
  · simp [hk]
  · rw [if_neg hk, beq_eq_false_iff_ne.2 hk]

/-- What holds of all that is found goes on to hold if it holds of one more. -/
theorem forall_lookup_cons {P : κ → β → Prop} (hv : P k v) (hl : ∀ k' v', l.lookup k' = some v' → P k' v')
    (k' : κ) (v' : β) (h : ((k, v) :: l).lookup k' = some v') : P k' v' := by
  rw [lookup_cons_ite] at h
  split at h
  · rename_i hk
    cases h
    exact hk ▸ hv
  · exact hl k' v' h

/-- Where no key occurs twice, looking up is membership. -/
theorem lookup_eq_some_iff_mem (hkeys : (l.map (·.1)).Nodup) :
    l.lookup k = some v ↔ (k, v) ∈ l := by
  induction l with
  | nil => simp
  | cons x l ih =>
    obtain ⟨hx, hkeys⟩ := nodup_cons.1 hkeys
    rw [lookup_cons_ite, mem_cons, ← ih hkeys]
    by_cases hk : k = x.1
    · have hnot : (k, v) ∉ l := fun hmem => hx (mem_map.2 ⟨_, hmem, hk⟩)
      have htail : ¬ l.lookup k = some v := fun h => hnot ((ih hkeys).1 h)
      simp only [if_pos hk, htail, or_false, Option.some.injEq]
      exact ⟨fun h => Prod.ext hk h.symm, fun h => h ▸ rfl⟩
    · have hhead : (k, v) ≠ x := fun h => hk (h ▸ rfl)
      simp [hk, hhead]

/-- Where no key occurs twice, looking up does not depend on the order. -/
theorem Perm.lookup_eq {l' : List (κ × β)} (h : l'.Perm l) (hkeys : (l.map (·.1)).Nodup) (k : κ) :
    l'.lookup k = l.lookup k := by
  have hkeys' : (l'.map (·.1)).Nodup := (h.map _).nodup_iff.2 hkeys
  ext v
  rw [lookup_eq_some_iff_mem hkeys, lookup_eq_some_iff_mem hkeys', h.mem_iff]

/-- Where no key occurs twice, one value stands beside those under other keys. -/
theorem perm_cons_filter_key (hkeys : (l.map (·.1)).Nodup) (h : (k, v) ∈ l) :
    l.Perm ((k, v) :: l.filter (·.1 != k)) := by
  induction l with
  | nil => exact nomatch h
  | cons x l ih =>
    obtain ⟨hx, hkeys⟩ := nodup_cons.1 hkeys
    rcases mem_cons.1 h with rfl | h
    · have hall : ∀ y ∈ l, (y.1 != k) = true := fun y hy =>
        bne_iff_ne.2 fun heq => hx (mem_map.2 ⟨y, hy, heq⟩)
      rw [filter_cons_of_neg (by simp), filter_eq_self.2 hall]
    · have hne : (x.1 != k) = true := bne_iff_ne.2 fun heq => hx (mem_map.2 ⟨_, h, heq.symm⟩)
      rw [filter_cons_of_pos (p := fun y : κ × β => y.1 != k) hne]
      exact ((ih hkeys h).cons x).trans (.swap ..)

end Lookup

end List
