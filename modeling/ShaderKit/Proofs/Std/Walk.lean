import Mathlib.Data.List.Nodup
import Mathlib.Data.List.Perm.Subperm

/-!
# Walks

A walk follows a partial step function for as long as it has a next element.  Where every element that
has a next one is in a list, a walk that takes more steps than the list is long never ends.

## Key results

- `Walk.endless_iff_step`: a walk is endless exactly if its first step leads to an endless walk
- `Walk.endless_of_length_lt`: a walk through few elements that does not end soon is endless
-/

namespace ShaderKit.Walk

universe u

variable {α : Type u} {next? : α → Option α} {t u : α} {m n : Nat}

/-- Where a walk from `t` is after `n` steps, if it does not end before. -/
def after? (next? : α → Option α) : Nat → α → Option α
  | 0, t => some t
  | n + 1, t => (next? t).bind (after? next? n)

/-- A walk that takes any number of steps. -/
def Endless (next? : α → Option α) (t : α) : Prop :=
  ∀ n, (after? next? n t).isSome = true

theorem after?_add (m n : Nat) (t : α) :
    after? next? (m + n) t = (after? next? m t).bind (after? next? n) := by
  induction m generalizing t with
  | zero => rw [Nat.zero_add]; rfl
  | succ m ih =>
    rw [Nat.succ_add, after?, after?]
    cases next? t with
    | none => rfl
    | some u => exact ih u

/-- A walk of many steps has taken fewer. -/
theorem isSome_after?_of_le (hmn : m ≤ n) (hn : (after? next? n t).isSome = true) :
    (after? next? m t).isSome = true := by
  obtain ⟨k, rfl⟩ := Nat.exists_eq_add_of_le hmn
  rw [after?_add] at hn
  exact Option.isSome_of_isSome_bind hn

/-- An endless walk has a first step, and is endless after it. -/
theorem endless_iff_step : Endless next? t ↔ ∃ u, next? t = some u ∧ Endless next? u := by
  constructor
  · intro ht
    cases hnext : next? t with
    | none =>
      -- there is no second place after a walk that has ended
      have hone := ht 1
      rw [after?, hnext] at hone
      exact nomatch hone
    | some u =>
      refine ⟨u, rfl, fun n => ?_⟩
      have hn := ht (n + 1)
      rwa [after?, hnext] at hn
  · rintro ⟨u, hnext, hu⟩ n
    cases n with
    | zero => rfl
    | succ n =>
      rw [after?, hnext]
      exact hu n

/-- A walk is endless exactly if it is so from where it is after some steps. -/
theorem endless_iff_after (hn : after? next? n t = some u) : Endless next? t ↔ Endless next? u := by
  constructor
  · intro ht k
    have hk := ht (n + k)
    rwa [after?_add, hn] at hk
  · intro hu k
    refine isSome_after?_of_le (Nat.le_add_left k n) ?_
    rw [after?_add, hn]
    exact hu k

/-- A walk whose steps are steps of another one goes where that goes. -/
theorem after?_of_imp {step? : α → Option α} (himp : ∀ t u, step? t = some u → next? t = some u)
    (hn : after? step? n t = some u) : after? next? n t = some u := by
  induction n generalizing t with
  | zero => exact hn
  | succ n ih =>
    obtain ⟨v, hv, hrest⟩ := Option.bind_eq_some_iff.1 hn
    exact Option.bind_eq_some_iff.2 ⟨v, himp t v hv, ih hrest⟩

/-- If a walk whose steps are steps of another one is endless, that is endless. -/
theorem Endless.of_imp {step? : α → Option α} (ht : Endless step? t)
    (himp : ∀ t u, step? t = some u → next? t = some u) : Endless next? t := by
  intro n
  obtain ⟨u, hu⟩ := Option.isSome_iff_exists.1 (ht n)
  exact Option.isSome_iff_exists.2 ⟨u, after?_of_imp himp hu⟩

/-- A walk that comes back never ends. -/
theorem endless_of_back (hn : after? next? (n + 1) t = some t) : Endless next? t := by
  -- going round any number of times
  have hback (k : Nat) : after? next? ((n + 1) * k) t = some t := by
    induction k with
    | zero => rfl
    | succ k ih =>
      rw [Nat.mul_succ, after?_add, ih]
      exact hn
  intro k
  refine isSome_after?_of_le (Nat.le_mul_of_pos_left k n.succ_pos) ?_
  rw [hback k]
  rfl

/-- A walk that takes more steps than there are elements with a next one is somewhere twice. -/
private theorem exists_after?_eq {l : List α} (hl : ∀ t u, next? t = some u → t ∈ l)
    (hlong : (after? next? (l.length + 1) t).isSome = true) :
    ∃ i j, i < j ∧ j ≤ l.length ∧ after? next? i t = after? next? j t := by
  have hmem : (List.range (l.length + 1)).map (after? next? · t) ⊆ l.map some := by
    intro x hx
    obtain ⟨i, hi, rfl⟩ := List.mem_map.1 hx
    have hi : (after? next? (i + 1) t).isSome = true :=
      isSome_after?_of_le (List.mem_range.1 hi) hlong
    rw [after?_add] at hi
    cases hat : after? next? i t with
    | none =>
      rw [hat] at hi
      exact nomatch hi
    | some v =>
      rw [hat] at hi
      have hstep : ((next? v).bind (after? next? 0)).isSome = true := hi
      obtain ⟨w, hw⟩ := Option.isSome_iff_exists.1 (Option.isSome_of_isSome_bind hstep)
      exact List.mem_map.2 ⟨v, hl v w hw, rfl⟩
  -- If these elements were all different, the list would have one more than it has.
  have hrepeats : ¬ ∀ i ∈ List.range (l.length + 1), ∀ j ∈ List.range (l.length + 1),
      after? next? i t = after? next? j t → i = j := by
    intro hinj
    have hnodup := List.Nodup.map_on hinj List.nodup_range
    have hle := (List.Nodup.subperm hnodup hmem).length_le
    simp only [List.length_map, List.length_range] at hle
    exact Nat.not_succ_le_self _ hle
  push Not at hrepeats
  obtain ⟨i, hi, j, hj, hsame, hne⟩ := hrepeats
  have hi := Nat.le_of_lt_succ (List.mem_range.1 hi)
  have hj := Nat.le_of_lt_succ (List.mem_range.1 hj)
  rcases Nat.lt_or_gt_of_ne hne with hlt | hgt
  · exact ⟨i, j, hlt, hj, hsame⟩
  · exact ⟨j, i, hgt, hi, hsame.symm⟩

/-- A walk takes no more steps than there are elements with a next one, or it never ends. -/
theorem endless_of_length_lt {l : List α} (hl : ∀ t u, next? t = some u → t ∈ l)
    (hlong : (after? next? (l.length + 1) t).isSome = true) : Endless next? t := by
  obtain ⟨i, j, hij, hj, hsame⟩ := exists_after?_eq hl hlong
  obtain ⟨p, rfl⟩ := Nat.exists_eq_add_of_lt hij
  obtain ⟨v, hv⟩ := Option.isSome_iff_exists.1
    (isSome_after?_of_le (Nat.le_succ_of_le (Nat.le_of_lt (Nat.lt_of_lt_of_le hij hj))) hlong)
  rw [Nat.add_assoc, after?_add, hv, Option.bind_some] at hsame
  exact (endless_iff_after hv).2 (endless_of_back hsame.symm)

end ShaderKit.Walk
