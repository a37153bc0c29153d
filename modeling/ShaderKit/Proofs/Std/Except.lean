/-!
# Except lemmas for the standard library

When a chain of computations in `Except` succeeds, and where it fails.  Candidates for upstreaming to
Lean's standard library.
-/

namespace Except

universe u v

variable {ε : Type u} {α β : Type v}

/-- A chain succeeds if both parts do. -/
theorem bind_eq_ok_iff {x : Except ε α} {f : α → Except ε β} {b : β} :
    x >>= f = .ok b ↔ ∃ a, x = .ok a ∧ f a = .ok b := by
  cases x with
  | error e => simp [bind, Except.bind]
  | ok a => simp [bind, Except.bind]

/-- A chain fails where its first part does, or what follows. -/
theorem bind_eq_error_iff {x : Except ε α} {f : α → Except ε β} {e : ε} :
    x >>= f = .error e ↔ x = .error e ∨ ∃ a, x = .ok a ∧ f a = .error e := by
  cases x with
  | error e => simp [bind, Except.bind]
  | ok a => simp [bind, Except.bind]

/-- Renaming errors does not change what succeeds. -/
theorem mapError_eq_ok_iff {ε' : Type u} {f : ε → ε'} {x : Except ε α} {a : α} :
    x.mapError f = .ok a ↔ x = .ok a := by
  cases x with
  | error e => exact iff_of_false nofun nofun
  | ok b => constructor <;> rintro ⟨⟩ <;> rfl

/-- Renaming errors keeps what fails. -/
theorem mapError_eq_error_iff {ε' : Type u} {f : ε → ε'} {x : Except ε α} {e' : ε'} :
    x.mapError f = .error e' ↔ ∃ e, x = .error e ∧ e' = f e := by
  cases x with
  | error e =>
    constructor
    · rintro ⟨⟩
      exact ⟨e, rfl, rfl⟩
    · rintro ⟨_, ⟨⟩, rfl⟩
      rfl
  | ok a => exact iff_of_false nofun nofun

/-- A computation whose result is seen to have a property has a result with that property. -/
theorem exists_eq_ok_of_decide {x : Except ε α} {P : α → Prop} [DecidablePred P]
    (h : x.toOption.any (fun a => decide (P a)) = true) : ∃ a, x = .ok a ∧ P a := by
  cases x with
  | error e => exact nomatch h
  | ok a => exact ⟨a, rfl, of_decide_eq_true h⟩

/-- A fold fails at the first element where a step does. -/
theorem foldlM_eq_error_iff {f : β → α → Except ε β} {l : List α} {b : β} {e : ε} :
    l.foldlM f b = .error e ↔ ∃ before x after c, l = before ++ x :: after ∧
      before.foldlM f b = .ok c ∧ f c x = .error e := by
  induction l generalizing b with
  | nil => simp [pure, Except.pure]
  | cons x l ih =>
    rw [List.foldlM_cons, bind_eq_error_iff]
    constructor
    -- the step at the first element fails, or one at a later element
    · rintro (h | ⟨c, hc, h⟩)
      · exact ⟨[], x, l, b, rfl, rfl, h⟩
      · obtain ⟨before, y, after, d, rfl, hbefore, hy⟩ := ih.1 h
        refine ⟨x :: before, y, after, d, rfl, ?_, hy⟩
        rw [List.foldlM_cons, hc]
        exact hbefore
    · rintro ⟨before, y, after, d, heq, hbefore, hy⟩
      cases before with
      | nil =>
        cases heq
        cases hbefore
        exact .inl hy
      | cons z before =>
        cases heq
        rw [List.foldlM_cons, bind_eq_ok_iff] at hbefore
        obtain ⟨c, hc, hbefore⟩ := hbefore
        exact .inr ⟨c, hc, ih.2 ⟨before, y, after, d, rfl, hbefore, hy⟩⟩

/-- In a fold that succeeds, a step succeeds at each element. -/
theorem exists_step_of_foldlM {f : β → α → Except ε β} {l : List α} {x : α} {b b' : β}
    (h : l.foldlM f b = .ok b') (hx : x ∈ l) : ∃ c c', f c x = .ok c' := by
  induction l generalizing b with
  | nil => exact nomatch hx
  | cons y l ih =>
    rw [List.foldlM_cons] at h
    obtain ⟨c, hc, hrest⟩ := bind_eq_ok_iff.1 h
    rcases List.mem_cons.1 hx with rfl | hx
    · exact ⟨b, c, hc⟩
    · exact ih hrest hx

/-- A check of a list succeeds if that of each element does. -/
theorem forM_eq_ok_iff {f : β → Except ε PUnit} {l : List β} :
    l.forM f = .ok ⟨⟩ ↔ ∀ x ∈ l, f x = .ok ⟨⟩ := by
  induction l with
  | nil => simp [pure, Except.pure]
  | cons x rest ih =>
    show (f x >>= fun _ => rest.forM f) = .ok ⟨⟩ ↔ _
    rw [bind_eq_ok_iff]
    simp only [List.mem_cons, forall_eq_or_imp, ← ih]
    constructor
    · rintro ⟨_, hx, hrest⟩
      exact ⟨hx, hrest⟩
    · rintro ⟨hx, hrest⟩
      exact ⟨⟨⟩, hx, hrest⟩

/-- Where a list ascends by a key, its check fails with the error of the element of least key that fails. -/
theorem forM_eq_error_iff {f : β → Except ε PUnit} (key : β → Nat) {l : List β} {e : ε}
    (hl : l.Pairwise fun a b => key a < key b) :
    l.forM f = .error e ↔
      ∃ x ∈ l, (∀ y ∈ l, key y < key x → f y = .ok ⟨⟩) ∧ f x = .error e := by
  induction l with
  | nil => exact ⟨nofun, fun ⟨_, hx, _⟩ => nomatch hx⟩
  | cons a rest ih =>
    obtain ⟨ha, hrest⟩ := List.pairwise_cons.1 hl
    rw [show (a :: rest).forM f = (f a >>= fun _ => rest.forM f) from rfl]
    -- the head has the least key: if it fails, it is the one, and otherwise the rest decides
    cases hfa : f a with
    | error e' =>
      constructor
      · rintro h
        cases h
        refine ⟨a, List.mem_cons_self, fun y hy hlt => ?_, hfa⟩
        rcases List.mem_cons.1 hy with rfl | hy
        · exact absurd hlt (Nat.lt_irrefl _)
        · exact absurd (ha y hy) (Nat.lt_asymm hlt)
      · rintro ⟨x, hx, hbelow, hfx⟩
        rcases List.mem_cons.1 hx with rfl | hx
        · exact hfa.symm.trans hfx
        · exact nomatch hfa.symm.trans (hbelow a List.mem_cons_self (ha x hx))
    | ok _ =>
      show rest.forM f = .error e ↔ _
      rw [ih hrest]
      constructor
      · rintro ⟨x, hx, hbelow, hfx⟩
        refine ⟨x, List.mem_cons_of_mem _ hx, fun y hy hlt => ?_, hfx⟩
        rcases List.mem_cons.1 hy with rfl | hy
        · exact hfa
        · exact hbelow y hy hlt
      · rintro ⟨x, hx, hbelow, hfx⟩
        rcases List.mem_cons.1 hx with rfl | hx
        · exact nomatch hfa.symm.trans hfx
        · exact ⟨x, hx, fun y hy => hbelow y (List.mem_cons_of_mem _ hy), hfx⟩

end Except
