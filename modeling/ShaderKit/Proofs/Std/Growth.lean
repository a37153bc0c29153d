import Mathlib.Data.List.Forall2
import ShaderKit.Proofs.Std.Except

/-!
# Actions that add to what is known

A relation `I` between states and lists says that a list holds what is known about a state.  An action grows
what is known if it leaves a state about which more is known.  Where a state is built up step by step, such
a list says of each step what it added.

## Key results

- `Grows.bind`, `Grows.mapM`: what follows for actions one after another
- `GrowsOrFails.bind`, `GrowsOrFails.mapM`: the same for actions that can fail
-/

namespace ShaderKit

variable {σ γ α β ι ε : Type} {I : σ → List γ → Prop} {xs : List γ}

/-- Whatever has a rule for results and a rule for actions in order has one for a list of actions, if what is
known of a result stays known. -/
private theorem mapM_of_rules {m : Type → Type} [Monad m] [LawfulMonad m]
    {G : ∀ {α : Type}, m α → List γ → (List γ → α → Prop) → Prop}
    (hpure : ∀ {α : Type} {xs : List γ} {a : α} {post : List γ → α → Prop},
      post xs a → G (Pure.pure a) xs post)
    (hbind : ∀ {α β : Type} {xs : List γ} {x : m α} {f : α → m β} {mid : List γ → α → Prop}
      {post : List γ → β → Prop}, G x xs mid →
        (∀ a ys, xs <+: ys → mid ys a → G (f a) ys post) → G (x >>= f) xs post)
    {f : ι → m α} {post : ι → List γ → α → Prop} {l : List ι}
    (hpost : ∀ i ys zs a, ys <+: zs → post i ys a → post i zs a)
    (hf : ∀ i ∈ l, ∀ ys, xs <+: ys → G (f i) ys (post i)) :
    G (l.mapM f) xs fun ys as => List.Forall₂ (fun i a => post i ys a) l as := by
  -- what is known grows along the list, so the rest starts from what the first action left
  induction l generalizing xs with
  | nil => exact hpure .nil
  | cons i rest ih =>
    rw [List.mapM_cons]
    refine hbind (hf i (by simp) xs (List.prefix_refl xs)) fun a ys hys ha => ?_
    refine hbind (ih fun j hj zs hzs => hf j (List.mem_cons_of_mem _ hj) zs (hys.trans hzs))
      fun as zs hzs has => hpure ?_
    exact .cons (hpost i ys zs a hzs ha) has

/-- From every state about which `xs` is known the action leads to one about which more is known, and gives
a result of which `post` holds. -/
def Grows (I : σ → List γ → Prop) (action : StateM σ α) (xs : List γ) (post : List γ → α → Prop) :
    Prop :=
  ∀ s, I s xs → ∃ ys, xs <+: ys ∧ I (action s).2 ys ∧ post ys (action s).1

namespace Grows

theorem pure {a : α} {post : List γ → α → Prop} (h : post xs a) : Grows I (Pure.pure a) xs post :=
  fun _ hs => ⟨xs, List.prefix_refl xs, hs, h⟩

theorem bind {x : StateM σ α} {f : α → StateM σ β} {mid : List γ → α → Prop}
    {post : List γ → β → Prop} (hx : Grows I x xs mid)
    (hf : ∀ a ys, xs <+: ys → mid ys a → Grows I (f a) ys post) : Grows I (x >>= f) xs post := by
  intro s hs
  obtain ⟨ys, hys, hmiddle, hmid⟩ := hx s hs
  obtain ⟨zs, hzs, hlast, hpost⟩ := hf _ ys hys hmid _ hmiddle
  exact ⟨zs, hys.trans hzs, hlast, hpost⟩

theorem mono {x : StateM σ α} {mid post : List γ → α → Prop} (hx : Grows I x xs mid)
    (h : ∀ ys a, xs <+: ys → mid ys a → post ys a) : Grows I x xs post := by
  intro s hs
  obtain ⟨ys, hys, hlast, hmid⟩ := hx s hs
  exact ⟨ys, hys, hlast, h ys _ hys hmid⟩

/-- What the action needs can be taken from the state that it starts in. -/
theorem of_known {x : StateM σ α} {post : List γ → α → Prop} (h : ∀ s, I s xs → Grows I x xs post) :
    Grows I x xs post :=
  fun s hs => h s hs s hs

/-- Actions one after another give a result for each, if what is known of a result stays known. -/
theorem mapM {f : ι → StateM σ α} {post : ι → List γ → α → Prop} {l : List ι}
    (hpost : ∀ i ys zs a, ys <+: zs → post i ys a → post i zs a)
    (hf : ∀ i ∈ l, ∀ ys, xs <+: ys → Grows I (f i) ys (post i)) :
    Grows I (l.mapM f) xs fun ys as => List.Forall₂ (fun i a => post i ys a) l as :=
  mapM_of_rules pure bind hpost hf

end Grows

/-- Where the action does not fail, it leads from every state about which `xs` is known to one about which
more is known, and gives a result of which `post` holds. -/
def GrowsOrFails (I : σ → List γ → Prop) (action : StateT σ (Except ε) α) (xs : List γ)
    (post : List γ → α → Prop) : Prop :=
  ∀ s a s', I s xs → action s = .ok (a, s') → ∃ ys, xs <+: ys ∧ I s' ys ∧ post ys a

namespace GrowsOrFails

theorem pure {a : α} {post : List γ → α → Prop} (h : post xs a) :
    GrowsOrFails I (Pure.pure a : StateT σ (Except ε) α) xs post := by
  rintro s a' s' hs ⟨⟩
  exact ⟨xs, List.prefix_refl xs, hs, h⟩

theorem throw {e : ε} {post : List γ → α → Prop} :
    GrowsOrFails I (throw e : StateT σ (Except ε) α) xs post :=
  fun _ _ _ _ h => nomatch h

/-- An action that cannot fail. -/
theorem lift {x : StateM σ α} {post : List γ → α → Prop} (h : Grows I x xs post) :
    GrowsOrFails I (fun s => .ok (x s) : StateT σ (Except ε) α) xs post := by
  intro s a s' hs hrun
  obtain ⟨ys, hys, hlast, hpost⟩ := h s hs
  rw [Except.ok.inj hrun] at hlast hpost
  exact ⟨ys, hys, hlast, hpost⟩

theorem bind {x : StateT σ (Except ε) α} {f : α → StateT σ (Except ε) β} {mid : List γ → α → Prop}
    {post : List γ → β → Prop} (hx : GrowsOrFails I x xs mid)
    (hf : ∀ a ys, xs <+: ys → mid ys a → GrowsOrFails I (f a) ys post) :
    GrowsOrFails I (x >>= f) xs post := by
  intro s b s' hs hrun
  obtain ⟨⟨a, s₁⟩, hfirst, hrest⟩ := Except.bind_eq_ok_iff.1 hrun
  obtain ⟨ys, hys, hmiddle, hmid⟩ := hx s a s₁ hs hfirst
  obtain ⟨zs, hzs, hlast, hpost⟩ := hf a ys hys hmid s₁ b s' hmiddle hrest
  exact ⟨zs, hys.trans hzs, hlast, hpost⟩

/-- Actions one after another give a result for each, if what is known of a result stays known. -/
theorem mapM {f : ι → StateT σ (Except ε) α} {post : ι → List γ → α → Prop} {l : List ι}
    (hpost : ∀ i ys zs a, ys <+: zs → post i ys a → post i zs a)
    (hf : ∀ i ∈ l, ∀ ys, xs <+: ys → GrowsOrFails I (f i) ys (post i)) :
    GrowsOrFails I (l.mapM f) xs fun ys as => List.Forall₂ (fun i a => post i ys a) l as :=
  mapM_of_rules pure bind hpost hf

end GrowsOrFails

end ShaderKit
