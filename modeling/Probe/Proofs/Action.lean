import Mathlib.Order.Defs.Unbundled
import Probe.Action

namespace Probe.Action
set_option autoImplicit true

/-- However the action ends, the state it leaves is related to the one it found. -/
def Keeps (R : σ → σ → Prop) (x : Action σ ε α) : Prop := ∀ s, R s (x s).2

abbrev Silent (x : Action σ ε α) : Prop := Keeps Eq x

instance : LawfulMonad (Action σ ε) :=
  LawfulMonad.mk' (Action σ ε)
    (fun x => by
      funext s
      rcases h : x s with ⟨_ | a, s'⟩ <;> simp [Functor.map, Action.bind, Action.pure, h])
    (fun _ _ => rfl)
    (fun x f g => by
      funext s
      rcases h : x s with ⟨_ | a, s'⟩ <;> simp only [bind_apply, h])

theorem bind_of_ok {x : Action σ ε α} (h : x s = (.ok a, s')) (f : α → Action σ ε β) :
    (x >>= f) s = f a s' := by
  rw [bind_apply, h]

theorem bind_of_error {x : Action σ ε α} (h : x s = (.error e, s')) (f : α → Action σ ε β) :
    (x >>= f) s = (.error e, s') := by
  rw [bind_apply, h]

theorem bind_eq_ok {x : Action σ ε α} {f : α → Action σ ε β} :
    (x >>= f) s = (.ok b, s'') ↔ ∃ a s', x s = (.ok a, s') ∧ f a s' = (.ok b, s'') := by
  rw [bind_apply]
  rcases x s with ⟨_ | a, s'⟩
  · simp
  · constructor
    · exact fun h => ⟨a, s', rfl, h⟩
    · rintro ⟨_, _, ⟨⟩, h⟩
      exact h

theorem of_bind_error {x : Action σ ε α} {f : α → Action σ ε β}
    (h : ((x >>= f) s).1 = .error e) :
    (x s).1 = .error e ∨ ∃ a s', x s = (.ok a, s') ∧ (f a s').1 = .error e := by
  rw [bind_apply] at h
  rcases hx : x s with ⟨e' | a, s'⟩
  · rw [hx] at h
    cases h
    exact .inl rfl
  · rw [hx] at h
    exact .inr ⟨a, s', rfl, h⟩

theorem demand_eq_ok {f : σ → Option α} {e : ε} :
    demand f e s = (.ok a, s') ↔ s' = s ∧ f s = some a := by
  unfold demand
  cases f s <;> simp [eq_comm, and_comm]

theorem require_eq_ok {c : Prop} [Decidable c] {e : ε} {s s' : σ} {u : Unit} :
    require c e s = (.ok u, s') ↔ s' = s ∧ c := by
  unfold require
  by_cases c <;> simp [*, eq_comm]

theorem zoom_eq_ok {x : Action τ ε α} {part : σ → τ} {replace : τ → σ → σ} {rename : ε → δ} :
    x.zoom part replace rename s = (.ok a, s') ↔
      ∃ t, x (part s) = (.ok a, t) ∧ s' = replace t s := by
  unfold zoom
  rcases x (part s) with ⟨_ | b, t⟩
  · constructor
    · rintro ⟨⟩
    · rintro ⟨_, ⟨⟩, -⟩
  · constructor
    · rintro ⟨⟩
      exact ⟨t, rfl, rfl⟩
    · rintro ⟨_, ⟨⟩, rfl⟩
      rfl

theorem Silent.eq_error {x : Action σ ε α} (hx : Silent x) (h : ∀ a, x s ≠ (.ok a, s)) :
    ∃ e, x s = (.error e, s) := by
  have hs := hx s
  rcases he : x s with ⟨e | a, s'⟩
  · exact ⟨e, by rw [he] at hs; rw [hs]⟩
  · rw [he] at hs
    subst hs
    exact absurd he (h a)

/-- The second action may rely on what the first one has found out. -/
theorem rel_bind {R : σ → σ → Prop} [IsTrans σ R] {x : Action σ ε α} {f : α → Action σ ε β}
    (hx : R s (x s).2) (hf : ∀ a s', x s = (.ok a, s') → R s' (f a s').2) :
    R s ((x >>= f) s).2 := by
  rw [bind_apply]
  rcases he : x s with ⟨_ | a, s'⟩
  · rwa [he] at hx
  · rw [he] at hx
    exact IsTrans.trans _ _ _ hx (hf a s' he)

theorem rel_bind_left {R S : σ → σ → Prop} {x : Action σ ε α} {f : α → Action σ ε β}
    (hx : S s (x s).2) (hf : ∀ a, Keeps R (f a))
    (hS : ∀ {s' s''}, S s s' → R s' s'' → S s s'') : S s ((x >>= f) s).2 := by
  rw [bind_apply]
  rcases he : x s with ⟨_ | a, s'⟩
  · rwa [he] at hx
  · rw [he] at hx
    exact hS hx (hf a s')

namespace Keeps

theorem mono {R S : σ → σ → Prop} {x : Action σ ε α} (hx : Keeps R x)
    (h : ∀ s s', R s s' → S s s') : Keeps S x :=
  fun s => h s _ (hx s)

section
variable {R : σ → σ → Prop} [Std.Refl R]

theorem of_silent {x : Action σ ε α} (hx : Silent x) : Keeps R x := by
  intro s
  rw [← hx s]
  exact refl s

theorem pure (a : α) : Keeps R (pure a : Action σ ε α) := fun s => refl s

theorem fail (e : ε) : Keeps R (fail e : Action σ ε α) := fun s => refl s

theorem read (f : σ → α) : Keeps R (read f : Action σ ε α) := fun s => refl s

theorem ofExcept (r : Except ε α) : Keeps R (ofExcept r : Action σ ε α) := fun s => refl s

theorem require (c : Prop) [Decidable c] (e : ε) : Keeps R (require c e : Action σ ε Unit) :=
  fun s => refl s

theorem demand (f : σ → Option α) (e : ε) : Keeps R (demand f e : Action σ ε α) := by
  intro s
  unfold Action.demand
  split <;> exact refl s

end

theorem modify {R : σ → σ → Prop} {f : σ → σ} (h : ∀ s, R s (f s)) :
    Keeps R (modify f : Action σ ε Unit) := h

theorem attempt {R : σ → σ → Prop} {x : Action σ ε α} (hx : Keeps R x) :
    Keeps R (attempt x : Action σ δ (Except ε α)) := hx

variable {R : σ → σ → Prop} [IsTrans σ R]

theorem bind_of {x : Action σ ε α} {f : α → Action σ ε β} (hx : Keeps R x)
    (hf : ∀ s a s', x s = (.ok a, s') → R s' (f a s').2) : Keeps R (x >>= f) :=
  fun s => rel_bind (hx s) (hf s)

theorem bind {x : Action σ ε α} {f : α → Action σ ε β} (hx : Keeps R x)
    (hf : ∀ a, Keeps R (f a)) : Keeps R (x >>= f) :=
  hx.bind_of fun _ a s' _ => hf a s'

end Keeps

end Probe.Action
