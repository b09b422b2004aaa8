import Probe.Proofs.Action

namespace Probe.Action
set_option autoImplicit true

theorem Silent.fst_eq_iff {x : Action σ ε α} (hx : Silent x) : (x s).1 = r ↔ x s = (r, s) :=
  ⟨fun h => Prod.ext h (hx s).symm, congrArg Prod.fst⟩

theorem Silent.bind_ok {x : Action σ ε α} (hx : Silent x) (h : (x s).1 = .ok a)
    (f : α → Action σ ε β) : (x >>= f) s = f a s := by
  rw [bind_apply, hx.fst_eq_iff.1 h]

theorem Silent.bind_error {x : Action σ ε α} (hx : Silent x) (h : (x s).1 = .error e)
    (f : α → Action σ ε β) : (x >>= f) s = (.error e, s) := by
  rw [bind_apply, hx.fst_eq_iff.1 h]

theorem Silent.bind_fails {x : Action σ ε α} (hx : Silent x) {f : α → Action σ ε β}
    {g : α → Action σ ε γ} (h : ∀ a e, (f a s).1 = .error e → g a s = (.error e, s))
    (he : ((x >>= f) s).1 = .error e) : (x >>= g) s = (.error e, s) := by
  cases hxs : (x s).1 with
  | error e' =>
    rw [hx.bind_error hxs] at he ⊢
    cases he
    rfl
  | ok a =>
    rw [hx.bind_ok hxs] at he ⊢
    exact h a e he

/-- The action answers the same in both states. -/
def SameAnswer (x : Action σ ε α) (s s' : σ) : Prop := (x s').1 = (x s).1

instance (x : Action σ ε α) : IsPreorder σ (SameAnswer x) where
  refl _ := rfl
  trans _ _ _ h h' := Eq.trans h' h

theorem SameAnswer.bind {x : Action σ ε α} {f : α → Action σ ε β} (hx : Silent x)
    (h : SameAnswer x s s') (hf : ∀ a, SameAnswer (f a) s s') : SameAnswer (x >>= f) s s' := by
  unfold SameAnswer
  cases hxs : (x s).1 with
  | error e => rw [hx.bind_error hxs, hx.bind_error (h.trans hxs)]
  | ok a =>
    rw [hx.bind_ok hxs, hx.bind_ok (h.trans hxs)]
    exact hf a

theorem SameAnswer.demand_bind {f : σ → Option β} {k : β → Action σ ε α} {part : β → γ}
    (h : (f s').map part = (f s).map part)
    (hk : ∀ b b', part b' = part b → (k b' s').1 = (k b s).1) :
    SameAnswer (demand f e >>= k) s s' := by
  simp only [SameAnswer, bind_apply, demand]
  cases hs : f s with
  | none =>
    rw [hs, Option.map_none, Option.map_eq_none_iff] at h
    rw [h]
  | some b =>
    rw [hs, Option.map_some] at h
    obtain ⟨b', hs', hpart⟩ := Option.map_eq_some_iff.1 h
    simp only [hs']
    exact hk b b' hpart

/-- One action reads a place and the other writes it: both fail alike without changing anything,
or both succeed, and then what was written is what is read. -/
structure Accessor (get : Action σ ε α) (set : α → Action σ ε Unit) : Prop where
  silent : Silent get
  fails : ∀ {s e}, (get s).1 = .error e → ∀ v, set v s = (.error e, s)
  writes : ∀ {s a}, (get s).1 = .ok a → ∀ v, ∃ s', set v s = (.ok (), s') ∧ (get s').1 = .ok v

/-- The same for a place that may be missing. Then nothing is written. -/
structure Finder (get : Action σ ε (Option α)) (set : α → Action σ ε (Option Unit)) : Prop where
  silent : Silent get
  fails : ∀ {s e}, (get s).1 = .error e → ∀ v, set v s = (.error e, s)
  misses : ∀ {s}, (get s).1 = .ok none → ∀ v, set v s = (.ok none, s)
  writes : ∀ {s a}, (get s).1 = .ok (some a) → ∀ v,
    ∃ s', set v s = (.ok (some ()), s') ∧ (get s').1 = .ok (some v)

namespace Accessor

theorem fail (e : ε) : Accessor (fail e : Action σ ε α) fun _ => fail e where
  silent := .fail e
  fails h v := by
    cases h
    rfl
  writes h := by cases h

/-- The place depends on an answer that does not change when the place is written. -/
theorem choose {choice : Action σ ε β} {get : β → Action σ ε α} {set : β → α → Action σ ε Unit}
    (hchoice : Silent choice) (h : ∀ b, Accessor (get b) (set b))
    (hkeeps : ∀ b v, Keeps (SameAnswer choice) (set b v)) :
    Accessor (choice >>= get) fun v => choice >>= fun b => set b v where
  silent := hchoice.bind fun b => (h b).silent
  fails he v := hchoice.bind_fails (fun b _ hb => (h b).fails hb v) he
  writes {s a} ha v := by
    cases hc : (choice s).1 with
    | error e =>
      rw [hchoice.bind_error hc] at ha
      cases ha
    | ok b =>
      rw [hchoice.bind_ok hc] at ha ⊢
      obtain ⟨s', hset, hget⟩ := (h b).writes ha v
      have hstill := hkeeps b v s
      rw [hset] at hstill
      refine ⟨s', hset, ?_⟩
      rw [hchoice.bind_ok (hstill.trans hc)]
      exact hget

end Accessor

namespace Finder

/-- Where the first place is missing, what follows is a second place. Writing the second does
not make the first appear. -/
theorem orElse {get : Action σ ε (Option α)} {set : α → Action σ ε (Option Unit)}
    {f : Option α → Action σ ε α} {g : α → Option Unit → Action σ ε Unit} (h : Finder get set)
    (hf : ∀ a, f (some a) = pure a) (hg : ∀ v, g v (some ()) = pure ())
    (h' : Accessor (f none) fun v => g v none)
    (hkeeps : ∀ v, Keeps (SameAnswer get) (g v none)) :
    Accessor (get >>= f) fun v => set v >>= g v where
  silent := by
    refine h.silent.bind ?_
    intro found
    cases found with
    | some a =>
      rw [hf]
      exact .pure a
    | none => exact h'.silent
  fails {s e} he v := by
    cases hget : (get s).1 with
    | error e' =>
      rw [h.silent.bind_error hget] at he
      cases he
      rw [bind_apply, h.fails hget]
    | ok found =>
      rw [h.silent.bind_ok hget] at he
      cases found with
      | some a =>
        rw [hf] at he
        cases he
      | none =>
        rw [bind_apply, h.misses hget]
        exact h'.fails he v
  writes {s a} ha v := by
    cases hget : (get s).1 with
    | error e =>
      rw [h.silent.bind_error hget] at ha
      cases ha
    | ok found =>
      rw [h.silent.bind_ok hget] at ha
      cases found with
      | some b =>
        obtain ⟨s', hset, hread⟩ := h.writes hget v
        refine ⟨s', ?_, ?_⟩
        · rw [bind_apply, hset]
          exact congrFun (hg v) s'
        · rw [h.silent.bind_ok hread, hf]
          rfl
      | none =>
        obtain ⟨s', hset, hread⟩ := h'.writes ha v
        have hstill := hkeeps v s
        rw [hset] at hstill
        refine ⟨s', ?_, ?_⟩
        · rw [bind_apply, h.misses hget]
          exact hset
        · rw [h.silent.bind_ok (hstill.trans hget)]
          exact hread

end Finder

end Probe.Action
