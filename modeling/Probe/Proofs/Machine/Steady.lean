import Probe.Proofs.Machine.Compatible

namespace Probe.Machine
set_option autoImplicit true

open Probe.Action (Keeps Silent)

/-- Nothing happens to the stack, and the code is not found to be malformed. -/
structure Steady (x : Exec η κ α) : Prop where
  stack : ∀ s, (x s).2.stack = s.stack
  blameless : ∀ s e, (x s).1 ≠ .error (.error (.malformed e))

namespace Steady

theorem of_silent {x : Exec η κ α} (hx : Silent x)
    (he : ∀ s e, (x s).1 ≠ .error (.error (.malformed e))) : Steady x where
  stack s := congrArg State.stack (hx s).symm
  blameless := he

theorem pure (a : α) : Steady (pure a : Exec η κ α) :=
  of_silent (.pure a) fun _ _ h => by cases h

theorem read (f : State η κ → α) : Steady (Action.read f : Exec η κ α) :=
  of_silent (.read f) fun _ _ h => by cases h

theorem fail {f : Failure} (hf : ∀ e, f ≠ .malformed e) : Steady (fail f : Exec η κ α) := by
  refine of_silent (.fail _) ?_
  rintro s e ⟨⟩
  exact hf e rfl

theorem crash : Steady (Action.fail .crash : Exec η κ α) :=
  of_silent (.fail _) fun _ _ h => by cases h

theorem call (c : Call η κ α) : Steady (call c) where
  stack _ := rfl
  blameless s e he := by
    change (c s.world).1.mapError (·.map Failure.ofRemote) = _ at he
    generalize (c s.world).1 = r at he
    rcases r with (f | _) | a
    · injection he with he
      injection he with he
      exact Failure.ofRemote_ne_malformed f e he
    · cases he
    · cases he

theorem bind {x : Exec η κ α} {f : α → Exec η κ β} (hx : Steady x) (hf : ∀ a, Steady (f a)) :
    Steady (x >>= f) := by
  constructor
  · intro s
    have hstack := hx.stack s
    rw [Action.bind_apply]
    rcases hxs : x s with ⟨e | a, s'⟩
    · rwa [hxs] at hstack
    · rw [hxs] at hstack
      exact ((hf a).stack s').trans hstack
  · intro s e he
    rcases Action.of_bind_error he with he | ⟨a, s', -, he⟩
    · exact hx.blameless s e he
    · exact (hf a).blameless s' e he

end Steady

/-- What holds of steady steps, and of one step after the other, holds of all that leads from
operands to results. -/
theorem composable_of_steady {setup setup' : Setup η κ}
    {P : (α : Type) → Exec η κ α → Exec η κ α → Prop} (hscope : setup'.scope = setup.scope)
    (htracking : setup'.tracking = setup.tracking) (hhooks : setup'.hooks = setup.hooks)
    (hP : ∀ {α : Type} {x : Exec η κ α}, Steady x → P α x x)
    (hbind : ∀ {α β : Type} {x y : Exec η κ α} {f g : α → Exec η κ β},
      P α x y → (∀ a, P β (f a) (g a)) → P β (x >>= f) (y >>= g)) :
    Composable {} setup setup' P where
  scope := hscope
  tracking := htracking
  pure a := hP (.pure a)
  bind := hbind
  fail hf := hP (.fail hf.1)
  crash _ := hP .crash
  names f := hP ⟨fun _ => rfl, fun _ _ h => by cases h⟩
  ask r _ _ _ hf := hbind (hP (.call _)) fun answer =>
    hf answer (Conditions.allows_of_live rfl _ answer)
  perform callee name signature args f g _ hf := by
    have hsame : perform setup' callee name signature args =
        perform setup callee name signature args := by
      unfold perform
      rw [hscope, hhooks]
    rw [hsame]
    exact hbind (hP (.call _)) fun answer => hf answer (Conditions.allows_of_live rfl _ answer)
  expect _ e := hP ⟨fun _ => rfl, fun _ _ h => by cases h⟩
  withdraw _ token := hP ⟨fun _ => rfl, fun _ _ h => by cases h⟩

theorem composable_steady (setup : Setup η κ) :
    Composable {} setup setup fun _ x _ => Steady x :=
  composable_of_steady rfl rfl rfl id Steady.bind

theorem steady_remote (r : Remote η α) : Steady (remote r : Exec η κ α) := .call _

theorem steady_checkpoint (setup : Setup η κ) (pc : Nat) : Steady (checkpoint setup pc) := by
  have hstop (c : Prop) [Decidable c] {f : Failure} (hf : ∀ e, f ≠ .malformed e) :
      Steady (require c f : Exec η κ Unit) :=
    (composable_steady setup).require c (Conditions.reports_of_live rfl hf)
  apply (Steady.read _).bind
  intro cancelled
  apply (hstop _ (by simp)).bind
  intro _
  exact hstop _ (by simp)

theorem inside_target (receiver : Operand) (name signature : String) :
    Keeps Inside (target receiver name signature : Exec η κ Target) := by
  unfold target
  split
  · exact .pure _
  · exact .pure _
  · exact .fail _
  · exact .fail _

theorem inside_popArgs (site : Site) (n : Nat) :
    Keeps Inside (popArgs site n : Exec η κ (List Value)) := by
  induction n with
  | zero => exact .pure _
  | succ n ih => exact (inside_popValue site).bind fun _ => ih.bind fun _ => .pure _

end Probe.Machine
