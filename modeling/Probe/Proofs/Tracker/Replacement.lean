import Probe.Proofs.Tracker.History

namespace Probe.Tracker
set_option autoImplicit true

/-- An event of the thread was attributed to the token, and its result was neither handed out
nor forgotten since. -/
def Unclaimed (h : History) (thread : ThreadId) (k : Token) (r : MethodResult) : Prop :=
  ∃ before event rest, h = before ++ (.observe event, .captured (some (k, r))) :: rest ∧
    event.thread = thread ∧ ∀ x ∈ rest, x.1.spares k thread

theorem unclaimed_cons {h : History} :
    Unclaimed (x :: h) thread k r ↔
      (∃ event, x = (.observe event, .captured (some (k, r))) ∧ event.thread = thread ∧
        ∀ y ∈ h, y.1.spares k thread) ∨ Unclaimed h thread k r := by
  constructor
  · rintro ⟨before, event, rest, he, ht, hs⟩
    cases before with
    | nil =>
      obtain ⟨rfl, rfl⟩ := List.cons.inj he
      exact .inl ⟨event, rfl, ht, hs⟩
    | cons y before =>
      obtain ⟨-, rfl⟩ := List.cons.inj he
      exact .inr ⟨before, event, rest, rfl, ht, hs⟩
  · rintro (⟨event, rfl, ht, hs⟩ | ⟨before, event, rest, rfl, ht, hs⟩)
    · exact ⟨[], event, h, rfl, ht, hs⟩
    · exact ⟨x :: before, event, rest, rfl, ht, hs⟩

/-- The captured results are those of the start that were spared and the unclaimed ones. -/
theorem Coherent.captured_after_iff (h : Coherent t) (ops : List Operation) :
    (t.after ops).captured.get? k = some (thread, r) ↔
      (t.captured.get? k = some (thread, r) ∧ ∀ x ∈ t.history ops, x.1.spares k thread) ∨
        Unclaimed (t.history ops) thread k r := by
  induction ops generalizing t with
  | nil => simp [history, Unclaimed]
  | cons op ops ih =>
    have hcap : ((t.perform op).1 = .captured (some (k, r)) ∧
          ∃ e, t.pending.get? k = some e ∧ e.thread = thread) ↔
        ∃ event, (op, (t.perform op).1) = (.observe event, .captured (some (k, r))) ∧
          event.thread = thread := by
      constructor
      · rintro ⟨ha, e, hp, rfl⟩
        obtain ⟨event, e', rfl, hp', hy⟩ := perform_captured ha
        cases hp.symm.trans hp'
        exact ⟨event, by rw [ha], hy.thread⟩
      · rintro ⟨event, hx, rfl⟩
        obtain ⟨rfl, ha⟩ := Prod.mk.inj hx
        obtain ⟨_, e, he, hp, hy⟩ := perform_captured ha
        cases he
        exact ⟨ha, e, hp, hy.thread.symm⟩
    rw [after_cons, ih (h.perform op), h.captured_iff, hcap, history, unclaimed_cons]
    simp only [List.forall_mem_cons]
    grind

theorem registered_unique (hm : (.expect e, .token k) ∈ empty.history ops)
    (hp : (empty.after ops).pending.get? k = some e') : e' = e :=
  Coherent.empty.expect_unique (registered_of_pending hp) hm

theorem captured_thread (hm : (.expect e, .token k) ∈ empty.history ops)
    (hc : (empty.after ops).captured.get? k = some (thread, r)) : thread = e.thread := by
  obtain ⟨event, e', -, rfl, hs⟩ := origin_of_captured hc
  rw [Coherent.empty.expect_unique (hs.subset List.mem_cons_self) hm]

theorem pending_expect_iff (hm : (.expect e, .token k) ∈ empty.history ops)
    (new e' : Expectation) :
    ((empty.after ops).expect new).2.pending.get? k = some e' ↔
      (empty.after ops).pending.get? k = some e' ∧ new.replaces e' = false := by
  have hne : k ≠ (empty.after ops).issued + 1 := fun hk =>
    Nat.not_succ_le_self _ (hk ▸ (Coherent.empty.token_bounds hm).2)
  have hp := (Coherent.empty.after ops).pending_iff (.expect new) k e'
  simpa [hne, Tracker.perform] using hp

/-- A new step ends the pending steps of its thread and touches no other record. A step that has
captured a result already still hands it out, and does so exactly as long as it is unclaimed. -/
theorem expect_step_replaces (ops : List Operation) (thread : ThreadId) (method : MethodId)
    (depth : Nat) :
    let h := empty.history ops
    let t := empty.after ops
    let t' := (t.expect ⟨thread, method, depth, .step⟩).2
    (∀ s e, (.expect e, .token s) ∈ h → e.thread = thread → e.sort = .step →
      t'.isPending s = false ∧ ∀ r, (t'.take s).1 = some r ↔ Unclaimed h thread s r) ∧
    (∀ s e, (.expect e, .token s) ∈ h → e.thread ≠ thread ∨ e.sort = .methodExit →
      t'.pending.get? s = t.pending.get? s ∧ t'.captured.get? s = t.captured.get? s) := by
  intro h t t'
  have hc : Coherent t := Coherent.empty.after ops
  have hcap : t'.captured = t.captured := congrArg (fun x => x.2.captured) (hc.expect_eq _)
  refine ⟨fun s e hm ht hs => ⟨?_, fun r => ?_⟩, fun s e hm hne => ⟨?_, by rw [hcap]⟩⟩
  · rw [isPending, Table.contains_eq_false_iff, Option.eq_none_iff_forall_ne_some]
    intro e' hp
    obtain ⟨hp, hr⟩ := (pending_expect_iff hm _ e').1 hp
    cases registered_unique hm hp
    rw [Expectation.replaces_iff.2 ⟨rfl, ht, hs⟩] at hr
    cases hr
  · rw [take_eq_some_iff, hcap]
    constructor
    · rintro ⟨thread', hg⟩
      cases (captured_thread hm hg).trans ht
      rcases (Coherent.empty.captured_after_iff ops).1 hg with ⟨hg, -⟩ | hu
      · simp [empty] at hg
      · exact hu
    · intro hu
      exact ⟨thread, (Coherent.empty.captured_after_iff ops).2 (.inr hu)⟩
  · apply Option.ext
    intro e'
    rw [pending_expect_iff hm, and_iff_left_iff_imp]
    intro hp
    cases registered_unique hm hp
    rw [← Bool.not_eq_true, Expectation.replaces_iff]
    rintro ⟨-, ht, hs⟩
    rcases hne with hne | hne
    · exact hne ht
    · rw [hs] at hne
      cases hne

/-- The first step of the thread has captured a result and the second one is pending when a
third comes, with a method exit of the thread and a step of another one beside them. -/
theorem expect_step_replaces_third :
    let step : Expectation := ⟨1, ⟨"Calc", "compute", "()I"⟩, 2, .step⟩
    let exit : Expectation := { step with sort := .methodExit }
    let other : Expectation := { step with thread := 5 }
    let result : MethodResult := ⟨step.method, 2, .int 7, .returned⟩
    let ops : List Operation := [.expect step, .observe ⟨1, 2, step.method, .methodExit (.int 7)⟩,
      .expect step, .expect exit, .expect other]
    let t' := ((empty.after ops).expect step).2
    (t'.take 1).1 = some result ∧ t'.isPending 2 = false ∧
      t'.pending.get? 3 = some exit ∧ t'.pending.get? 4 = some other := by
  intro step exit other result ops t'
  obtain ⟨hs, hu⟩ := expect_step_replaces ops 1 step.method 2
  have hexit : (empty.after ops).pending.get? 3 = some exit := by decide
  have hother : (empty.after ops).pending.get? 4 = some other := by decide
  have hfirst : Unclaimed (empty.history ops) 1 1 result :=
    ⟨[(.expect step, .token 1)], ⟨1, 2, step.method, .methodExit (.int 7)⟩, _, rfl, rfl,
      by decide⟩
  exact ⟨((hs 1 step (by decide) rfl rfl).2 result).2 hfirst, (hs 2 step (by decide) rfl rfl).1,
    (hu 3 exit (by decide) (.inr rfl)).1.trans hexit,
    (hu 4 other (by decide) (.inl (by decide))).1.trans hother⟩

/-- A new step does not drop the result that the step before it has captured. -/
theorem captured_step_outlives_next :
    let step : Expectation := ⟨1, ⟨"Calc", "compute", "()I"⟩, 2, .step⟩
    let ops : List Operation :=
      [.expect step, .observe ⟨1, 2, step.method, .methodExit (.int 7)⟩]
    (.expect step, .token 1) ∈ empty.history ops ∧
      (((empty.after ops).expect step).2.take 1).1 ≠ none := by
  decide

end Probe.Tracker
